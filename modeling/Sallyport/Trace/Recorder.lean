/-
A log in a cell, the way every trace of the image is kept. Recording never faults and never waits:
while somebody has the cell, the event is dropped.
-/
import Sallyport.Cell
import Sallyport.Trace.Ring

namespace Sallyport.Trace

/-- A log that can be recorded into from anywhere. -/
abbrev Recorder (α : Type) : Type := Cell (Ring α)

namespace Recorder

variable {α : Type}

/-- A log of the given capacity that nobody uses. The payload fills slots never written. -/
def new (capacity : Nat) (idle : α) : Recorder α := Cell.new (Ring.new capacity idle)

/-- Records an event from a line, unless somebody has the cell. -/
def record [DecidableEq α] (line : UInt16) (event : α) (r : Recorder α) : Recorder α :=
  match r.tryBorrow with
  | none => r
  | some held => (held.set (held.contents.entry line event)).release

/-! ## Scripts -/

/-- One step of somebody who claims the log, gives it back, or records. -/
inductive Step (α : Type) where
  /-- Claims the cell, or keeps it. -/
  | hold
  | release
  /-- Records an event. Where a script has one place to record from, its line may be left out. -/
  | entry (event : α) (line : UInt16 := 0)
  deriving DecidableEq, Repr

def step [DecidableEq α] (r : Recorder α) : Step α → Recorder α
  | .hold => r.tryBorrow.getD r
  | .release => r.release
  | .entry event line => r.record line event

def run [DecidableEq α] (steps : List (Step α)) (r : Recorder α) : Recorder α := steps.foldl step r

end Recorder

end Sallyport.Trace
