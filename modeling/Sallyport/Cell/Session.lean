/-
Uses of one cell of a number, one after another: borrowing and trying to, working through the live
borrow, and giving it back. The session counts the borrows that are alive.
-/
import Sallyport.Cell

namespace Sallyport.Cell

/-- One use of the cell. -/
inductive Use where
  | borrow
  | tryBorrow
  /-- Gives back the newest borrow that is alive. -/
  | release
  | read
  | add (amount : Int64)
  /-- Borrows, reads and gives back at once. -/
  | peek
  deriving DecidableEq, Repr

/-- What a use shows. -/
inductive Seen where
  | borrowed
  | refused
  | value (n : Int64)
  /-- There was no live borrow to work through. -/
  | nothing
  deriving DecidableEq, Repr

/-- The cell and the number of borrows that are alive. -/
structure Session where
  cell : Cell Int64
  alive : Nat
  deriving DecidableEq, Repr

namespace Session

def start (contents : Int64) : Session := ⟨Cell.new contents, 0⟩

/-- The sum, if it fits. -/
def checkedAdd (a b : Int64) : Option Int64 :=
  let sum := a + b
  if sum.toInt = a.toInt + b.toInt then some sum else none

def step : Use → Attempt Session Seen
  | .borrow, s =>
    match s.cell.borrow with
    | .ok held => (.ok .borrowed, ⟨held, s.alive + 1⟩)
    | .error f => (.error f, s)
  | .tryBorrow, s =>
    match s.cell.tryBorrow with
    | some held => (.ok .borrowed, ⟨held, s.alive + 1⟩)
    | none => (.ok .refused, s)
  | .release, s =>
    match s.alive with
    | 0 => (.ok .nothing, s)
    | n + 1 => (.ok (.value s.cell.contents), ⟨s.cell.release, n⟩)
  | .read, s =>
    match s.alive with
    | 0 => (.ok .nothing, s)
    | _ + 1 => (.ok (.value s.cell.contents), s)
  | .add amount, s =>
    match s.alive with
    | 0 => (.ok .nothing, s)
    | _ + 1 =>
      match checkedAdd s.cell.contents amount with
      | some sum => (.ok (.value sum), ⟨s.cell.set sum, s.alive⟩)
      | none => (.error .addOverflow, s)
  | .peek, s =>
    match Cell.use (fun n => (n, n)) s.cell with
    | (.ok n, cell) => (.ok (.value n), ⟨cell, s.alive⟩)
    | (.error f, cell) => (.error f, ⟨cell, s.alive⟩)

/-- The results of a list of uses and the session they leave. -/
def run : List Use → Session → List (Except Fault Seen) × Session
  | [], s => ([], s)
  | u :: us, s =>
    let (seen, s) := step u s
    let (rest, s) := run us s
    (seen :: rest, s)

end Session

end Sallyport.Cell
