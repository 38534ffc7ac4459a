/-
A bounded log of events. An event equal to the newest one is counted instead of stored; a new one
goes into the slot after the newest, and past the last slot the log starts over at the first. Every
slot keeps how often it has been started anew.
-/

namespace Sallyport.Trace

/-- One logged run of equal events. -/
structure Slot (α : Type) where
  /-- The line the events were recorded from. -/
  line : UInt16
  /-- How often the slot has been started anew. -/
  generation : UInt16
  /-- How many events the run has. -/
  count : UInt32
  payload : α
  deriving DecidableEq, Repr

/-- The slots and the index of the newest one. Before the first event there is none. -/
structure Ring (α : Type) where
  last : Option Nat
  slots : List (Slot α)
  deriving DecidableEq, Repr

namespace Ring

variable {α : Type}

/-- An empty log of the given capacity. -/
def new (capacity : Nat) (init : α) : Ring α := ⟨none, List.replicate capacity ⟨0, 0, 0, init⟩⟩

/-- The newest run, if the log points at one. -/
def lastSlot? (r : Ring α) : Option (Slot α) := r.last.bind fun i => r.slots[i]?

/-- The index the next new run goes to. An index that is missing or past the end leads to the first
slot. -/
def next (r : Ring α) : Nat :=
  match r.last with
  | none => 0
  | some i => if i + 1 < r.slots.length then i + 1 else 0

/-- Counts an event into the newest run, if it equals that run and the count is not full. -/
def merge? [DecidableEq α] (line : UInt16) (payload : α) (r : Ring α) : Option (Ring α) :=
  match r.last with
  | none => none
  | some i =>
    match r.slots[i]? with
    | none => none
    | some slot =>
      if slot.line = line ∧ slot.payload = payload ∧ slot.count ≠ 0xffffffff then
        some { r with slots := r.slots.set i { slot with count := slot.count + 1 } }
      else none

/-- Starts a new run. A log without slots stays as it is. -/
def advance (line : UInt16) (payload : α) (r : Ring α) : Ring α :=
  match r.slots[r.next]? with
  | none => r
  | some old => ⟨some r.next, r.slots.set r.next ⟨line, old.generation + 1, 1, payload⟩⟩

/-- Records an event. -/
def entry [DecidableEq α] (line : UInt16) (payload : α) (r : Ring α) : Ring α :=
  match r.merge? line payload with
  | some merged => merged
  | none => r.advance line payload

/-! ## Writing the fields directly -/

def setLast (last : Option Nat) (r : Ring α) : Ring α := { r with last }

def setCount (i : Nat) (count : UInt32) (r : Ring α) : Ring α :=
  { r with slots := r.slots.modify i fun s => { s with count } }

def setGeneration (i : Nat) (generation : UInt16) (r : Ring α) : Ring α :=
  { r with slots := r.slots.modify i fun s => { s with generation } }

end Ring

end Sallyport.Trace
