/-
A log recorded into with words alone, the way the image does it. The index of the newest slot is a
word of some width and may be any; with no newest slot the largest word is taken for it, which is
past the end of every log and has zero after it. A count is raised only if the sum is a word.
-/
import Sallyport.Trace.Ring

namespace Sallyport.Trace

/-- The slots and the index of the newest one, a word of `w` bits. -/
structure WordRing (w : Nat) (α : Type) where
  last : Option (BitVec w)
  slots : List (Slot α)
  deriving DecidableEq, Repr

namespace WordRing

variable {w : Nat} {α : Type}

/-- The log, with its index as a number. -/
def toRing (r : WordRing w α) : Ring α := ⟨r.last.map BitVec.toNat, r.slots⟩

/-- Where the newest slot is looked for. -/
def newest (r : WordRing w α) : BitVec w := r.last.getD (BitVec.allOnes w)

/-- The index the next new run goes to. The sum goes round to zero after the largest word. -/
def next (r : WordRing w α) : BitVec w :=
  let after := r.newest + 1#w
  if r.slots.length ≤ after.toNat then 0#w else after

/-- A count raised by one, if that is a word. -/
def raise? (count : UInt32) : Option UInt32 := if count.toNat + 1 < 0x100000000 then some (count + 1) else none

/-- Counts an event into the newest run, if it equals that run and the count can be raised. -/
def merge? [DecidableEq α] (line : UInt16) (payload : α) (r : WordRing w α) : Option (WordRing w α) :=
  match r.slots[r.newest.toNat]? with
  | none => none
  | some slot =>
    if slot.line = line ∧ slot.payload = payload then
      (raise? slot.count).map fun count =>
        { r with slots := r.slots.set r.newest.toNat { slot with count } }
    else none

/-- Starts a new run. A log without slots stays as it is. -/
def advance (line : UInt16) (payload : α) (r : WordRing w α) : WordRing w α :=
  match r.slots[r.next.toNat]? with
  | none => r
  | some old => ⟨some r.next, r.slots.set r.next.toNat ⟨line, old.generation + 1, 1, payload⟩⟩

/-- Records an event. -/
def entry [DecidableEq α] (line : UInt16) (payload : α) (r : WordRing w α) : WordRing w α :=
  match r.merge? line payload with
  | some merged => merged
  | none => r.advance line payload

end WordRing

end Sallyport.Trace
