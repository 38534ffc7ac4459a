/-
The scribe as it works in memory. Its room is a stretch of memory. A write cuts off as much of it as
the piece takes, copies the beginning of the piece over that part and goes on with the rest. A cut
behind the end of a stretch, a beginning longer than the piece and a copy over a stretch of another
length have no result.
-/
import Sallyport.Epitaph

namespace Sallyport

/-- A stretch of memory. -/
structure Stretch where
  start : Nat
  length : Nat
  deriving DecidableEq, Repr

namespace Stretch

/-- Cuts a stretch in two, of which the first has the given length. -/
def cut? (s : Stretch) (n : Nat) : Option (Stretch × Stretch) :=
  if n ≤ s.length then some (⟨s.start, n⟩, ⟨s.start + n, s.length - n⟩) else none

/-- Copies bytes over a stretch of memory that is just as long. -/
def copy? (s : Stretch) (bytes memory : List UInt8) : Option (List UInt8) :=
  if bytes.length = s.length ∧ s.start + s.length ≤ memory.length then
    some (memory.take s.start ++ bytes ++ memory.drop (s.start + s.length))
  else none

end Stretch

/-- A memory, and the stretch of it that is left to write into. -/
structure Pen where
  memory : List UInt8
  room : Stretch
  deriving DecidableEq, Repr

namespace Pen

/-- The first bytes of a piece, as many as asked for. -/
def beginning? (n : Nat) (piece : List UInt8) : Option (List UInt8) :=
  if n ≤ piece.length then some (piece.take n) else none

/-- Writes as much of a piece as there is room for. -/
def write? (piece : List UInt8) (p : Pen) : Option Pen := do
  let count := min piece.length p.room.length
  let (front, room) ← p.room.cut? count
  let memory ← front.copy? (← beginning? count piece) p.memory
  return ⟨memory, room⟩

/-- Writes pieces of text one after another. -/
def writeAll? : List String → Pen → Option Pen
  | [], p => some p
  | piece :: pieces, p => do writeAll? pieces (← p.write? (Bytes.ofText piece))

/-- A pen on a buffer in the middle of a memory. -/
def onto (before buffer behind : List UInt8) : Pen :=
  ⟨before ++ buffer ++ behind, ⟨before.length, buffer.length⟩⟩

end Pen

end Sallyport
