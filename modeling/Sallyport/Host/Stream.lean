/-
The stream buffer of the host kernel: at most sixteen bytes, first in first out. A send takes what
fits, a receive gives what is there.
-/
import Sallyport.Host.Basic

namespace Sallyport.Host

structure Stream where
  /-- The bytes, oldest first. -/
  bytes : List UInt8
  deriving DecidableEq, Repr

namespace Stream

def boot : Stream := ⟨[]⟩

/-- The most bytes a stream holds. -/
def capacity : Nat := 16

/-- How many more bytes the stream takes. -/
def spaces (s : Stream) : Except Fault Nat := minus capacity s.bytes.length

/-- Takes as many bytes as fit and says how many. -/
def send (data : List UInt8) : Attempt Stream Nat := fun s =>
  match s.spaces with
  | .ok room =>
    let count := min data.length room
    (.ok count, ⟨s.bytes ++ data.take count⟩)
  | .error f => (.error f, s)

/-- Moves as many bytes as fit to the front of a buffer and says how many. -/
def receive (buffer : List UInt8) (s : Stream) : Nat × List UInt8 × Stream :=
  let count := min buffer.length s.bytes.length
  (count, s.bytes.take count ++ buffer.drop count, ⟨s.bytes.drop count⟩)

/-- A stream has room for something, and wakes its reader no later than when it is full. -/
def canCreate (size triggerLevel : UInt64) : Bool := size ≠ 0 && triggerLevel ≤ size

def sizeOf (n : Nat) : Reply := .size (UInt64.ofNat n)

/-- Storage of the caller has to have one byte more than the stream, a sum that can be too large
for its word. -/
def createStatic (size : UInt64) (storage : Storage) (block : Address) : Except Fault Reply :=
  if size = 0xffffffffffffffff then .error .addOverflow
  else .ok (.address (if storage.length < size.toNat + 1 then 0 else block))

def step : StreamCall → Attempt Stream Reply
  | .send _ data _, s =>
    let (count, s) := send data.items s
    (count.map sizeOf, s)
  | .receive _ buffer _, s =>
    let (count, buffer, s) := s.receive buffer.items
    (.ok (.received (UInt64.ofNat count) buffer), s)
  | .nextMessageLength _, s => (.ok (sizeOf s.bytes.length), s)
  | .delete _, _ => (.ok .nothing, ⟨[]⟩)
  | .isFull _, s => (.ok (.code (Code.ofBool (s.bytes.length = capacity))), s)
  | .isEmpty _, s => (.ok (.code (Code.ofBool s.bytes.isEmpty)), s)
  | .reset _, _ => (.ok (.code Code.pass), ⟨[]⟩)
  | .spacesAvailable _, s => (s.spaces.map sizeOf, s)
  | .bytesAvailable _, s => (.ok (sizeOf s.bytes.length), s)
  | .setTriggerLevel _ level, s => (.ok (.code (Code.ofBool (level.toNat ≤ capacity))), s)
  | .create size triggerLevel _, s =>
    (.ok (.address (if canCreate size triggerLevel then newStreamBuffer else 0)), s)
  | .createStatic size _ _ storage block, s => (createStatic size storage block, s)

end Stream

end Sallyport.Host
