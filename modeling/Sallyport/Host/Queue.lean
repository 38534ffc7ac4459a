/-
The queue of the host kernel: at most eight items, each a run of bytes of its own length. A
semaphore is a queue of items without bytes. The name in the registry is the one given last.
-/
import Sallyport.Host.Basic

namespace Sallyport.Host

structure Queue where
  /-- The items, oldest first. -/
  items : List (List UInt8)
  name : Option Label
  deriving DecidableEq, Repr

namespace Queue

def boot : Queue := ⟨[], none⟩

/-- The most items a queue holds. -/
def capacity : Nat := 8

/-- Puts an item in; a full queue refuses, unless the item goes in place of all others. -/
def send (item : List UInt8) (position : CopyPosition) (q : Queue) : Int32 × Queue :=
  if position = .overwrite then (Code.pass, { q with items := [item] })
  else if q.items.length = capacity then (Code.queueFull, q)
  else if position = .front then (Code.pass, { q with items := item :: q.items })
  else (Code.pass, { q with items := q.items ++ [item] })

/-- The oldest item over the first bytes of a buffer; without an item the buffer stays. -/
def peek (buffer : List UInt8) (q : Queue) : Int32 × List UInt8 :=
  match q.items with
  | [] => (Code.queueEmpty, buffer)
  | item :: _ => (Code.pass, copyInto buffer item)

/-- How many more items the queue takes. -/
def spaces (q : Queue) : Except Fault Nat := minus capacity q.items.length

/-- Removes the oldest item. -/
def pop (q : Queue) : Queue := { q with items := q.items.tail }

/-- A queue of no items cannot be created. -/
def canCreate (length : UInt32) : Bool := length ≠ 0

/-- In memory of the caller, a queue of items with bytes needs storage for them. -/
def canCreateStatic (length itemSize : UInt32) (storage : Option Storage) : Bool :=
  !(length = 0 || (itemSize ≠ 0 && storage.isNone))

/-- A semaphore counts to something, and starts no higher. -/
def canCount (maxCount initialCount : UInt32) : Bool := maxCount ≠ 0 && initialCount ≤ maxCount

/-- The address if the condition holds, else null. -/
def addressIf (condition : Bool) (address : Address) : Reply :=
  .address (if condition then address else 0)

def step : QueueCall → Attempt Queue Reply
  | .create length _ _, q => (.ok (addressIf (canCreate length) newQueue), q)
  | .createStatic length itemSize storage block _, q =>
    (.ok (addressIf (canCreateStatic length itemSize storage) block), q)
  | .reset _ _, q => (.ok (.code Code.pass), { q with items := [] })
  | .genericSend _ item _ position, q =>
    let (code, q) := q.send item.items position
    (.ok (.code code), q)
  | .send _ item _, q =>
    let (code, q) := q.send item.items .back
    (.ok (.code code), q)
  | .give _ _, q =>
    let (code, q) := q.send [] .back
    (.ok (.code code), q)
  | .messagesWaiting _, q => (.ok (.word (UInt32.ofNat q.items.length)), q)
  | .spacesAvailable _, q => (q.spaces.map fun n => .word (UInt32.ofNat n), q)
  | .receive _ buffer _, q =>
    let (code, bytes) := q.peek buffer.items
    (.ok (.filled code bytes), q.pop)
  | .peek _ buffer _, q =>
    let (code, bytes) := q.peek buffer.items
    (.ok (.filled code bytes), q)
  | .semaphoreTake _ _, q => (.ok (.code (Code.ofBool !q.items.isEmpty)), q.pop)
  | .mutexHolder _, q => (.ok (.address 0), q)
  | .createMutex _, q => (.ok (.address newMutex), q)
  | .createMutexStatic _ block, q => (.ok (.address block), q)
  | .createCounting maxCount initialCount, q =>
    (.ok (addressIf (canCount maxCount initialCount) newSemaphore), q)
  | .createCountingStatic maxCount initialCount block, q =>
    (.ok (addressIf (canCount maxCount initialCount) block), q)
  | .takeRecursive _ _, q => (.ok (.code Code.pass), q)
  | .giveRecursive _, q => (.ok (.code Code.pass), q)
  | .createSet length, q => (.ok (addressIf (canCreate length) newSet), q)
  | .selectFromSet _ _, q => (.ok (.address 0), q)
  | .addToSet _ _, q => (.ok (.code Code.pass), q)
  | .removeFromSet _ _, q => (.ok (.code Code.pass), q)
  | .addToRegistry _ name, q => (.ok .nothing, { q with name := some name })
  | .unregister _, q => (.ok .nothing, { q with name := none })
  | .getName _, q => (.ok (.text q.name), q)
  | .delete _, q => (.ok .nothing, { q with items := [] })

end Queue

end Sallyport.Host
