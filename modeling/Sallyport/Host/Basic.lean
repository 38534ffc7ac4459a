/-
A kernel for the host: what the tests of an image run against. All objects of a kind share one
state whatever handle names them; only tasks are told apart. Time stands still.
-/
import Sallyport.Service.Call
import Sallyport.Service.Reply

namespace Sallyport.Host

/-- The tick count, always. -/
def tickCount : UInt32 := 1234

/-- The period of the timer until one is given. -/
def defaultPeriod : UInt32 := 100

/-- Handles the host kernel gives out, told apart by their addresses. -/
def idleTask : Address := 0x1
def daemonTask : Address := 0x2
def currentTask : Address := 0x10
def newTask : Address := 0x1000
def newQueue : Address := 0x2000
def newMutex : Address := 0x2100
def newSemaphore : Address := 0x2200
def newSet : Address := 0x2300
def newEventGroup : Address := 0x3000
def newStreamBuffer : Address := 0x4000
def newTimer : Address := 0x5000

/-- How many tasks the host kernel reports. -/
def taskCount : Nat := 3

/-- Where the memory of the host has room for one block after another. An address may come again, as
that of a block that was freed does, but no block lies at the null address. -/
structure Sites where
  addressOf : Nat → Address
  addressOf_ne_zero : ∀ n, addressOf n ≠ 0

/-- Blocks lie next to each other, each with more room than the heap has. -/
def Sites.inARow : Sites where
  addressOf n := 0x100000010 + 0x2000 * UInt64.ofNat n
  addressOf_ne_zero n h := by
    -- The last digits of an address do not depend on `n`.
    have hlow := congrArg (fun a : UInt64 => a.toNat % 0x2000) h
    simp only [UInt64.toNat_add, UInt64.toNat_mul, UInt64.reduceToNat] at hlow
    omega

/-- Where the host has the names that it gives, one to every task and one to the timer. -/
structure Names where
  task : Address
  timer : Address
  task_ne_zero : task ≠ 0
  timer_ne_zero : timer ≠ 0

/-- The names lie next to each other. -/
def Names.inARow : Names := ⟨0x100000, 0x100005, by decide, by decide⟩

def Names.ofTask (n : Names) : Label := ⟨n.task, "fake"⟩

def Names.ofTimer (n : Names) : Label := ⟨n.timer, "fake-timer"⟩

/-- What is left of a size when some of it is taken away, which has to be there. -/
def minus (size taken : Nat) : Except Fault Nat :=
  if taken ≤ size then .ok (size - taken) else .error .subOverflow

theorem minus_of_le {size taken : Nat} (h : taken ≤ size) : minus size taken = .ok (size - taken) := if_pos h

/-- The first bytes of a text go over the first bytes of a buffer, as many as both have. -/
def copyInto (buffer bytes : List UInt8) : List UInt8 :=
  bytes.take buffer.length ++ buffer.drop bytes.length

/-- Writes a text and its final null byte, cut so that both fit. An empty buffer stays empty. -/
def writeText (buffer bytes : List UInt8) : List UInt8 :=
  match buffer.length with
  | 0 => buffer
  | room + 1 => copyInto buffer (bytes.take room ++ [0])

end Sallyport.Host
