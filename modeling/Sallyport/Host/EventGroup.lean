/-
The event group of the host kernel: 32 bits that are set, cleared and waited for. Waiting never
blocks: it reports the bits as they are, and uses up the bits waited for if they are there.
-/
import Sallyport.Host.Basic

namespace Sallyport.Host

structure EventGroup where
  bits : UInt32
  deriving DecidableEq, Repr

namespace EventGroup

def boot : EventGroup := ⟨0⟩

/-- Whether a wait is satisfied: by all of its bits, or by any. -/
def satisfied (bits awaited : UInt32) (all : Bool) : Bool :=
  if all then bits &&& awaited = awaited else bits &&& awaited ≠ 0

def set (bits : UInt32) (g : EventGroup) : EventGroup := ⟨g.bits ||| bits⟩

def clear (bits : UInt32) (g : EventGroup) : EventGroup := ⟨g.bits &&& ~~~bits⟩

/-- The bits before the wait used any up. -/
def wait (awaited : UInt32) (clearOnExit all : Bool) (g : EventGroup) : UInt32 × EventGroup :=
  (g.bits, if satisfied g.bits awaited all && clearOnExit then g.clear awaited else g)

/-- Sets bits and then waits for all of some others, which are used up. -/
def sync (bits awaited : UInt32) (g : EventGroup) : UInt32 × EventGroup :=
  let g := g.set bits
  (g.bits, if g.bits &&& awaited = awaited then g.clear awaited else g)

def step : EventGroupCall → EventGroup → Reply × EventGroup
  | .create, g => (.address newEventGroup, g)
  | .createStatic block, g => (.address block, g)
  | .waitBits _ bits clearOnExit waitForAll _, g =>
    let (before, g) := g.wait bits (clearOnExit ≠ Code.fail) (waitForAll ≠ Code.fail)
    (.word before, g)
  | .clearBits _ bits, g => (.word g.bits, g.clear bits)
  | .setBits _ bits, g => (.word (g.set bits).bits, g.set bits)
  | .sync _ bitsToSet bitsToWaitFor _, g =>
    let (reached, g) := g.sync bitsToSet bitsToWaitFor
    (.word reached, g)
  | .delete _, _ => (.nothing, ⟨0⟩)

end EventGroup

end Sallyport.Host
