/-
Notifications of the host kernel: one slot of 32 bits per index, shared by all tasks. A slot exists
from the first call that acts on it, and clearing the notification state removes the default one.
-/
import Sallyport.Data.Table
import Sallyport.Host.Basic

namespace Sallyport.Host

/-- The slots that exist. -/
abbrev Notices : Type := Table UInt32 UInt32

namespace Notices

/-- The value of a slot; a slot that does not exist reads as zero. -/
def value (n : Notices) (index : UInt32) : UInt32 := (n.get? index).getD 0

/-- Sends a notification to a slot. -/
def notify (index value : UInt32) (action : NotifyAction) (n : Notices) : Int32 × Notices :=
  let old := n.value index
  match action with
  | .noAction => (Code.pass, n.insert index old)
  | .setBits => (Code.pass, n.insert index (old ||| value))
  | .increment => (Code.pass, n.insert index (old + 1))
  | .overwrite => (Code.pass, n.insert index value)
  | .setIfClear =>
    if old ≠ 0 then (Code.fail, n.insert index old) else (Code.pass, n.insert index value)

/-- Takes from a slot: everything, or one. -/
def take (index : UInt32) (clear : Int32) (n : Notices) : UInt32 × Notices :=
  let count := n.value index
  let left := if clear ≠ Code.fail then 0 else if count = 0 then 0 else count - 1
  (count, n.insert index left)

/-- Waits on the default slot. The value shown is the one after clearing on entry; bits are cleared
on exit only if the slot was not zero to begin with. -/
def wait (clearOnEntry clearOnExit : UInt32) (n : Notices) : Int32 × UInt32 × Notices :=
  let old := n.value defaultNotifyIndex
  let entered := old &&& ~~~clearOnEntry
  let left := if old ≠ 0 then entered &&& ~~~clearOnExit else entered
  (Code.ofBool (old ≠ 0), entered, n.insert defaultNotifyIndex left)

/-- Removes the default slot and says whether it existed. -/
def clearState (n : Notices) : Int32 × Notices :=
  (Code.ofBool (n.get? defaultNotifyIndex).isSome, n.erase defaultNotifyIndex)

end Notices

end Sallyport.Host
