/-
What a kernel service gives back: the value it returns, together with what it left in the
references and buffers of the caller. A missing handle is the null address; a reference the caller
left out shows nothing.
-/
import Sallyport.Rtos.Basic

namespace Sallyport

inductive Reply where
  | nothing
  /-- A return code or a flag. -/
  | code (value : Int32)
  | word (value : UInt32)
  /-- A number of bytes. -/
  | size (value : UInt64)
  /-- A handle or a pointer. -/
  | address (value : Address)
  /-- A string, or the null pointer. -/
  | text (value : Option Label)
  | state (value : TaskState)
  /-- A return code and the caller's slot for the new task. -/
  | created (code : Int32) (slot : Option Address)
  | wakeTime (value : UInt32)
  | status (value : TaskStatus)
  | statuses (count : UInt32) (value : List TaskStatus) (totalRunTime : Option UInt32)
  | timeOut (value : TimeOut)
  | timeOutCheck (code : Int32) (value : TimeOut) (wait : UInt32)
  /-- A return code and the caller's slot for a notification value. -/
  | notified (code : Int32) (slot : Option UInt32)
  /-- A return code and the caller's slot for the flag that a task was woken. -/
  | commanded (code : Int32) (woken : Option Int32)
  | buffer (bytes : List UInt8)
  /-- A return code and the buffer that was to be filled. -/
  | filled (code : Int32) (bytes : List UInt8)
  /-- The number of bytes received and the buffer that was to be filled. -/
  | received (count : UInt64) (bytes : List UInt8)
  deriving DecidableEq, Repr

end Sallyport
