/-
The sizes of the kernel's control blocks. Each is a number of words from the kernel section, and no
block may be empty.
-/
import Sallyport.Platform.Constants
import Sallyport.Platform.Error
import Sallyport.Platform.Fields
import Sallyport.Rtos.Basic

namespace Sallyport.Platform

open ControlBlock (Sizes)

/-- The fields of the sizes, in order. -/
def sizeFields : List String :=
  ["static_task_words", "static_queue_words", "static_timer_words", "static_event_group_words",
    "static_stream_buffer_words"]

/-- The sizes a document asks for. -/
def sizes? (document : Toml.Node) : Option Sizes := do
  let fields ← section? document "kernel" sizeFields
  let task ← fieldOr Sizes.default.task count? fields "static_task_words"
  let queue ← fieldOr Sizes.default.queue count? fields "static_queue_words"
  let timer ← fieldOr Sizes.default.timer count? fields "static_timer_words"
  let eventGroup ← fieldOr Sizes.default.eventGroup count? fields "static_event_group_words"
  let streamBuffer ← fieldOr Sizes.default.streamBuffer count? fields "static_stream_buffer_words"
  return ⟨task, queue, timer, eventGroup, streamBuffer⟩

/-- The sizes in the order of their fields. -/
def sizeList (s : Sizes) : List Nat := [s.task, s.queue, s.timer, s.eventGroup, s.streamBuffer]

/-- Refuses the first size that is zero. -/
def acceptSizes (s : Sizes) : Except ConfigError Sizes :=
  match (sizeFields.zip (sizeList s)).find? (·.2 = 0) with
  | some (field, _) => .error (.noWords field)
  | none => .ok s

/-- The names of the constants are the names of the fields in capitals. -/
def sizeConstants (s : Sizes) : List Constant :=
  (sizeFields.zip (sizeList s)).map fun (field, words) => Constant.size field.toUpper words

end Sallyport.Platform
