/-
The kernel as compiled code: functions that are called by name with machine values. A signature
says what each parameter and the result are; integers are cut to the width of their type on the way
in and out. Every function also has an exported wrapper that goes through the privilege gate.
-/
import Sallyport.Rtos.Basic

namespace Sallyport.Foreign

/-! ## Types -/

/-- What a function can write through a pointer it was given, as far as single values go. -/
inductive Slot where
  | word
  | signed
  | handle
  | timeOut
  deriving DecidableEq, Repr

/-- What a parameter or a result is. -/
inductive CType where
  | byte
  | half
  | word
  | signed
  | size
  /-- A task state, by its number. -/
  | state
  | handle
  | string
  | pointer
  /-- A pointer to a function that the application supplied. -/
  | hook
  /-- A pointer to a single value that the function may write. -/
  | slot (of : Slot)
  deriving DecidableEq, Repr

/-- A machine value. -/
inductive Value where
  | byte (v : UInt8)
  | half (v : UInt16)
  | word (v : UInt32)
  | signed (v : Int32)
  | size (v : UInt64)
  | state (s : TaskState)
  /-- A handle, null if there is none. -/
  | handle (a : Address)
  | string (l : Label)
  | pointer (a : Address)
  deriving DecidableEq, Repr

/-- The value of a type that an integer stands for, cut to the width of the type. Nothing is known
of a text at a bare address. -/
def Value.ofInt (n : Int) : CType → Value
  | .byte => .byte (UInt8.ofInt n)
  | .half => .half (UInt16.ofInt n)
  | .word => .word (UInt32.ofInt n)
  | .signed => .signed (Int32.ofInt n)
  | .size => .size (UInt64.ofInt n)
  | .state => .state (TaskState.ofNumber n.toNat)
  | .handle => .handle (UInt64.ofInt n)
  | .string => .string ⟨UInt64.ofInt n, ""⟩
  | .pointer => .pointer (UInt64.ofInt n)
  | .hook => .pointer (UInt64.ofInt n)
  | .slot _ => .pointer (UInt64.ofInt n)

/-! ## Functions -/

/-- What has to be known of a function to call it. -/
structure Signature where
  name : String
  parameters : List CType
  /-- Nothing, if the function returns nothing. -/
  result : Option CType
  deriving DecidableEq, Repr

/-- The functions of the kernel. -/
inductive Function where
  | taskCreate | taskCreateStatic | taskCreateRestricted | taskCreateRestrictedStatic
  | taskAllocateMpuRegions | taskDelete | taskDelayUntil | taskAbortDelay | taskDelay
  | taskPriorityGet | taskPrioritySet | taskGetState | taskGetInfo | taskGetIdleTaskHandle
  | taskSuspend | taskResume | taskSuspendAll | taskResumeAll | taskGetTickCount
  | taskGetNumberOfTasks | taskGetName | taskGetHandle | taskSetApplicationTaskTag
  | taskGetApplicationTaskTag | taskCallApplicationTaskHook | taskSetThreadLocalStoragePointer
  | taskGetThreadLocalStoragePointer | taskGetSystemState | taskCatchUpTicks
  | taskGetStackHighWaterMark | taskGetCurrentTaskHandle | taskGetSchedulerState
  | taskSetTimeOutState | taskCheckForTimeOut | taskGenericNotify | taskNotifyWait | taskNotifyTake
  | taskNotifyStateClear | taskGenericNotifyTake | taskList | taskGetRunTimeStats
  | taskGetIdleRunTimeCounter
  | queueGenericCreate | queueGenericCreateStatic | queueGenericReset | queueGenericSend
  | queueMessagesWaiting | queueSpacesAvailable | queueReceive | queuePeek | queueSemaphoreTake
  | queueGetMutexHolder | queueCreateMutex | queueCreateMutexStatic | queueCreateCountingSemaphore
  | queueCreateCountingSemaphoreStatic | queueTakeMutexRecursive | queueGiveMutexRecursive
  | queueCreateSet | queueSelectFromSet | queueAddToSet | queueRemoveFromSet | queueAddToRegistry
  | queueUnregisterQueue | queueGetName | queueDelete
  | timerCreate | timerCreateStatic | timerGetTimerId | timerSetTimerId | timerIsTimerActive
  | timerGetTimerDaemonTaskHandle | timerPendFunctionCall | timerSetReloadMode | timerGetName
  | timerGetPeriod | timerGetExpiryTime | timerGenericCommand
  | eventGroupCreate | eventGroupCreateStatic | eventGroupWaitBits | eventGroupClearBits
  | eventGroupSetBits | eventGroupSync | eventGroupDelete
  | streamBufferSend | streamBufferReceive | streamBufferNextMessageLengthBytes
  | streamBufferDelete | streamBufferIsFull | streamBufferIsEmpty | streamBufferReset
  | streamBufferSpacesAvailable | streamBufferBytesAvailable | streamBufferSetTriggerLevel
  | streamBufferGenericCreate | streamBufferGenericCreateStatic
  | portMalloc | portFree | portInitialiseBlocks | portGetFreeHeapSize
  deriving DecidableEq, Repr

namespace Function

def signature : Function → Signature
  | .taskCreate =>
    ⟨"xTaskCreate", [.pointer, .string, .half, .pointer, .word, .slot .handle], some .signed⟩
  | .taskCreateStatic =>
    ⟨"xTaskCreateStatic", [.pointer, .string, .word, .pointer, .word, .pointer, .pointer], some .handle⟩
  | .taskCreateRestricted => ⟨"xTaskCreateRestricted", [.pointer, .slot .handle], some .signed⟩
  | .taskCreateRestrictedStatic =>
    ⟨"xTaskCreateRestrictedStatic", [.pointer, .slot .handle], some .signed⟩
  | .taskAllocateMpuRegions => ⟨"vTaskAllocateMPURegions", [.handle, .pointer], none⟩
  | .taskDelete => ⟨"vTaskDelete", [.handle], none⟩
  | .taskDelayUntil => ⟨"vTaskDelayUntil", [.slot .word, .word], none⟩
  | .taskAbortDelay => ⟨"xTaskAbortDelay", [.handle], some .signed⟩
  | .taskDelay => ⟨"vTaskDelay", [.word], none⟩
  | .taskPriorityGet => ⟨"uxTaskPriorityGet", [.handle], some .word⟩
  | .taskPrioritySet => ⟨"vTaskPrioritySet", [.handle, .word], none⟩
  | .taskGetState => ⟨"eTaskGetState", [.handle], some .state⟩
  | .taskGetInfo => ⟨"vTaskGetInfo", [.handle, .pointer, .signed, .state], none⟩
  | .taskGetIdleTaskHandle => ⟨"xTaskGetIdleTaskHandle", [], some .handle⟩
  | .taskSuspend => ⟨"vTaskSuspend", [.handle], none⟩
  | .taskResume => ⟨"vTaskResume", [.handle], none⟩
  | .taskSuspendAll => ⟨"vTaskSuspendAll", [], none⟩
  | .taskResumeAll => ⟨"xTaskResumeAll", [], some .signed⟩
  | .taskGetTickCount => ⟨"xTaskGetTickCount", [], some .word⟩
  | .taskGetNumberOfTasks => ⟨"uxTaskGetNumberOfTasks", [], some .word⟩
  | .taskGetName => ⟨"pcTaskGetName", [.handle], some .string⟩
  | .taskGetHandle => ⟨"xTaskGetHandle", [.string], some .handle⟩
  | .taskSetApplicationTaskTag => ⟨"vTaskSetApplicationTaskTag", [.handle, .pointer], none⟩
  | .taskGetApplicationTaskTag => ⟨"xTaskGetApplicationTaskTag", [.handle], some .hook⟩
  | .taskCallApplicationTaskHook =>
    ⟨"xTaskCallApplicationTaskHook", [.handle, .pointer], some .signed⟩
  | .taskSetThreadLocalStoragePointer =>
    ⟨"vTaskSetThreadLocalStoragePointer", [.handle, .signed, .pointer], none⟩
  | .taskGetThreadLocalStoragePointer =>
    ⟨"pvTaskGetThreadLocalStoragePointer", [.handle, .signed], some .pointer⟩
  | .taskGetSystemState => ⟨"uxTaskGetSystemState", [.pointer, .word, .slot .word], some .word⟩
  | .taskCatchUpTicks => ⟨"xTaskCatchUpTicks", [.word], some .signed⟩
  | .taskGetStackHighWaterMark => ⟨"uxTaskGetStackHighWaterMark", [.handle], some .word⟩
  | .taskGetCurrentTaskHandle => ⟨"xTaskGetCurrentTaskHandle", [], some .handle⟩
  | .taskGetSchedulerState => ⟨"xTaskGetSchedulerState", [], some .signed⟩
  | .taskSetTimeOutState => ⟨"vTaskSetTimeOutState", [.slot .timeOut], none⟩
  | .taskCheckForTimeOut => ⟨"xTaskCheckForTimeOut", [.slot .timeOut, .slot .word], some .signed⟩
  | .taskGenericNotify =>
    ⟨"xTaskGenericNotify", [.handle, .word, .word, .word, .slot .word], some .signed⟩
  | .taskNotifyWait => ⟨"xTaskNotifyWait", [.word, .word, .slot .word, .word], some .signed⟩
  | .taskNotifyTake => ⟨"ulTaskNotifyTake", [.signed, .word], some .word⟩
  | .taskNotifyStateClear => ⟨"xTaskNotifyStateClear", [.handle], some .signed⟩
  | .taskGenericNotifyTake => ⟨"ulTaskGenericNotifyTake", [.word, .signed, .word], some .word⟩
  | .taskList => ⟨"vTaskList", [.pointer], none⟩
  | .taskGetRunTimeStats => ⟨"vTaskGetRunTimeStats", [.pointer], none⟩
  | .taskGetIdleRunTimeCounter => ⟨"ulTaskGetIdleRunTimeCounter", [], some .word⟩
  | .queueGenericCreate => ⟨"xQueueGenericCreate", [.word, .word, .byte], some .handle⟩
  | .queueGenericCreateStatic =>
    ⟨"xQueueGenericCreateStatic", [.word, .word, .pointer, .pointer, .byte], some .handle⟩
  | .queueGenericReset => ⟨"xQueueGenericReset", [.handle, .signed], some .signed⟩
  | .queueGenericSend => ⟨"xQueueGenericSend", [.handle, .pointer, .word, .signed], some .signed⟩
  | .queueMessagesWaiting => ⟨"uxQueueMessagesWaiting", [.handle], some .word⟩
  | .queueSpacesAvailable => ⟨"uxQueueSpacesAvailable", [.handle], some .word⟩
  | .queueReceive => ⟨"xQueueReceive", [.handle, .pointer, .word], some .signed⟩
  | .queuePeek => ⟨"xQueuePeek", [.handle, .pointer, .word], some .signed⟩
  | .queueSemaphoreTake => ⟨"xQueueSemaphoreTake", [.handle, .word], some .signed⟩
  | .queueGetMutexHolder => ⟨"xQueueGetMutexHolder", [.handle], some .handle⟩
  | .queueCreateMutex => ⟨"xQueueCreateMutex", [.byte], some .handle⟩
  | .queueCreateMutexStatic => ⟨"xQueueCreateMutexStatic", [.byte, .pointer], some .handle⟩
  | .queueCreateCountingSemaphore => ⟨"xQueueCreateCountingSemaphore", [.word, .word], some .handle⟩
  | .queueCreateCountingSemaphoreStatic =>
    ⟨"xQueueCreateCountingSemaphoreStatic", [.word, .word, .pointer], some .handle⟩
  | .queueTakeMutexRecursive => ⟨"xQueueTakeMutexRecursive", [.handle, .word], some .signed⟩
  | .queueGiveMutexRecursive => ⟨"xQueueGiveMutexRecursive", [.handle], some .signed⟩
  | .queueCreateSet => ⟨"xQueueCreateSet", [.word], some .handle⟩
  | .queueSelectFromSet => ⟨"xQueueSelectFromSet", [.handle, .word], some .handle⟩
  | .queueAddToSet => ⟨"xQueueAddToSet", [.handle, .handle], some .signed⟩
  | .queueRemoveFromSet => ⟨"xQueueRemoveFromSet", [.handle, .handle], some .signed⟩
  | .queueAddToRegistry => ⟨"vQueueAddToRegistry", [.handle, .string], none⟩
  | .queueUnregisterQueue => ⟨"vQueueUnregisterQueue", [.handle], none⟩
  | .queueGetName => ⟨"pcQueueGetName", [.handle], some .string⟩
  | .queueDelete => ⟨"vQueueDelete", [.handle], none⟩
  | .timerCreate => ⟨"xTimerCreate", [.string, .word, .word, .pointer, .pointer], some .handle⟩
  | .timerCreateStatic =>
    ⟨"xTimerCreateStatic", [.string, .word, .word, .pointer, .pointer, .pointer], some .handle⟩
  | .timerGetTimerId => ⟨"pvTimerGetTimerID", [.handle], some .pointer⟩
  | .timerSetTimerId => ⟨"vTimerSetTimerID", [.handle, .pointer], none⟩
  | .timerIsTimerActive => ⟨"xTimerIsTimerActive", [.handle], some .signed⟩
  | .timerGetTimerDaemonTaskHandle => ⟨"xTimerGetTimerDaemonTaskHandle", [], some .handle⟩
  | .timerPendFunctionCall =>
    ⟨"xTimerPendFunctionCall", [.pointer, .pointer, .word, .word], some .signed⟩
  | .timerSetReloadMode => ⟨"vTimerSetReloadMode", [.handle, .word], none⟩
  | .timerGetName => ⟨"pcTimerGetName", [.handle], some .string⟩
  | .timerGetPeriod => ⟨"xTimerGetPeriod", [.handle], some .word⟩
  | .timerGetExpiryTime => ⟨"xTimerGetExpiryTime", [.handle], some .word⟩
  | .timerGenericCommand =>
    ⟨"xTimerGenericCommand", [.handle, .signed, .word, .slot .signed, .word], some .signed⟩
  | .eventGroupCreate => ⟨"xEventGroupCreate", [], some .handle⟩
  | .eventGroupCreateStatic => ⟨"xEventGroupCreateStatic", [.pointer], some .handle⟩
  | .eventGroupWaitBits =>
    ⟨"xEventGroupWaitBits", [.handle, .word, .signed, .signed, .word], some .word⟩
  | .eventGroupClearBits => ⟨"xEventGroupClearBits", [.handle, .word], some .word⟩
  | .eventGroupSetBits => ⟨"xEventGroupSetBits", [.handle, .word], some .word⟩
  | .eventGroupSync => ⟨"xEventGroupSync", [.handle, .word, .word, .word], some .word⟩
  | .eventGroupDelete => ⟨"vEventGroupDelete", [.handle], none⟩
  | .streamBufferSend => ⟨"xStreamBufferSend", [.handle, .pointer, .size, .word], some .size⟩
  | .streamBufferReceive => ⟨"xStreamBufferReceive", [.handle, .pointer, .size, .word], some .size⟩
  | .streamBufferNextMessageLengthBytes =>
    ⟨"xStreamBufferNextMessageLengthBytes", [.handle], some .size⟩
  | .streamBufferDelete => ⟨"vStreamBufferDelete", [.handle], none⟩
  | .streamBufferIsFull => ⟨"xStreamBufferIsFull", [.handle], some .signed⟩
  | .streamBufferIsEmpty => ⟨"xStreamBufferIsEmpty", [.handle], some .signed⟩
  | .streamBufferReset => ⟨"xStreamBufferReset", [.handle], some .signed⟩
  | .streamBufferSpacesAvailable => ⟨"xStreamBufferSpacesAvailable", [.handle], some .size⟩
  | .streamBufferBytesAvailable => ⟨"xStreamBufferBytesAvailable", [.handle], some .size⟩
  | .streamBufferSetTriggerLevel => ⟨"xStreamBufferSetTriggerLevel", [.handle, .size], some .signed⟩
  | .streamBufferGenericCreate =>
    ⟨"xStreamBufferGenericCreate", [.size, .size, .signed], some .handle⟩
  | .streamBufferGenericCreateStatic =>
    ⟨"xStreamBufferGenericCreateStatic", [.size, .size, .signed, .pointer, .pointer], some .handle⟩
  | .portMalloc => ⟨"pvPortMalloc", [.size], some .pointer⟩
  | .portFree => ⟨"vPortFree", [.pointer], none⟩
  | .portInitialiseBlocks => ⟨"vPortInitialiseBlocks", [], none⟩
  | .portGetFreeHeapSize => ⟨"xPortGetFreeHeapSize", [], some .size⟩

/-- The name the kernel defines the function under. -/
def name (f : Function) : String := f.signature.name

/-- The name of the exported wrapper. -/
def exportName (f : Function) : String := "MPU_" ++ f.name

/-- All functions, family by family. -/
def all : List Function :=
  [.taskCreate, .taskCreateStatic, .taskCreateRestricted, .taskCreateRestrictedStatic,
   .taskAllocateMpuRegions, .taskDelete, .taskDelayUntil, .taskAbortDelay, .taskDelay,
   .taskPriorityGet, .taskPrioritySet, .taskGetState, .taskGetInfo, .taskGetIdleTaskHandle,
   .taskSuspend, .taskResume, .taskSuspendAll, .taskResumeAll, .taskGetTickCount,
   .taskGetNumberOfTasks, .taskGetName, .taskGetHandle, .taskSetApplicationTaskTag,
   .taskGetApplicationTaskTag, .taskCallApplicationTaskHook, .taskSetThreadLocalStoragePointer,
   .taskGetThreadLocalStoragePointer, .taskGetSystemState, .taskCatchUpTicks,
   .taskGetStackHighWaterMark, .taskGetCurrentTaskHandle, .taskGetSchedulerState,
   .taskSetTimeOutState, .taskCheckForTimeOut, .taskGenericNotify, .taskNotifyWait,
   .taskNotifyTake, .taskNotifyStateClear, .taskGenericNotifyTake, .taskList, .taskGetRunTimeStats,
   .taskGetIdleRunTimeCounter,
   .queueGenericCreate, .queueGenericCreateStatic, .queueGenericReset, .queueGenericSend,
   .queueMessagesWaiting, .queueSpacesAvailable, .queueReceive, .queuePeek, .queueSemaphoreTake,
   .queueGetMutexHolder, .queueCreateMutex, .queueCreateMutexStatic, .queueCreateCountingSemaphore,
   .queueCreateCountingSemaphoreStatic, .queueTakeMutexRecursive, .queueGiveMutexRecursive,
   .queueCreateSet, .queueSelectFromSet, .queueAddToSet, .queueRemoveFromSet, .queueAddToRegistry,
   .queueUnregisterQueue, .queueGetName, .queueDelete,
   .timerCreate, .timerCreateStatic, .timerGetTimerId, .timerSetTimerId, .timerIsTimerActive,
   .timerGetTimerDaemonTaskHandle, .timerPendFunctionCall, .timerSetReloadMode, .timerGetName,
   .timerGetPeriod, .timerGetExpiryTime, .timerGenericCommand,
   .eventGroupCreate, .eventGroupCreateStatic, .eventGroupWaitBits, .eventGroupClearBits,
   .eventGroupSetBits, .eventGroupSync, .eventGroupDelete,
   .streamBufferSend, .streamBufferReceive, .streamBufferNextMessageLengthBytes,
   .streamBufferDelete, .streamBufferIsFull, .streamBufferIsEmpty, .streamBufferReset,
   .streamBufferSpacesAvailable, .streamBufferBytesAvailable, .streamBufferSetTriggerLevel,
   .streamBufferGenericCreate, .streamBufferGenericCreateStatic,
   .portMalloc, .portFree, .portInitialiseBlocks, .portGetFreeHeapSize]

/-- The function whose wrapper is exported under a name. -/
def ofExportName? (name : String) : Option Function := all.find? (·.exportName = name)

/-- The values that integers stand for as arguments. Missing ones are zero, extra ones count for
nothing. -/
def arguments (f : Function) (ns : List Int) : List Value :=
  f.signature.parameters.mapIdx fun i t => Value.ofInt (ns.getD i 0) t

end Function

end Sallyport.Foreign
