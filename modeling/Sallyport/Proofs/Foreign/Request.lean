/-
What the services ask of the compiled kernel, as machine values. The requests are written next to the
names and the signatures of the functions they go to, so that an argument of the wrong type and a call of
a neighbouring function both show.
-/
import Mathlib.Data.List.Forall2
import Sallyport.Foreign.Answer
import Sallyport.Service.Call
import Sallyport.Service.Reply

namespace Sallyport.Foreign

/-! ## Machine values -/

/-- A machine value may be passed as a parameter of a type. -/
inductive Value.HasType : Value → CType → Prop where
  | byte (v : UInt8) : HasType (.byte v) .byte
  | half (v : UInt16) : HasType (.half v) .half
  | word (v : UInt32) : HasType (.word v) .word
  | signed (v : Int32) : HasType (.signed v) .signed
  | size (v : UInt64) : HasType (.size v) .size
  | state (s : TaskState) : HasType (.state s) .state
  | handle (a : Address) : HasType (.handle a) .handle
  | string (l : Label) : HasType (.string l) .string
  | pointer (a : Address) : HasType (.pointer a) .pointer
  | hook (a : Address) : HasType (.pointer a) .hook
  | slot (a : Address) (kind : Slot) : HasType (.pointer a) (.slot kind)

/-- The arguments are as many as the function has parameters, each of the type of its parameter. -/
def Invocation.Typed (i : Invocation) : Prop :=
  List.Forall₂ Value.HasType i.arguments i.function.signature.parameters

/-- A reply returns a machine value, or nothing; what references hold afterwards is no part of that. -/
inductive Returns : Reply → Option Value → Prop where
  | nothing : Returns .nothing none
  | code (v : Int32) : Returns (.code v) (some (.signed v))
  | word (v : UInt32) : Returns (.word v) (some (.word v))
  | size (v : UInt64) : Returns (.size v) (some (.size v))
  | handle (a : Address) : Returns (.address a) (some (.handle a))
  | pointer (a : Address) : Returns (.address a) (some (.pointer a))
  | text (l : Label) : Returns (.text l.nonNull?) (some (.string l))
  | state (s : TaskState) : Returns (.state s) (some (.state s))
  | created (v : Int32) (slot : Option Address) : Returns (.created v slot) (some (.signed v))
  | wakeTime (slot : UInt32) : Returns (.wakeTime slot) none
  | status (slot : TaskStatus) : Returns (.status slot) none
  | statuses (v : UInt32) (slots : List TaskStatus) (slot : Option UInt32) :
    Returns (.statuses v slots slot) (some (.word v))
  | timeOut (slot : TimeOut) : Returns (.timeOut slot) none
  | timeOutCheck (v : Int32) (slot : TimeOut) (wait : UInt32) :
    Returns (.timeOutCheck v slot wait) (some (.signed v))
  | notified (v : Int32) (slot : Option UInt32) : Returns (.notified v slot) (some (.signed v))
  | commanded (v : Int32) (slot : Option Int32) : Returns (.commanded v slot) (some (.signed v))
  | buffer (bytes : List UInt8) : Returns (.buffer bytes) none
  | filled (v : Int32) (bytes : List UInt8) : Returns (.filled v bytes) (some (.signed v))
  | received (v : UInt64) (bytes : List UInt8) : Returns (.received v bytes) (some (.size v))

/-! ## Names -/

/-- The letters of the name of a function, without those in front that tell its result type. -/
def Function.letters (f : Function) : List Char :=
  (f.name.toList.dropWhile Char.isLower).map Char.toLower

/-- The letters of the name of a service. -/
def lettersOf (name : String) : List Char := name.toList.filter (· ≠ '_')

/-- A service that the kernel knows by a name is known there by the name of a function. -/
def Named (c : Call) (f : Function) : Prop := ∀ name, c.name? = some name → f.letters = lettersOf name

/-! ## Requests -/

/-- What a service asks of the kernel functions. -/
inductive Request where
  | single (i : Invocation)
  /-- The tick count, and a command that is stamped with it. -/
  | stamped (command : UInt32 → Invocation)

/-- A length as a parameter of 32 bits, which holds every length below 2^32. -/
def lengthWord (n : Nat) : Value := .word (UInt32.ofNat n)

/-- A length as a parameter of the size of an address. -/
def lengthSize (n : Nat) : Value := .size (UInt64.ofNat n)

def taskRequest : TaskCall → Invocation
  | .create entry name stackDepth parameters priority created =>
    ⟨.taskCreate, [.pointer entry, .string name, .half stackDepth, .pointer parameters,
      .word priority, .pointer (Ref.toAddress created)]⟩
  -- The function wants the length of the stack third and its start after the priority.
  | .createStatic entry name parameters priority stack block =>
    ⟨.taskCreateStatic, [.pointer entry, .string name, lengthWord stack.length, .pointer parameters,
      .word priority, .pointer stack.address, .pointer block]⟩
  | .createRestricted definition created =>
    ⟨.taskCreateRestricted, [.pointer definition.address, .pointer (Ref.toAddress created)]⟩
  | .createRestrictedStatic definition created =>
    ⟨.taskCreateRestrictedStatic, [.pointer definition.address, .pointer (Ref.toAddress created)]⟩
  | .allocateRegions target regions =>
    ⟨.taskAllocateMpuRegions, [.handle (Handle.toAddress target), .pointer regions.address]⟩
  | .delete target => ⟨.taskDelete, [.handle (Handle.toAddress target)]⟩
  | .delayUntil previousWake increment =>
    ⟨.taskDelayUntil, [.pointer previousWake.address, .word increment]⟩
  | .abortDelay target => ⟨.taskAbortDelay, [.handle target.address]⟩
  | .delay ticks => ⟨.taskDelay, [.word ticks]⟩
  | .priorityGet target => ⟨.taskPriorityGet, [.handle (Handle.toAddress target)]⟩
  | .prioritySet target priority =>
    ⟨.taskPrioritySet, [.handle (Handle.toAddress target), .word priority]⟩
  | .getState target => ⟨.taskGetState, [.handle target.address]⟩
  | .getInfo target status freeSpace state =>
    ⟨.taskGetInfo, [.handle (Handle.toAddress target), .pointer status.address, .signed freeSpace,
      .state state]⟩
  | .idleTask => ⟨.taskGetIdleTaskHandle, []⟩
  | .suspend target => ⟨.taskSuspend, [.handle (Handle.toAddress target)]⟩
  | .resume target => ⟨.taskResume, [.handle target.address]⟩
  | .suspendAll => ⟨.taskSuspendAll, []⟩
  | .resumeAll => ⟨.taskResumeAll, []⟩
  | .tickCount => ⟨.taskGetTickCount, []⟩
  | .numberOfTasks => ⟨.taskGetNumberOfTasks, []⟩
  | .getName target => ⟨.taskGetName, [.handle (Handle.toAddress target)]⟩
  | .getHandle name => ⟨.taskGetHandle, [.string name]⟩
  | .setTag target hook =>
    ⟨.taskSetApplicationTaskTag, [.handle (Handle.toAddress target), .pointer hook]⟩
  | .getTag target => ⟨.taskGetApplicationTaskTag, [.handle (Handle.toAddress target)]⟩
  | .callHook target parameter =>
    ⟨.taskCallApplicationTaskHook, [.handle (Handle.toAddress target), .pointer parameter]⟩
  | .setLocal target index value =>
    ⟨.taskSetThreadLocalStoragePointer, [.handle (Handle.toAddress target), .signed index,
      .pointer value]⟩
  | .getLocal target index =>
    ⟨.taskGetThreadLocalStoragePointer, [.handle (Handle.toAddress target), .signed index]⟩
  | .systemState statuses totalRunTime =>
    ⟨.taskGetSystemState, [.pointer statuses.address, lengthWord statuses.items.length,
      .pointer (Ref.toAddress totalRunTime)]⟩
  | .catchUpTicks ticks => ⟨.taskCatchUpTicks, [.word ticks]⟩
  | .stackHighWaterMark target =>
    ⟨.taskGetStackHighWaterMark, [.handle (Handle.toAddress target)]⟩
  | .currentTask => ⟨.taskGetCurrentTaskHandle, []⟩
  | .schedulerState => ⟨.taskGetSchedulerState, []⟩
  | .setTimeOut timeOut => ⟨.taskSetTimeOutState, [.pointer timeOut.address]⟩
  | .checkTimeOut timeOut wait =>
    ⟨.taskCheckForTimeOut, [.pointer timeOut.address, .pointer wait.address]⟩
  | .notify target index value action previous =>
    ⟨.taskGenericNotify, [.handle target.address, .word index, .word value, .word action.number,
      .pointer (Ref.toAddress previous)]⟩
  | .notifyWait clearOnEntry clearOnExit value ticks =>
    ⟨.taskNotifyWait, [.word clearOnEntry, .word clearOnExit, .pointer (Ref.toAddress value),
      .word ticks]⟩
  | .notifyTake clear ticks => ⟨.taskNotifyTake, [.signed clear, .word ticks]⟩
  | .notifyStateClear target => ⟨.taskNotifyStateClear, [.handle (Handle.toAddress target)]⟩
  | .notifyTakeAt index clear ticks =>
    ⟨.taskGenericNotifyTake, [.word index, .signed clear, .word ticks]⟩
  | .list buffer => ⟨.taskList, [.pointer buffer.address]⟩
  | .runTimeStats buffer => ⟨.taskGetRunTimeStats, [.pointer buffer.address]⟩
  | .idleRunTime => ⟨.taskGetIdleRunTimeCounter, []⟩

def queueRequest : QueueCall → Invocation
  | .create length itemSize kind =>
    ⟨.queueGenericCreate, [.word length, .word itemSize, .byte kind.number]⟩
  | .createStatic length itemSize storage block kind =>
    ⟨.queueGenericCreateStatic, [.word length, .word itemSize,
      .pointer (storage.elim 0 (·.address)), .pointer block, .byte kind.number]⟩
  | .reset target newQueue => ⟨.queueGenericReset, [.handle target.address, .signed newQueue]⟩
  | .genericSend target item ticks position =>
    ⟨.queueGenericSend, [.handle target.address, .pointer item.address, .word ticks,
      .signed position.number]⟩
  -- The back of a queue is position zero.
  | .send target item ticks =>
    ⟨.queueGenericSend, [.handle target.address, .pointer item.address, .word ticks, .signed 0]⟩
  | .give target nothing =>
    ⟨.queueGenericSend, [.handle target.address, .pointer nothing, .word 0, .signed 0]⟩
  | .messagesWaiting target => ⟨.queueMessagesWaiting, [.handle target.address]⟩
  | .spacesAvailable target => ⟨.queueSpacesAvailable, [.handle target.address]⟩
  | .receive target buffer ticks =>
    ⟨.queueReceive, [.handle target.address, .pointer buffer.address, .word ticks]⟩
  | .peek target buffer ticks =>
    ⟨.queuePeek, [.handle target.address, .pointer buffer.address, .word ticks]⟩
  | .semaphoreTake target ticks => ⟨.queueSemaphoreTake, [.handle target.address, .word ticks]⟩
  | .mutexHolder mutex => ⟨.queueGetMutexHolder, [.handle mutex.address]⟩
  | .createMutex kind => ⟨.queueCreateMutex, [.byte kind.number]⟩
  | .createMutexStatic kind block =>
    ⟨.queueCreateMutexStatic, [.byte kind.number, .pointer block]⟩
  | .createCounting maxCount initialCount =>
    ⟨.queueCreateCountingSemaphore, [.word maxCount, .word initialCount]⟩
  | .createCountingStatic maxCount initialCount block =>
    ⟨.queueCreateCountingSemaphoreStatic, [.word maxCount, .word initialCount, .pointer block]⟩
  | .takeRecursive mutex ticks =>
    ⟨.queueTakeMutexRecursive, [.handle mutex.address, .word ticks]⟩
  | .giveRecursive mutex => ⟨.queueGiveMutexRecursive, [.handle mutex.address]⟩
  | .createSet length => ⟨.queueCreateSet, [.word length]⟩
  | .selectFromSet set ticks => ⟨.queueSelectFromSet, [.handle set.address, .word ticks]⟩
  | .addToSet member set => ⟨.queueAddToSet, [.handle member.address, .handle set.address]⟩
  | .removeFromSet member set =>
    ⟨.queueRemoveFromSet, [.handle member.address, .handle set.address]⟩
  | .addToRegistry target name => ⟨.queueAddToRegistry, [.handle target.address, .string name]⟩
  | .unregister target => ⟨.queueUnregisterQueue, [.handle target.address]⟩
  | .getName target => ⟨.queueGetName, [.handle target.address]⟩
  | .delete target => ⟨.queueDelete, [.handle target.address]⟩

/-- A numbered command for a timer, from a caller that does not ask whether a task was woken. -/
def timerCommand (target : Handle .timer) (number : Int32) (value ticks : UInt32) : Invocation :=
  ⟨.timerGenericCommand, [.handle target.address, .signed number, .word value, .pointer 0,
    .word ticks]⟩

def timerRequest : TimerCall → Request
  | .create name period autoReload id callback =>
    .single ⟨.timerCreate, [.string name, .word period, .word autoReload, .pointer id,
      .pointer callback]⟩
  | .createStatic name period autoReload id callback block =>
    .single ⟨.timerCreateStatic, [.string name, .word period, .word autoReload, .pointer id,
      .pointer callback, .pointer block]⟩
  | .getId target => .single ⟨.timerGetTimerId, [.handle target.address]⟩
  | .setId target id => .single ⟨.timerSetTimerId, [.handle target.address, .pointer id]⟩
  | .isActive target => .single ⟨.timerIsTimerActive, [.handle target.address]⟩
  | .daemonTask => .single ⟨.timerGetTimerDaemonTaskHandle, []⟩
  | .pendCall function parameter1 parameter2 ticks =>
    .single ⟨.timerPendFunctionCall, [.pointer function, .pointer parameter1, .word parameter2,
      .word ticks]⟩
  | .setReloadMode target autoReload =>
    .single ⟨.timerSetReloadMode, [.handle target.address, .word autoReload]⟩
  | .getName target => .single ⟨.timerGetName, [.handle target.address]⟩
  | .getPeriod target => .single ⟨.timerGetPeriod, [.handle target.address]⟩
  | .getExpiry target => .single ⟨.timerGetExpiryTime, [.handle target.address]⟩
  | .genericCommand target command value woken ticks =>
    .single ⟨.timerGenericCommand, [.handle target.address, .signed command.number, .word value,
      .pointer (Ref.toAddress woken), .word ticks]⟩
  | .commandTime => .single ⟨.taskGetTickCount, []⟩
  | .start target ticks => .stamped fun now => timerCommand target 1 now ticks
  | .reset target ticks => .stamped fun now => timerCommand target 2 now ticks
  | .stop target ticks => .single (timerCommand target 3 0 ticks)
  | .changePeriod target period ticks => .single (timerCommand target 4 period ticks)
  | .delete target ticks => .single (timerCommand target 5 0 ticks)

def eventGroupRequest : EventGroupCall → Invocation
  | .create => ⟨.eventGroupCreate, []⟩
  | .createStatic block => ⟨.eventGroupCreateStatic, [.pointer block]⟩
  | .waitBits group bits clearOnExit waitForAll ticks =>
    ⟨.eventGroupWaitBits, [.handle group.address, .word bits, .signed clearOnExit,
      .signed waitForAll, .word ticks]⟩
  | .clearBits group bits => ⟨.eventGroupClearBits, [.handle group.address, .word bits]⟩
  | .setBits group bits => ⟨.eventGroupSetBits, [.handle group.address, .word bits]⟩
  | .sync group bitsToSet bitsToWaitFor ticks =>
    ⟨.eventGroupSync, [.handle group.address, .word bitsToSet, .word bitsToWaitFor, .word ticks]⟩
  | .delete group => ⟨.eventGroupDelete, [.handle group.address]⟩

def streamRequest : StreamCall → Invocation
  | .send target data ticks =>
    ⟨.streamBufferSend, [.handle target.address, .pointer data.address,
      lengthSize data.items.length, .word ticks]⟩
  | .receive target buffer ticks =>
    ⟨.streamBufferReceive, [.handle target.address, .pointer buffer.address,
      lengthSize buffer.items.length, .word ticks]⟩
  | .nextMessageLength target =>
    ⟨.streamBufferNextMessageLengthBytes, [.handle target.address]⟩
  | .delete target => ⟨.streamBufferDelete, [.handle target.address]⟩
  | .isFull target => ⟨.streamBufferIsFull, [.handle target.address]⟩
  | .isEmpty target => ⟨.streamBufferIsEmpty, [.handle target.address]⟩
  | .reset target => ⟨.streamBufferReset, [.handle target.address]⟩
  | .spacesAvailable target => ⟨.streamBufferSpacesAvailable, [.handle target.address]⟩
  | .bytesAvailable target => ⟨.streamBufferBytesAvailable, [.handle target.address]⟩
  | .setTriggerLevel target level =>
    ⟨.streamBufferSetTriggerLevel, [.handle target.address, .size level]⟩
  | .create size triggerLevel isMessageBuffer =>
    ⟨.streamBufferGenericCreate, [.size size, .size triggerLevel, .signed isMessageBuffer]⟩
  | .createStatic size triggerLevel isMessageBuffer storage block =>
    ⟨.streamBufferGenericCreateStatic, [.size size, .size triggerLevel, .signed isMessageBuffer,
      .pointer storage.address, .pointer block]⟩

def heapRequest : HeapCall → Invocation
  | .malloc size => ⟨.portMalloc, [.size size]⟩
  | .free block => ⟨.portFree, [.pointer block]⟩
  | .initialiseBlocks => ⟨.portInitialiseBlocks, []⟩
  | .freeSize => ⟨.portGetFreeHeapSize, []⟩

/-- The request of a service. -/
def request : Call → Request
  | .task c => .single (taskRequest c)
  | .queue c => .single (queueRequest c)
  | .timer c => timerRequest c
  | .eventGroup c => .single (eventGroupRequest c)
  | .stream c => .single (streamRequest c)
  | .heap c => .single (heapRequest c)

/-- Whether a service has the storage it needs: a queue for all its items, a stream buffer for one byte more
than it holds. -/
def hasRoom : Call → Bool
  | .queue (.createStatic length itemSize storage _ _) =>
    length.toNat * itemSize.toNat ≤ storage.elim 0 (·.length)
  | .stream (.createStatic size _ _ storage _) => size.toNat + 1 ≤ storage.length
  | _ => true

/-! ## Well-formedness of the requests -/

/-- The arguments are those of the function, and the service is named after it. -/
structure Suits (c : Call) (i : Invocation) : Prop where
  typed : i.Typed
  named : Named c i.function

theorem suits_task (c : TaskCall) : Suits (.task c) (taskRequest c) := by
  constructor
  · cases c <;> repeat' constructor
  · rintro name h
    cases c <;> cases h <;> dsimp only [taskRequest, TaskCall.name] <;> decide +kernel

theorem suits_queue (c : QueueCall) : Suits (.queue c) (queueRequest c) := by
  constructor
  · cases c <;> repeat' constructor
  · rintro name h
    cases c <;> cases h <;> dsimp only [queueRequest, QueueCall.name] <;> decide +kernel

theorem suits_eventGroup (c : EventGroupCall) : Suits (.eventGroup c) (eventGroupRequest c) := by
  constructor
  · cases c <;> repeat' constructor
  · rintro name h
    cases c <;> cases h <;> dsimp only [eventGroupRequest, EventGroupCall.name] <;> decide +kernel

theorem suits_stream (c : StreamCall) : Suits (.stream c) (streamRequest c) := by
  constructor
  · cases c <;> repeat' constructor
  · rintro name h
    cases c <;> cases h <;> dsimp only [streamRequest, StreamCall.name] <;> decide +kernel

theorem suits_heap (c : HeapCall) : Suits (.heap c) (heapRequest c) := by
  constructor
  · cases c <;> repeat' constructor
  · rintro name h
    cases c <;> cases h <;> dsimp only [heapRequest, HeapCall.name] <;> decide +kernel

theorem suits_timerCommand {c : Call} (hname : c.name? = some "timer_generic_command")
    (target : Handle .timer) (number : Int32) (value ticks : UInt32) :
    Suits c (timerCommand target number value ticks) := by
  constructor
  · repeat' constructor
  · intro name h
    rw [hname] at h
    cases h
    show Function.letters .timerGenericCommand = lettersOf "timer_generic_command"
    decide +kernel

/-- Whatever invocation a request ends in suits the service. -/
def RequestSuits (c : Call) : Request → Prop
  | .single i => Suits c i
  | .stamped command => ∀ now, Suits c (command now)

theorem suits_timer (c : TimerCall) : RequestSuits (.timer c) (timerRequest c) := by
  cases c with
  | start target ticks => exact fun now => suits_timerCommand rfl target 1 now ticks
  | reset target ticks => exact fun now => suits_timerCommand rfl target 2 now ticks
  | stop target ticks => exact suits_timerCommand rfl target 3 0 ticks
  | changePeriod target period ticks => exact suits_timerCommand rfl target 4 period ticks
  | delete target ticks => exact suits_timerCommand rfl target 5 0 ticks
  | _ =>
    constructor
    · repeat' constructor
    · rintro name h
      cases h <;> dsimp only <;> decide +kernel

theorem request_suits (c : Call) : RequestSuits c (request c) := by
  cases c with
  | task c => exact suits_task c
  | queue c => exact suits_queue c
  | timer c => exact suits_timer c
  | eventGroup c => exact suits_eventGroup c
  | stream c => exact suits_stream c
  | heap c => exact suits_heap c

end Sallyport.Foreign
