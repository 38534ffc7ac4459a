/-
How services are bound to kernel functions. Each service is a plan: which functions to call with
which values, and what to reply from their answers. Most plans call one function. Starting and
resetting a timer first ask for the time the command is stamped with. Creation in memory of the
caller is refused without calling anything when the memory is too small.
-/
import Sallyport.Foreign.Answer
import Sallyport.Trampoline

namespace Sallyport.Foreign

/-- What is done for a service. -/
inductive Plan where
  | done (reply : Reply)
  | invoke (i : Invocation) (next : Answer → Plan)

namespace Plan

/-- Calls one function and replies from its answer. -/
def single (f : Function) (arguments : List Value) (reply : Answer → Reply) : Plan :=
  .invoke ⟨f, arguments⟩ fun a => .done (reply a)

/-- Carries out a plan at a level. -/
def run {κ : Type} [KernelFunctions κ] (privileged : Bool) : Plan → κ → Reply × κ
  | .done reply, k => (reply, k)
  | .invoke i next, k =>
    let (a, k) := KernelFunctions.invoke privileged i k
    (next a).run privileged k

end Plan

/-! ## Replies that are one value -/

def nothing (_ : Answer) : Reply := .nothing
def code (a : Answer) : Reply := .code a.code
def word (a : Answer) : Reply := .word a.word
def size (a : Answer) : Reply := .size a.value
def address (a : Answer) : Reply := .address a.value
def text (a : Answer) : Reply := .text a.string.nonNull?

/-! ## Arguments -/

/-- A handle that may be left out is passed as null. -/
def handle {kind : ObjectKind} (h : Option (Handle kind)) : Value := .handle (Handle.toAddress h)

/-- A handle that has to be there. -/
def object {kind : ObjectKind} (h : Handle kind) : Value := .handle h.address

/-- A reference that may be left out is passed as null. -/
def slot {α : Type} (r : Option (Ref α)) : Value := .pointer (Ref.toAddress r)

/-! ## Tasks -/

/-- Creation of a task from a descriptor. -/
def createRestricted (f : Function) (definition : Ref TaskDefinition)
    (created : Option (Ref Address)) : Plan :=
  .single f [.pointer definition.address, slot created] fun a =>
    .created a.code (created.map a.addressAt)

def taskPlan : TaskCall → Plan
  | .create entry name stackDepth parameters priority created =>
    .single .taskCreate [.pointer entry, .string name, .half stackDepth, .pointer parameters,
      .word priority, slot created] fun a => .created a.code (created.map a.addressAt)
  | .createStatic entry name parameters priority stack block =>
    .single .taskCreateStatic [.pointer entry, .string name, .word (UInt32.ofNat stack.length),
      .pointer parameters, .word priority, .pointer stack.address, .pointer block] address
  | .createRestricted definition created => createRestricted .taskCreateRestricted definition created
  | .createRestrictedStatic definition created =>
    createRestricted .taskCreateRestrictedStatic definition created
  | .allocateRegions target regions =>
    .single .taskAllocateMpuRegions [handle target, .pointer regions.address] nothing
  | .delete target => .single .taskDelete [handle target] nothing
  | .delayUntil previousWake increment =>
    .single .taskDelayUntil [.pointer previousWake.address, .word increment] fun a =>
      .wakeTime (a.wordAt previousWake)
  | .abortDelay target => .single .taskAbortDelay [object target] code
  | .delay ticks => .single .taskDelay [.word ticks] nothing
  | .priorityGet target => .single .taskPriorityGet [handle target] word
  | .prioritySet target priority =>
    .single .taskPrioritySet [handle target, .word priority] nothing
  | .getState target => .single .taskGetState [object target] fun a => .state a.state
  | .getInfo target status freeSpace state =>
    .single .taskGetInfo [handle target, .pointer status.address, .signed freeSpace, .state state]
      fun a => .status (a.reportAt status)
  | .idleTask => .single .taskGetIdleTaskHandle [] address
  | .suspend target => .single .taskSuspend [handle target] nothing
  | .resume target => .single .taskResume [object target] nothing
  | .suspendAll => .single .taskSuspendAll [] nothing
  | .resumeAll => .single .taskResumeAll [] code
  | .tickCount => .single .taskGetTickCount [] word
  | .numberOfTasks => .single .taskGetNumberOfTasks [] word
  | .getName target => .single .taskGetName [handle target] text
  | .getHandle name => .single .taskGetHandle [.string name] address
  | .setTag target hook =>
    .single .taskSetApplicationTaskTag [handle target, .pointer hook] nothing
  | .getTag target => .single .taskGetApplicationTaskTag [handle target] address
  | .callHook target parameter =>
    .single .taskCallApplicationTaskHook [handle target, .pointer parameter] code
  | .setLocal target index value =>
    .single .taskSetThreadLocalStoragePointer [handle target, .signed index, .pointer value] nothing
  | .getLocal target index =>
    .single .taskGetThreadLocalStoragePointer [handle target, .signed index] address
  | .systemState statuses totalRunTime =>
    .single .taskGetSystemState [.pointer statuses.address,
      .word (UInt32.ofNat statuses.items.length), slot totalRunTime] fun a =>
        .statuses a.word (a.reportsAt statuses) (totalRunTime.map a.wordAt)
  | .catchUpTicks ticks => .single .taskCatchUpTicks [.word ticks] code
  | .stackHighWaterMark target => .single .taskGetStackHighWaterMark [handle target] word
  | .currentTask => .single .taskGetCurrentTaskHandle [] address
  | .schedulerState => .single .taskGetSchedulerState [] code
  | .setTimeOut timeOut =>
    .single .taskSetTimeOutState [.pointer timeOut.address] fun a => .timeOut (a.timeOutAt timeOut)
  | .checkTimeOut timeOut wait =>
    .single .taskCheckForTimeOut [.pointer timeOut.address, .pointer wait.address] fun a =>
      .timeOutCheck a.code (a.timeOutAt timeOut) (a.wordAt wait)
  | .notify target index value action previous =>
    .single .taskGenericNotify [object target, .word index, .word value, .word action.number,
      slot previous] fun a => .notified a.code (previous.map a.wordAt)
  | .notifyWait clearOnEntry clearOnExit value ticks =>
    .single .taskNotifyWait [.word clearOnEntry, .word clearOnExit, slot value, .word ticks]
      fun a => .notified a.code (value.map a.wordAt)
  | .notifyTake clear ticks => .single .taskNotifyTake [.signed clear, .word ticks] word
  | .notifyStateClear target => .single .taskNotifyStateClear [handle target] code
  | .notifyTakeAt index clear ticks =>
    .single .taskGenericNotifyTake [.word index, .signed clear, .word ticks] word
  | .list buffer =>
    .single .taskList [.pointer buffer.address] fun a => .buffer (a.bytesAt buffer)
  | .runTimeStats buffer =>
    .single .taskGetRunTimeStats [.pointer buffer.address] fun a => .buffer (a.bytesAt buffer)
  | .idleRunTime => .single .taskGetIdleRunTimeCounter [] word

/-! ## Queues, semaphores, mutexes -/

/-- The address of the storage for so many items of a size, null if they take no space and there is
no storage; nothing if the storage is too small. -/
def queueStorage (length itemSize : UInt32) (storage : Option Storage) : Option Address :=
  let needed := length.toNat * itemSize.toNat
  match storage with
  | some s => if needed ≤ s.length then some s.address else none
  | none => if needed = 0 then some 0 else none

/-- Sends an item that lies at an address. -/
def sendPlan (target : Handle .queue) (item : Address) (ticks : UInt32) (position : CopyPosition) :
    Plan :=
  .single .queueGenericSend [object target, .pointer item, .word ticks, .signed position.number]
    code

def queuePlan : QueueCall → Plan
  | .create length itemSize kind =>
    .single .queueGenericCreate [.word length, .word itemSize, .byte kind.number] address
  | .createStatic length itemSize storage block kind =>
    match queueStorage length itemSize storage with
    | none => .done (.address 0)
    | some storage =>
      .single .queueGenericCreateStatic [.word length, .word itemSize, .pointer storage,
        .pointer block, .byte kind.number] address
  | .reset target newQueue => .single .queueGenericReset [object target, .signed newQueue] code
  | .genericSend target item ticks position => sendPlan target item.address ticks position
  | .send target item ticks => sendPlan target item.address ticks .back
  | .give target nothing => sendPlan target nothing 0 .back
  | .messagesWaiting target => .single .queueMessagesWaiting [object target] word
  | .spacesAvailable target => .single .queueSpacesAvailable [object target] word
  | .receive target buffer ticks =>
    .single .queueReceive [object target, .pointer buffer.address, .word ticks] fun a =>
      .filled a.code (a.bytesAt buffer)
  | .peek target buffer ticks =>
    .single .queuePeek [object target, .pointer buffer.address, .word ticks] fun a =>
      .filled a.code (a.bytesAt buffer)
  | .semaphoreTake target ticks => .single .queueSemaphoreTake [object target, .word ticks] code
  | .mutexHolder mutex => .single .queueGetMutexHolder [object mutex] address
  | .createMutex kind => .single .queueCreateMutex [.byte kind.number] address
  | .createMutexStatic kind block =>
    .single .queueCreateMutexStatic [.byte kind.number, .pointer block] address
  | .createCounting maxCount initialCount =>
    .single .queueCreateCountingSemaphore [.word maxCount, .word initialCount] address
  | .createCountingStatic maxCount initialCount block =>
    .single .queueCreateCountingSemaphoreStatic [.word maxCount, .word initialCount, .pointer block]
      address
  | .takeRecursive mutex ticks => .single .queueTakeMutexRecursive [object mutex, .word ticks] code
  | .giveRecursive mutex => .single .queueGiveMutexRecursive [object mutex] code
  | .createSet length => .single .queueCreateSet [.word length] address
  | .selectFromSet set ticks => .single .queueSelectFromSet [object set, .word ticks] address
  | .addToSet member set => .single .queueAddToSet [object member, object set] code
  | .removeFromSet member set => .single .queueRemoveFromSet [object member, object set] code
  | .addToRegistry target name => .single .queueAddToRegistry [object target, .string name] nothing
  | .unregister target => .single .queueUnregisterQueue [object target] nothing
  | .getName target => .single .queueGetName [object target] text
  | .delete target => .single .queueDelete [object target] nothing

/-! ## Timers -/

/-- Gives a timer a command, in a slot-free way. -/
def commandPlan (target : Handle .timer) (command : TimerCommand) (value ticks : UInt32) : Plan :=
  .single .timerGenericCommand [object target, .signed command.number, .word value, .pointer 0,
    .word ticks] code

/-- Gives a timer a command that is stamped with the time it was given. -/
def stampedPlan (target : Handle .timer) (command : TimerCommand) (ticks : UInt32) : Plan :=
  .invoke ⟨.taskGetTickCount, []⟩ fun now => commandPlan target command now.word ticks

def timerPlan : TimerCall → Plan
  | .create name period autoReload id callback =>
    .single .timerCreate [.string name, .word period, .word autoReload, .pointer id,
      .pointer callback] address
  | .createStatic name period autoReload id callback block =>
    .single .timerCreateStatic [.string name, .word period, .word autoReload, .pointer id,
      .pointer callback, .pointer block] address
  | .getId target => .single .timerGetTimerId [object target] address
  | .setId target id => .single .timerSetTimerId [object target, .pointer id] nothing
  | .isActive target => .single .timerIsTimerActive [object target] code
  | .daemonTask => .single .timerGetTimerDaemonTaskHandle [] address
  | .pendCall function parameter1 parameter2 ticks =>
    .single .timerPendFunctionCall [.pointer function, .pointer parameter1, .word parameter2,
      .word ticks] code
  | .setReloadMode target autoReload =>
    .single .timerSetReloadMode [object target, .word autoReload] nothing
  | .getName target => .single .timerGetName [object target] text
  | .getPeriod target => .single .timerGetPeriod [object target] word
  | .getExpiry target => .single .timerGetExpiryTime [object target] word
  | .genericCommand target command value woken ticks =>
    .single .timerGenericCommand [object target, .signed command.number, .word value, slot woken,
      .word ticks] fun a => .commanded a.code (woken.map a.codeAt)
  | .commandTime => .single .taskGetTickCount [] word
  | .start target ticks => stampedPlan target .start ticks
  | .reset target ticks => stampedPlan target .reset ticks
  | .stop target ticks => commandPlan target .stop 0 ticks
  | .changePeriod target period ticks => commandPlan target .changePeriod period ticks
  | .delete target ticks => commandPlan target .delete 0 ticks

/-! ## Event groups -/

def eventGroupPlan : EventGroupCall → Plan
  | .create => .single .eventGroupCreate [] address
  | .createStatic block => .single .eventGroupCreateStatic [.pointer block] address
  | .waitBits group bits clearOnExit waitForAll ticks =>
    .single .eventGroupWaitBits [object group, .word bits, .signed clearOnExit, .signed waitForAll,
      .word ticks] word
  | .clearBits group bits => .single .eventGroupClearBits [object group, .word bits] word
  | .setBits group bits => .single .eventGroupSetBits [object group, .word bits] word
  | .sync group bitsToSet bitsToWaitFor ticks =>
    .single .eventGroupSync [object group, .word bitsToSet, .word bitsToWaitFor, .word ticks] word
  | .delete group => .single .eventGroupDelete [object group] nothing

/-! ## Stream buffers -/

def streamPlan : StreamCall → Plan
  | .send target data ticks =>
    .single .streamBufferSend [object target, .pointer data.address,
      .size (UInt64.ofNat data.items.length), .word ticks] size
  | .receive target buffer ticks =>
    .single .streamBufferReceive [object target, .pointer buffer.address,
      .size (UInt64.ofNat buffer.items.length), .word ticks] fun a =>
        .received a.value (a.bytesAt buffer)
  | .nextMessageLength target => .single .streamBufferNextMessageLengthBytes [object target] size
  | .delete target => .single .streamBufferDelete [object target] nothing
  | .isFull target => .single .streamBufferIsFull [object target] code
  | .isEmpty target => .single .streamBufferIsEmpty [object target] code
  | .reset target => .single .streamBufferReset [object target] code
  | .spacesAvailable target => .single .streamBufferSpacesAvailable [object target] size
  | .bytesAvailable target => .single .streamBufferBytesAvailable [object target] size
  | .setTriggerLevel target level =>
    .single .streamBufferSetTriggerLevel [object target, .size level] code
  | .create size triggerLevel isMessageBuffer =>
    .single .streamBufferGenericCreate [.size size, .size triggerLevel, .signed isMessageBuffer]
      address
  | .createStatic size triggerLevel isMessageBuffer storage block =>
    -- One byte more than the stream holds, so that full and empty can be told apart.
    if storage.length < size.toNat + 1 then .done (.address 0)
    else
      .single .streamBufferGenericCreateStatic [.size size, .size triggerLevel,
        .signed isMessageBuffer, .pointer storage.address, .pointer block] address

/-! ## Heap -/

def heapPlan : HeapCall → Plan
  | .malloc size => .single .portMalloc [.size size] address
  | .free block => .single .portFree [.pointer block] nothing
  | .initialiseBlocks => .single .portInitialiseBlocks [] nothing
  | .freeSize => .single .portGetFreeHeapSize [] size

/-- The plan of a service. -/
def plan : Call → Plan
  | .task c => taskPlan c
  | .queue c => queuePlan c
  | .timer c => timerPlan c
  | .eventGroup c => eventGroupPlan c
  | .stream c => streamPlan c
  | .heap c => heapPlan c

/-- Kernel functions serve calls through the binding, and never fault. -/
instance {κ : Type} [KernelFunctions κ] : CallServer κ where
  run privileged call k :=
    let (reply, k) := (plan call).run privileged k
    (.ok reply, k)

end Sallyport.Foreign
