/-
Kernel services as data: one constructor per service, with its arguments in order. The services
come in six families. A reference the caller may leave out is an option; a task argument that is
left out means the calling task.
-/
import Sallyport.Rtos.Basic

namespace Sallyport

open ObjectKind

/-! ## Tasks and notifications -/

/-- Services on tasks. -/
inductive TaskCall where
  | create (entry : Address) (name : Label) (stackDepth : UInt16) (parameters : Address)
      (priority : UInt32) (created : Option (Ref Address))
  | createStatic (entry : Address) (name : Label) (parameters : Address) (priority : UInt32)
      (stack : Storage) (block : Address)
  | createRestricted (definition : Ref TaskDefinition) (created : Option (Ref Address))
  | createRestrictedStatic (definition : Ref TaskDefinition) (created : Option (Ref Address))
  | allocateRegions (target : Option (Handle task)) (regions : Ref Mpu.Regions)
  | delete (target : Option (Handle task))
  | delayUntil (previousWake : Ref UInt32) (increment : UInt32)
  | abortDelay (target : Handle task)
  | delay (ticks : UInt32)
  | priorityGet (target : Option (Handle task))
  | prioritySet (target : Option (Handle task)) (priority : UInt32)
  | getState (target : Handle task)
  | getInfo (target : Option (Handle task)) (status : Ref TaskStatus) (freeSpace : Int32)
      (state : TaskState)
  | idleTask
  | suspend (target : Option (Handle task))
  | resume (target : Handle task)
  | suspendAll
  | resumeAll
  | tickCount
  | numberOfTasks
  | getName (target : Option (Handle task))
  | getHandle (name : Label)
  | setTag (target : Option (Handle task)) (hook : Address)
  | getTag (target : Option (Handle task))
  | callHook (target : Option (Handle task)) (parameter : Address)
  | setLocal (target : Option (Handle task)) (index : Int32) (value : Address)
  | getLocal (target : Option (Handle task)) (index : Int32)
  | systemState (statuses : Run TaskStatus) (totalRunTime : Option (Ref UInt32))
  | catchUpTicks (ticks : UInt32)
  | stackHighWaterMark (target : Option (Handle task))
  | currentTask
  | schedulerState
  | setTimeOut (timeOut : Ref TimeOut)
  | checkTimeOut (timeOut : Ref TimeOut) (wait : Ref UInt32)
  | notify (target : Handle task) (index value : UInt32) (action : NotifyAction)
      (previous : Option (Ref UInt32))
  | notifyWait (clearOnEntry clearOnExit : UInt32) (value : Option (Ref UInt32)) (ticks : UInt32)
  | notifyTake (clear : Int32) (ticks : UInt32)
  | notifyStateClear (target : Option (Handle task))
  | notifyTakeAt (index : UInt32) (clear : Int32) (ticks : UInt32)
  | list (buffer : Run UInt8)
  | runTimeStats (buffer : Run UInt8)
  | idleRunTime
  deriving DecidableEq

/-- Name under which a service on tasks is known. -/
def TaskCall.name : TaskCall → String
  | .create .. => "task_create"
  | .createStatic .. => "task_create_static"
  | .createRestricted .. => "task_create_restricted"
  | .createRestrictedStatic .. => "task_create_restricted_static"
  | .allocateRegions .. => "task_allocate_mpu_regions"
  | .delete .. => "task_delete"
  | .delayUntil .. => "task_delay_until"
  | .abortDelay .. => "task_abort_delay"
  | .delay .. => "task_delay"
  | .priorityGet .. => "task_priority_get"
  | .prioritySet .. => "task_priority_set"
  | .getState .. => "task_get_state"
  | .getInfo .. => "task_get_info"
  | .idleTask => "task_get_idle_task_handle"
  | .suspend .. => "task_suspend"
  | .resume .. => "task_resume"
  | .suspendAll => "task_suspend_all"
  | .resumeAll => "task_resume_all"
  | .tickCount => "task_get_tick_count"
  | .numberOfTasks => "task_get_number_of_tasks"
  | .getName .. => "task_get_name"
  | .getHandle .. => "task_get_handle"
  | .setTag .. => "task_set_application_task_tag"
  | .getTag .. => "task_get_application_task_tag"
  | .callHook .. => "task_call_application_task_hook"
  | .setLocal .. => "task_set_thread_local_storage_pointer"
  | .getLocal .. => "task_get_thread_local_storage_pointer"
  | .systemState .. => "task_get_system_state"
  | .catchUpTicks .. => "task_catch_up_ticks"
  | .stackHighWaterMark .. => "task_get_stack_high_water_mark"
  | .currentTask => "task_get_current_task_handle"
  | .schedulerState => "task_get_scheduler_state"
  | .setTimeOut .. => "task_set_time_out_state"
  | .checkTimeOut .. => "task_check_for_time_out"
  | .notify .. => "task_generic_notify"
  | .notifyWait .. => "task_notify_wait"
  | .notifyTake .. => "task_notify_take"
  | .notifyStateClear .. => "task_notify_state_clear"
  | .notifyTakeAt .. => "task_generic_notify_take"
  | .list .. => "task_list"
  | .runTimeStats .. => "task_get_run_time_stats"
  | .idleRunTime => "task_get_idle_run_time_counter"

/-! ## Queues, semaphores, mutexes -/

/-- Services on queues. -/
inductive QueueCall where
  | create (length itemSize : UInt32) (kind : QueueKind)
  | createStatic (length itemSize : UInt32) (storage : Option Storage) (block : Address)
      (kind : QueueKind)
  | reset (target : Handle queue) (newQueue : Int32)
  | genericSend (target : Handle queue) (item : Run UInt8) (ticks : UInt32) (position : CopyPosition)
  /-- Sends an item to the back. -/
  | send (target : Handle queue) (item : Run UInt8) (ticks : UInt32)
  /-- Gives a semaphore back: sends an item without bytes, which lies at the given address. -/
  | give (target : Handle queue) (nothing : Address)
  | messagesWaiting (target : Handle queue)
  | spacesAvailable (target : Handle queue)
  | receive (target : Handle queue) (buffer : Run UInt8) (ticks : UInt32)
  | peek (target : Handle queue) (buffer : Run UInt8) (ticks : UInt32)
  | semaphoreTake (target : Handle queue) (ticks : UInt32)
  | mutexHolder (mutex : Handle queue)
  | createMutex (kind : QueueKind)
  | createMutexStatic (kind : QueueKind) (block : Address)
  | createCounting (maxCount initialCount : UInt32)
  | createCountingStatic (maxCount initialCount : UInt32) (block : Address)
  | takeRecursive (mutex : Handle queue) (ticks : UInt32)
  | giveRecursive (mutex : Handle queue)
  | createSet (length : UInt32)
  | selectFromSet (set : Handle queueSet) (ticks : UInt32)
  | addToSet (member : Handle queueSetMember) (set : Handle queueSet)
  | removeFromSet (member : Handle queueSetMember) (set : Handle queueSet)
  | addToRegistry (target : Handle queue) (name : Label)
  | unregister (target : Handle queue)
  | getName (target : Handle queue)
  | delete (target : Handle queue)
  deriving DecidableEq

/-- Name under which a service on queues is known to the kernel. Sending and giving are one
service there. -/
def QueueCall.name : QueueCall → String
  | .create .. => "queue_generic_create"
  | .createStatic .. => "queue_generic_create_static"
  | .reset .. => "queue_generic_reset"
  | .genericSend .. => "queue_generic_send"
  | .send .. => "queue_generic_send"
  | .give .. => "queue_generic_send"
  | .messagesWaiting .. => "queue_messages_waiting"
  | .spacesAvailable .. => "queue_spaces_available"
  | .receive .. => "queue_receive"
  | .peek .. => "queue_peek"
  | .semaphoreTake .. => "queue_semaphore_take"
  | .mutexHolder .. => "queue_get_mutex_holder"
  | .createMutex .. => "queue_create_mutex"
  | .createMutexStatic .. => "queue_create_mutex_static"
  | .createCounting .. => "queue_create_counting_semaphore"
  | .createCountingStatic .. => "queue_create_counting_semaphore_static"
  | .takeRecursive .. => "queue_take_mutex_recursive"
  | .giveRecursive .. => "queue_give_mutex_recursive"
  | .createSet .. => "queue_create_set"
  | .selectFromSet .. => "queue_select_from_set"
  | .addToSet .. => "queue_add_to_set"
  | .removeFromSet .. => "queue_remove_from_set"
  | .addToRegistry .. => "queue_add_to_registry"
  | .unregister .. => "queue_unregister_queue"
  | .getName .. => "queue_get_name"
  | .delete .. => "queue_delete"

/-! ## Timers -/

/-- Services on timers. -/
inductive TimerCall where
  | create (name : Label) (period autoReload : UInt32) (id callback : Address)
  | createStatic (name : Label) (period autoReload : UInt32) (id callback block : Address)
  | getId (target : Handle timer)
  | setId (target : Handle timer) (id : Address)
  | isActive (target : Handle timer)
  | daemonTask
  | pendCall (function parameter1 : Address) (parameter2 ticks : UInt32)
  | setReloadMode (target : Handle timer) (autoReload : UInt32)
  | getName (target : Handle timer)
  | getPeriod (target : Handle timer)
  | getExpiry (target : Handle timer)
  | genericCommand (target : Handle timer) (command : TimerCommand) (value : UInt32)
      (woken : Option (Ref Int32)) (ticks : UInt32)
  /-- The time a command given now is stamped with. -/
  | commandTime
  | start (target : Handle timer) (ticks : UInt32)
  | reset (target : Handle timer) (ticks : UInt32)
  | stop (target : Handle timer) (ticks : UInt32)
  | changePeriod (target : Handle timer) (period ticks : UInt32)
  | delete (target : Handle timer) (ticks : UInt32)
  deriving DecidableEq

/-- Name under which a service on timers is known to the kernel, where all commands are one
service. Asking for the command time is no service of its own. -/
def TimerCall.name? : TimerCall → Option String
  | .create .. => some "timer_create"
  | .createStatic .. => some "timer_create_static"
  | .getId .. => some "timer_get_timer_id"
  | .setId .. => some "timer_set_timer_id"
  | .isActive .. => some "timer_is_timer_active"
  | .daemonTask => some "timer_get_timer_daemon_task_handle"
  | .pendCall .. => some "timer_pend_function_call"
  | .setReloadMode .. => some "timer_set_reload_mode"
  | .getName .. => some "timer_get_name"
  | .getPeriod .. => some "timer_get_period"
  | .getExpiry .. => some "timer_get_expiry_time"
  | .genericCommand .. => some "timer_generic_command"
  | .commandTime => none
  | .start .. => some "timer_generic_command"
  | .reset .. => some "timer_generic_command"
  | .stop .. => some "timer_generic_command"
  | .changePeriod .. => some "timer_generic_command"
  | .delete .. => some "timer_generic_command"

/-! ## Event groups -/

/-- Services on event groups. -/
inductive EventGroupCall where
  | create
  | createStatic (block : Address)
  | waitBits (group : Handle eventGroup) (bits : UInt32) (clearOnExit waitForAll : Int32)
      (ticks : UInt32)
  | clearBits (group : Handle eventGroup) (bits : UInt32)
  | setBits (group : Handle eventGroup) (bits : UInt32)
  | sync (group : Handle eventGroup) (bitsToSet bitsToWaitFor ticks : UInt32)
  | delete (group : Handle eventGroup)
  deriving DecidableEq

/-- Name under which a service on event groups is known. -/
def EventGroupCall.name : EventGroupCall → String
  | .create => "event_group_create"
  | .createStatic .. => "event_group_create_static"
  | .waitBits .. => "event_group_wait_bits"
  | .clearBits .. => "event_group_clear_bits"
  | .setBits .. => "event_group_set_bits"
  | .sync .. => "event_group_sync"
  | .delete .. => "event_group_delete"

/-! ## Stream buffers -/

/-- Services on stream and message buffers. -/
inductive StreamCall where
  | send (target : Handle streamBuffer) (data : Run UInt8) (ticks : UInt32)
  | receive (target : Handle streamBuffer) (buffer : Run UInt8) (ticks : UInt32)
  | nextMessageLength (target : Handle streamBuffer)
  | delete (target : Handle streamBuffer)
  | isFull (target : Handle streamBuffer)
  | isEmpty (target : Handle streamBuffer)
  | reset (target : Handle streamBuffer)
  | spacesAvailable (target : Handle streamBuffer)
  | bytesAvailable (target : Handle streamBuffer)
  | setTriggerLevel (target : Handle streamBuffer) (level : UInt64)
  | create (size triggerLevel : UInt64) (isMessageBuffer : Int32)
  | createStatic (size triggerLevel : UInt64) (isMessageBuffer : Int32) (storage : Storage)
      (block : Address)
  deriving DecidableEq

/-- Name under which a service on stream buffers is known. -/
def StreamCall.name : StreamCall → String
  | .send .. => "stream_buffer_send"
  | .receive .. => "stream_buffer_receive"
  | .nextMessageLength .. => "stream_buffer_next_message_length_bytes"
  | .delete .. => "stream_buffer_delete"
  | .isFull .. => "stream_buffer_is_full"
  | .isEmpty .. => "stream_buffer_is_empty"
  | .reset .. => "stream_buffer_reset"
  | .spacesAvailable .. => "stream_buffer_spaces_available"
  | .bytesAvailable .. => "stream_buffer_bytes_available"
  | .setTriggerLevel .. => "stream_buffer_set_trigger_level"
  | .create .. => "stream_buffer_generic_create"
  | .createStatic .. => "stream_buffer_generic_create_static"

/-! ## Heap -/

/-- Services on the heap. -/
inductive HeapCall where
  | malloc (size : UInt64)
  | free (block : Address)
  | initialiseBlocks
  | freeSize
  deriving DecidableEq

/-- Name under which a service on the heap is known. -/
def HeapCall.name : HeapCall → String
  | .malloc .. => "port_malloc"
  | .free .. => "port_free"
  | .initialiseBlocks => "port_initialise_blocks"
  | .freeSize => "port_get_free_heap_size"

/-! ## All families -/

/-- The families of services. -/
inductive Family where
  | task
  | queue
  | timer
  | eventGroup
  | stream
  | heap
  deriving DecidableEq, Repr

/-- A service of any family. -/
inductive Call where
  | task (call : TaskCall)
  | queue (call : QueueCall)
  | timer (call : TimerCall)
  | eventGroup (call : EventGroupCall)
  | stream (call : StreamCall)
  | heap (call : HeapCall)
  deriving DecidableEq

namespace Call

def family : Call → Family
  | .task _ => .task
  | .queue _ => .queue
  | .timer _ => .timer
  | .eventGroup _ => .eventGroup
  | .stream _ => .stream
  | .heap _ => .heap

/-- Name under which the kernel knows a service, if it is one of its own. -/
def name? : Call → Option String
  | .task c => some c.name
  | .queue c => some c.name
  | .timer c => c.name?
  | .eventGroup c => some c.name
  | .stream c => some c.name
  | .heap c => some c.name

end Call

end Sallyport
