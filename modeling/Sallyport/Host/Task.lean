/-
Tasks of the host kernel. What a task is given (a priority, a tag, local pointers, a suspension) is
kept under its address, and the calling task has the null address when it is not named. How
restricted creation ends can be set beforehand.
-/
import Sallyport.Host.Notify

namespace Sallyport.Host

/-- What is decided before the kernel runs. -/
structure Settings where
  /-- The code that restricted creation returns. -/
  createResult : Int32
  /-- Whether a successful restricted creation writes a handle back. -/
  writesHandle : Bool
  /-- What the hook at an address returns for a parameter. -/
  hooks : Address → Address → Int32
  /-- Where the blocks of the heap lie. -/
  sites : Sites := .inARow
  names : Names := .inARow

/-- Creation succeeds and no hook does anything. -/
def Settings.default : Settings := { createResult := Code.pass, writesHandle := true, hooks := fun _ _ => 0 }

structure Tasks where
  settings : Settings
  priorities : Table Address UInt32
  suspended : Table Address Unit
  /-- The regions given last. -/
  regions : Option Mpu.Regions
  /-- The restricted task defined last. -/
  restricted : Option TaskDefinition
  notices : Notices
  tags : Table Address Address
  locals : Table (Address × Int32) Address

namespace Tasks

def boot (settings : Settings) : Tasks where
  settings := settings
  priorities := .empty
  suspended := .empty
  regions := none
  restricted := none
  notices := .empty
  tags := .empty
  locals := .empty

/-- Address under which a task is kept. -/
def key (target : Option (Handle .task)) : Address := Handle.toAddress target

def isSuspended (t : Tasks) (address : Address) : Bool := (t.suspended.get? address).isSome

def priority (t : Tasks) (address : Address) : UInt32 := (t.priorities.get? address).getD 1

/-- The tag of a task, null if it has none. -/
def tag (t : Tasks) (address : Address) : Address := (t.tags.get? address).getD 0

/-- Forgets the priority and the suspension of a task. -/
def delete (address : Address) (t : Tasks) : Tasks :=
  { t with priorities := t.priorities.erase address, suspended := t.suspended.erase address }

def suspend (address : Address) (t : Tasks) : Tasks :=
  { t with suspended := t.suspended.insert address () }

def resume (address : Address) (t : Tasks) : Tasks :=
  { t with suspended := t.suspended.erase address }

/-- The null tag removes the tag. -/
def setTag (address hook : Address) (t : Tasks) : Tasks :=
  if hook = 0 then { t with tags := t.tags.erase address }
  else { t with tags := t.tags.insert address hook }

/-- Calls the hook of a task; a task without one fails. -/
def callHook (t : Tasks) (address parameter : Address) : Int32 :=
  match t.tags.get? address with
  | some hook => t.settings.hooks hook parameter
  | none => Code.fail

/-- The slot of the caller after the new task has been written into it. -/
def fillSlot (created : Option (Ref Address)) (value : Address) : Option Address :=
  created.map fun _ => value

/-- The slot of the caller as it was. -/
def keepSlot (created : Option (Ref Address)) : Option Address := created.map (·.value)

/-- Takes note of a restricted task. The handle of the new task is the address of its stack. -/
def createRestricted (definition : TaskDefinition) (created : Option (Ref Address)) (t : Tasks) :
    Reply × Tasks :=
  let code := t.settings.createResult
  let slot :=
    if code = Code.pass ∧ t.settings.writesHandle then fillSlot created definition.stack
    else keepSlot created
  (.created code slot, { t with restricted := some definition })

/-- The report on the task at a position. -/
def report (position : Nat) (status : TaskStatus) : TaskStatus :=
  { status with
    handle := 0x10 * UInt64.ofNat (position + 1)
    number := UInt32.ofNat position
    state := .ready }

/-- Reports on as many tasks as there are, and as there is room for. -/
def systemState (statuses : List TaskStatus) : UInt32 × List TaskStatus :=
  let count := min statuses.length taskCount
  (UInt32.ofNat count, (statuses.take count).mapIdx report ++ statuses.drop count)

/-- Whether a wait that began at `timeOut` is over; otherwise what is left of it, counted from
now. The wait without end is never over. -/
def checkTimeOut (timeOut : TimeOut) (wait : UInt32) : Except Fault (Int32 × TimeOut × UInt32) :=
  if wait = maxDelay then .ok (Code.fail, timeOut, wait)
  else
    let elapsed := tickCount - timeOut.timeOnEntering
    if wait ≤ elapsed then .ok (Code.pass, timeOut, 0)
    else
      (minus wait.toNat elapsed.toNat).map fun left =>
        (Code.fail, { timeOut with timeOnEntering := tickCount }, UInt32.ofNat left)

/-- The list of tasks as a text. -/
def listText : String := "IDLE\tR\t0\t64\t1\n"

/-- The run times of tasks as a text. -/
def runTimeText : String := "IDLE\t1234\t100%\n"

def step : TaskCall → Attempt Tasks Reply
  | .create _ _ _ _ _ created, t => (.ok (.created Code.pass (fillSlot created newTask)), t)
  | .createStatic _ _ _ _ _ block, t => (.ok (.address block), t)
  | .createRestricted definition created, t =>
    let (reply, t) := createRestricted definition.value created t
    (.ok reply, t)
  | .createRestrictedStatic definition created, t =>
    if definition.value.taskBuffer = 0 then (.ok (.created Code.couldNotAllocate (keepSlot created)), t)
    else
      let (reply, t) := createRestricted definition.value created t
      (.ok reply, t)
  | .allocateRegions _ regions, t => (.ok .nothing, { t with regions := some regions.value })
  | .delete target, t => (.ok .nothing, t.delete (key target))
  | .delayUntil previousWake increment, t => (.ok (.wakeTime (previousWake.value + increment)), t)
  | .abortDelay _, t => (.ok (.code Code.fail), t)
  | .delay _, t => (.ok .nothing, t)
  | .priorityGet target, t => (.ok (.word (t.priority (key target))), t)
  | .prioritySet target priority, t =>
    (.ok .nothing, { t with priorities := t.priorities.insert (key target) priority })
  | .getState target, t =>
    (.ok (.state (if t.isSuspended target.address then .suspended else .ready)), t)
  | .getInfo target status _ state, t =>
    (.ok (.status { status.value with handle := key target, state }), t)
  | .idleTask, t => (.ok (.address Host.idleTask), t)
  | .suspend target, t => (.ok .nothing, t.suspend (key target))
  | .resume target, t => (.ok .nothing, t.resume target.address)
  | .suspendAll, t => (.ok .nothing, t)
  | .resumeAll, t => (.ok (.code Code.fail), t)
  | .tickCount, t => (.ok (.word Host.tickCount), t)
  | .numberOfTasks, t => (.ok (.word (UInt32.ofNat taskCount)), t)
  | .getName _, t => (.ok (.text (some t.settings.names.ofTask)), t)
  | .getHandle name, t => (.ok (.address (if name.text = "IDLE" then Host.idleTask else 0)), t)
  | .setTag target hook, t => (.ok .nothing, t.setTag (key target) hook)
  | .getTag target, t => (.ok (.address (t.tag (key target))), t)
  | .callHook target parameter, t => (.ok (.code (t.callHook (key target) parameter)), t)
  | .setLocal target index value, t =>
    (.ok .nothing, { t with locals := t.locals.insert (key target, index) value })
  | .getLocal target index, t => (.ok (.address ((t.locals.get? (key target, index)).getD 0)), t)
  | .systemState statuses totalRunTime, t =>
    let (count, statuses) := systemState statuses.items
    (.ok (.statuses count statuses (totalRunTime.map fun _ => Host.tickCount)), t)
  | .catchUpTicks _, t => (.ok (.code Code.fail), t)
  | .stackHighWaterMark _, t => (.ok (.word 64), t)
  | .currentTask, t => (.ok (.address Host.currentTask), t)
  | .schedulerState, t => (.ok (.code SchedulerState.running), t)
  | .setTimeOut _, t => (.ok (.timeOut ⟨0, Host.tickCount - 20⟩), t)
  | .checkTimeOut timeOut wait, t =>
    ((checkTimeOut timeOut.value wait.value).map fun (code, timeOut, wait) =>
      .timeOutCheck code timeOut wait, t)
  | .notify _ index value action previous, t =>
    let old := t.notices.value index
    let (code, notices) := t.notices.notify index value action
    (.ok (.notified code (previous.map fun _ => old)), { t with notices })
  | .notifyWait clearOnEntry clearOnExit value _, t =>
    let (code, seen, notices) := t.notices.wait clearOnEntry clearOnExit
    (.ok (.notified code (value.map fun _ => seen)), { t with notices })
  | .notifyTake clear _, t =>
    let (count, notices) := t.notices.take defaultNotifyIndex clear
    (.ok (.word count), { t with notices })
  | .notifyStateClear _, t =>
    let (code, notices) := t.notices.clearState
    (.ok (.code code), { t with notices })
  | .notifyTakeAt index clear _, t =>
    let (count, notices) := t.notices.take index clear
    (.ok (.word count), { t with notices })
  | .list buffer, t => (.ok (.buffer (writeText buffer.items (Bytes.ofText listText))), t)
  | .runTimeStats buffer, t =>
    (.ok (.buffer (writeText buffer.items (Bytes.ofText runTimeText))), t)
  | .idleRunTime, t => (.ok (.word Host.tickCount), t)

end Tasks

end Sallyport.Host
