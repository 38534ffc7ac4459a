/-
Launching restricted tasks. A launch turns what the caller knows of the task into the descriptor
the kernel wants, asks the kernel once, and reports how that went, in its result and in a trace. A
launch that cannot be described never gets as far as the kernel.
-/
import Sallyport.Trampoline

namespace Sallyport

/-- A restricted task that has not been launched. -/
structure RestrictedTask where
  entry : Address
  name : Label
  /-- The stack; its length is in words. -/
  stack : Storage
  parameters : Address
  priority : UInt32
  regions : Mpu.Regions
  /-- Memory for the control block, if the caller has any. -/
  taskBuffer : Option Address
  deriving DecidableEq

/-- Why a launch failed. -/
inductive LaunchError where
  /-- The kernel refused, with this code. -/
  | kernel (code : Int32)
  /-- The kernel reported success and gave no handle. -/
  | noHandle
  /-- Creation in memory of the caller needs that memory. -/
  | noTaskBuffer
  /-- The stack is longer than its 16-bit length field can say. -/
  | stackTooLarge
  deriving DecidableEq, Repr

def LaunchError.text : LaunchError → String
  | .kernel code => "Kernel(" ++ toString code.toInt ++ ")"
  | .noHandle => "NoHandle"
  | .noTaskBuffer => "NoTaskBuffer"
  | .stackTooLarge => "StackTooLarge"

/-- What the launcher records. -/
inductive LaunchEvent where
  | idle
  | created (address : Address)
  | refused (code : Int32)
  | noHandle
  deriving DecidableEq, Repr

/-- The text of an event in a trace. Addresses differ from run to run, so none is shown. -/
def LaunchEvent.text : LaunchEvent → String
  | .idle => "None"
  | .created _ => "Created"
  | .refused code => "Refused(" ++ toString code.toInt ++ ")"
  | .noHandle => "NoHandle"

/-- The line each event is recorded from. -/
def LaunchEvent.line : LaunchEvent → UInt16
  | .idle => 0
  | .refused _ => 176
  | .created _ => 181
  | .noHandle => 185

namespace RestrictedTask

/-- The descriptor for the kernel. -/
def definition (t : RestrictedTask) : Except LaunchError TaskDefinition :=
  if 65535 < t.stack.length then .error .stackTooLarge
  else
    .ok {
      entry := t.entry
      name := t.name
      stackDepth := UInt16.ofNat t.stack.length
      parameters := t.parameters
      priority := t.priority
      stack := t.stack.address
      regions := t.regions
      taskBuffer := t.taskBuffer.getD 0 }

end RestrictedTask

/-- Where the control block of a launched task lives. -/
inductive Placement where
  /-- The kernel finds memory. -/
  | dynamic
  /-- In the task buffer of the caller. -/
  | static
  deriving DecidableEq, Repr

/-- The descriptor for a launch, or why there can be none. -/
def Placement.definition (p : Placement) (t : RestrictedTask) : Except LaunchError TaskDefinition :=
  if p = .static ∧ t.taskBuffer = none then .error .noTaskBuffer else t.definition

/-- The call a launch makes, given where the descriptor lies and where the handle goes. -/
def Placement.call (p : Placement) (definition : Ref TaskDefinition) (slot : Ref Address) : Call :=
  match p with
  | .dynamic => .task (.createRestricted definition (some slot))
  | .static => .task (.createRestrictedStatic definition (some slot))

/-- The code and the handle a creation gave. A missing handle is the null address, and a reply to
anything else is a refusal. -/
def Reply.creation : Reply → Int32 × Address
  | .created result slot => (result, slot.getD 0)
  | _ => (Code.fail, 0)

/-- The world launches happen in, with the trace of the launcher. -/
structure Launcher (κ : Type) where
  world : World κ
  trace : Trace.Recorder LaunchEvent

namespace Launcher

variable {κ : Type}

def boot (world : World κ) : Launcher κ := ⟨world, Trace.Recorder.new 8 .idle⟩

def record (e : LaunchEvent) (l : Launcher κ) : Launcher κ := { l with trace := l.trace.record e.line e }

/-- Reports how a creation went. -/
def finish (code : Int32) (handle : Address) (l : Launcher κ) :
    Except LaunchError (Handle .task) × Launcher κ :=
  if code ≠ Code.pass then (.error (.kernel code), l.record (.refused code))
  else
    match Handle.ofAddress? handle with
    | some h => (.ok h, l.record (.created h.address))
    | none => (.error .noHandle, l.record .noHandle)

variable [CallServer κ]

/-- Launches a task on a route to the kernel. The descriptor and the slot for the handle lie at the
given addresses; the slot starts out empty. -/
def launch (route : Route) (placement : Placement) (task : RestrictedTask)
    (definitionAt slotAt : Address) :
    Attempt (Launcher κ) (Except LaunchError (Handle .task)) := fun l =>
  match placement.definition task with
  | .error e => (.ok (.error e), l)
  | .ok definition =>
    match World.call route (placement.call ⟨definitionAt, definition⟩ ⟨slotAt, 0⟩) l.world with
    | (.error f, world) => (.error f, { l with world })
    | (.ok reply, world) =>
      let (code, handle) := reply.creation
      let (result, l) := finish code handle { l with world }
      (.ok result, l)

end Launcher

end Sallyport
