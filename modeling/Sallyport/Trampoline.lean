/-
The trampoline between user code and the kernel. A gated call is the call itself inside a
privileged region: it goes through untouched, and so does what it gives back. The services that
only fix some arguments of another one have no region of their own: they are that other service,
gated. A direct call is made at whatever level the caller has, which only works in machine mode on
a real hart. The kernel behind the trampoline can be anything that serves calls.
-/
import Sallyport.Gate.Context
import Sallyport.Service.Call
import Sallyport.Service.Reply

namespace Sallyport

/-! ## Services made of others -/

namespace Call

/-- The service that the trampoline forwards for a call: a plain send and a give are general sends,
and the timer commands without a time stamp are general commands. Starting and resetting a timer
also read the time, and are forwarded whole so that both happen in one region. -/
def underlying : Call → Call
  | .queue (.send target item ticks) => .queue (.genericSend target item ticks .back)
  | .queue (.give target nothing) => .queue (.genericSend target ⟨nothing, []⟩ 0 .back)
  | .timer (.stop target ticks) => .timer (.genericCommand target .stop 0 none ticks)
  | .timer (.changePeriod target period ticks) =>
    .timer (.genericCommand target .changePeriod period none ticks)
  | .timer (.delete target ticks) => .timer (.genericCommand target .delete 0 none ticks)
  | call => call

/-- The reply to a call, out of the reply to the service that was forwarded for it. -/
def answer : Call → Reply → Reply
  | .timer (.stop _ _), .commanded code _ => .code code
  | .timer (.changePeriod _ _ _), .commanded code _ => .code code
  | .timer (.delete _ _), .commanded code _ => .code code
  | _, reply => reply

end Call

/-! ## The two routes -/

/-- A kernel: it serves calls and can see whether the hart is privileged meanwhile. -/
class CallServer (κ : Type) where
  run (privileged : Bool) (call : Call) : Attempt κ Reply

/-- A hart behind its gate, and a kernel. -/
structure World (κ : Type) where
  gate : Gate Hart
  kernel : κ

/-- The ways to reach the kernel. -/
inductive Route where
  | direct
  | gated
  deriving DecidableEq, Repr

namespace World

variable {κ : Type}

/-- A hart at boot and a kernel. -/
def boot (kernel : κ) : World κ := ⟨Gate.around Hart.boot, kernel⟩

/-- Puts the hart into a mode, as a scheduler would. -/
def atLevel (level : Bool) (w : World κ) : World κ :=
  { w with gate := { w.gate with context := { w.gate.context with privileged := level } } }

/-- Environment calls taken so far. -/
def ecalls (w : World κ) : Nat := w.gate.context.ecalls

def isPrivileged (w : World κ) : Bool := w.gate.context.privileged

variable [CallServer κ]

/-- Makes a call at the level of the caller. -/
def direct (call : Call) : Attempt (World κ) Reply := fun w =>
  let (reply, kernel) := CallServer.run w.isPrivileged call w.kernel
  (reply, { w with kernel })

/-- Has the kernel serve a call inside a privileged region. -/
def raised (call : Call) : Attempt (World κ) Reply := fun w =>
  let ((reply, kernel), gate) := w.gate.withPrivilege fun gate =>
    (CallServer.run gate.isPrivileged call w.kernel, gate)
  (reply, ⟨gate, kernel⟩)

/-- Makes a call through the trampoline. -/
def gated (call : Call) : Attempt (World κ) Reply := fun w =>
  match raised call.underlying w with
  | (.ok reply, w) => (.ok (call.answer reply), w)
  | (.error f, w) => (.error f, w)

/-- Makes a call on a route. -/
def call : Route → Call → Attempt (World κ) Reply
  | .direct, c => direct c
  | .gated, c => gated c

/-- Makes calls one after another; a fault ends its own call only. -/
def calls (route : Route) : List Call → World κ → List (Except Fault Reply) × World κ
  | [], w => ([], w)
  | c :: cs, w =>
    let (reply, w) := call route c w
    let (replies, w) := calls route cs w
    (reply :: replies, w)

end World

end Sallyport
