/-
The whole machine around one hart: the hart behind its gate and the preemption quantum of the tick
handler. Steps drive it one at a time; a fault ends a step and leaves the machine as it was then.
-/
import Sallyport.Gate.Context
import Sallyport.Hart.Export
import Sallyport.Quantum

namespace Sallyport

structure Machine where
  gate : Gate Hart
  quantum : Cell QuantumGate

namespace Machine

def boot : Machine := ⟨Gate.around Hart.boot, Cell.new QuantumGate.default⟩

def hart (m : Machine) : Hart := m.gate.context

def setHart (m : Machine) (h : Hart) : Machine := { m with gate := { m.gate with context := h } }

/-- Lets the hart do something. -/
def onHart {α : Type} (work : Attempt Hart α) : Attempt Machine α := fun m =>
  let (result, h) := work m.hart
  (result, m.setHart h)

/-- The verdict on a switch of context at a tick, given what the kernel wants. -/
def checkQuantum (tick schedule : UInt32) : Attempt Machine UInt32 := fun m =>
  let (result, quantum) := Cell.use (fun g => g.check tick schedule) m.quantum
  (result, { m with quantum })

/-- What has been printed since this was asked last. -/
def takeConsole (m : Machine) : String × Machine :=
  (m.hart.desk.console, m.setHart { m.hart with desk := { m.hart.desk with console := "" } })

/-! ## Steps -/

inductive Step where
  /-- Puts the hart into a mode, as a scheduler would. -/
  | setPrivileged (level : Bool)
  | setMhartid (value : UInt32)
  | setMepc (value : UInt32)
  | writeMstatus (bits : UInt32)
  | readRegisters
  | ecall (cause : Cause) (arguments : Hart.Arguments)
  /-- The dispatcher, called without a trap. -/
  | dispatch (code : UInt32) (arguments : Hart.Arguments)
  /-- A service, called without a trap. -/
  | service (cause : Cause)
  | trapEntry (code a0 a1 a2 a3 : UInt32)
  | vectorEntry (position : Nat)
  | procId
  | clusterId
  | raisePriv
  | resetPriv
  | raisePrivilege
  | resetPrivilege (was : Bool)
  | defaultIsr
  | illegalInstruction (mepc : UInt32)
  | halt
  | exit (code : Int32)
  | die (code : Int32) (reason : Message)
  | checkQuantum (tick schedule : UInt32)
  deriving DecidableEq, Repr

/-- What a step gives back. -/
inductive Seen where
  | nothing
  | word (value : UInt32)
  | truth (value : Bool)
  | registers (mhartid mepc : UInt32)
  deriving DecidableEq, Repr

/-- Shows the word a computation gives. -/
def word (work : Attempt Machine UInt32) : Attempt Machine Seen := fun m =>
  match work m with
  | (.ok value, m) => (.ok (.word value), m)
  | (.error f, m) => (.error f, m)

def step : Step → Attempt Machine Seen
  | .setPrivileged level, m => (.ok .nothing, m.setHart { m.hart with privileged := level })
  | .setMhartid value, m => (.ok .nothing, m.setHart { m.hart with mhartid := value })
  | .setMepc value, m => (.ok .nothing, m.setHart { m.hart with mepc := value })
  | .writeMstatus bits, m => (.ok .nothing, m.setHart { m.hart with mstatus := bits })
  | .readRegisters, m => (.ok (.registers m.hart.mhartid m.hart.mepc), m)
  | .ecall cause arguments, m => word (onHart (Hart.ecall cause arguments)) m
  | .dispatch code arguments, m => word (onHart (Hart.dispatch code arguments)) m
  | .service cause, m => word (onHart (Hart.service cause)) m
  | .trapEntry code a0 a1 a2 a3, m => word (onHart (Hart.trapEntry code a0 a1 a2 a3)) m
  | .vectorEntry position, m =>
    match Hart.serviceAt? position with
    | some service => word (onHart service) m
    | none => (.ok .nothing, m)
  | .procId, m => word (onHart Hart.procId) m
  | .clusterId, m => word (onHart Hart.clusterId) m
  | .raisePriv, m => word (onHart Hart.raisePriv) m
  | .resetPriv, m => word (onHart Hart.resetPriv) m
  | .raisePrivilege, m =>
    let (was, gate) := m.gate.raise
    (.ok (.truth was), { m with gate })
  | .resetPrivilege was, m => (.ok .nothing, { m with gate := m.gate.reset was })
  | .defaultIsr, m => onHart Hart.defaultIsr m
  | .illegalInstruction mepc, m => onHart (Hart.illegalInstruction mepc) m
  | .halt, m => (.error .halted, m)
  | .exit code, m => (.error (.exit code), m)
  | .die code reason, m => onHart (Hart.die code reason) m
  | .checkQuantum tick schedule, m => word (checkQuantum tick schedule) m

/-- The results of steps one after another, and the machine they leave. -/
def run : List Step → Machine → List (Except Fault Seen) × Machine
  | [], m => ([], m)
  | s :: steps, m =>
    let (result, m) := step s m
    let (rest, m) := run steps m
    (result :: rest, m)

end Machine

end Sallyport
