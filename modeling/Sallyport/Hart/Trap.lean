/-
Environment calls. A trap saves the mode of the caller in the previous-privilege bits, enters
machine mode, runs the dispatcher and returns to whatever mode the bits say by then. Two services
read the hart identifier, two write a whole status pattern so that the return lands in the wanted
mode; everything else is fatal.
-/
import Sallyport.Hart.Basic
import Sallyport.Text.Hex

namespace Sallyport.Hart

/-- Exit code of a trap nobody claimed. -/
def defaultIsrExit : Int32 := -197

/-- Exit code of an illegal instruction. -/
def illegalInstructionExit : Int32 := -199

/-- The argument registers of an environment call. -/
abbrev Arguments : Type := Vector UInt32 4

def record (e : TrapEvent) (h : Hart) : Hart := { h with trace := h.trace.record e.line e }

/-- Ends the image on behalf of this hart. -/
def die {α : Type} (code : Int32) (reason : Message) : Attempt Hart α := fun h =>
  let (fault, desk) := h.desk.die code reason
  (.error fault, { h with desk })

/-- Handler of traps nobody claimed, and of position 0 of the trap vector. -/
def defaultIsr {α : Type} : Attempt Hart α := fun h =>
  h.die defaultIsrExit
    (.text "default_isr: Error : default ISR called at " (.text (Text.hex h.mepc) .done))

/-- Handler of illegal instructions; `mepc` is where the instruction is. -/
def illegalInstruction {α : Type} (mepc : UInt32) : Attempt Hart α :=
  die illegalInstructionExit
    (.text "illegal_instruction: Error : illegal instruction at " (.text (Text.hex mepc) .done))

/-- Body of a service; runs inside the trap. -/
def service : Cause → Attempt Hart UInt32
  | .default, h => h.defaultIsr
  | .procId, h => (.ok (CoreId.mk h.mhartid).procId, h)
  | .clusterId, h => (.ok (CoreId.mk h.mhartid).cluster, h)
  | .raisePriv, h => (.ok Mstatus.raised.bits, { h with mstatus := Mstatus.raised.bits })
  | .resetPriv, h => (.ok Mstatus.user.bits, { h with mstatus := Mstatus.user.bits })

/-- Finds and runs the service of a cause code. No service reads the argument registers. -/
def dispatch (code : UInt32) (_arguments : Arguments) : Attempt Hart UInt32 := fun h =>
  match Cause.ofWord? code with
  | none => (h.record (.unknown code)).defaultIsr
  | some cause => (h.record (.dispatch cause)).service cause

/-- Entry of the trap: counts the call, saves the mode of the caller and enters machine mode. -/
def enterTrap (h : Hart) : Hart :=
  { h with
    ecalls := h.ecalls + 1
    mstatus := if h.privileged then Mstatus.mppMachine.bits else Mstatus.empty.bits
    privileged := true }

/-- Return from the trap, to the mode that the previous-privilege bits name. -/
def leaveTrap (h : Hart) : Hart :=
  { h with
    privileged := (Mstatus.ofBitsTruncate h.mstatus &&& Mstatus.mppMachine) = Mstatus.mppMachine }

/-- An environment call. A fatal cause never returns from the trap. -/
def ecall (cause : Cause) (arguments : Arguments) : Attempt Hart UInt32 := fun h =>
  match h.enterTrap.dispatch cause.toWord arguments with
  | (.ok value, h) => (.ok value, h.leaveTrap)
  | (.error f, h) => (.error f, h)

/-- Argument registers of the stubs, which have no arguments. -/
def noArguments : Arguments := Vector.replicate 4 0

/-- Index of this core within its cluster. -/
def procId : Attempt Hart UInt32 := ecall .procId noArguments

/-- Index of the cluster of this core. -/
def clusterId : Attempt Hart UInt32 := ecall .clusterId noArguments

/-- Asks to come back in machine mode. -/
def raisePriv : Attempt Hart UInt32 := ecall .raisePriv noArguments

/-- Asks to come back in user mode. -/
def resetPriv : Attempt Hart UInt32 := ecall .resetPriv noArguments

end Sallyport.Hart
