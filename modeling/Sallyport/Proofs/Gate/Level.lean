/-
What the gate does to a context that keeps the level it is put at. The hart is such a context: an
environment call that asks for a level returns at that level, whatever the registers held.
-/
import Sallyport.Gate.Context

namespace Sallyport

open PrivilegeContext

/-- A context that keeps the level it is put at. -/
class LawfulPrivilegeContext (σ : Type) [PrivilegeContext σ] : Prop where
  isPrivileged_setPrivileged (level : Bool) (s : σ) : isPrivileged (setPrivileged level s) = level

/-! ## The hart -/

namespace Hart

/-- The service that asks for a level. -/
def causeFor (level : Bool) : Cause := if level then .raisePriv else .resetPriv

/-- The status pattern whose return lands at a level. -/
def patternFor (level : Bool) : Mstatus := if level then Mstatus.raised else Mstatus.user

theorem mpp_patternFor (level : Bool) :
    decide ((Mstatus.ofBitsTruncate (patternFor level).bits &&& Mstatus.mppMachine) = Mstatus.mppMachine) = level := by
  cases level <;> decide

theorem leaveTrap_of_mstatus (level : Bool) {h : Hart} (hm : h.mstatus = (patternFor level).bits) :
    h.leaveTrap = { h with privileged := level } := by
  simp only [leaveTrap, hm, mpp_patternFor]

/-- A call that asks for a level never fails, touches only the status register, and returns at that level. -/
theorem ecall_causeFor (level : Bool) (arguments : Arguments) (h : Hart) :
    h.ecall (causeFor level) arguments = (.ok (patternFor level).bits, { h with
      privileged := level
      mstatus := (patternFor level).bits
      ecalls := h.ecalls + 1
      trace := (h.record (.dispatch (causeFor level))).trace }) := by
  unfold ecall dispatch
  rw [Cause.ofWord?_toWord]
  cases level with
  | false =>
    simp only [causeFor, Bool.false_eq_true, if_false, service]
    rw [leaveTrap_of_mstatus false rfl]
    rfl
  | true =>
    simp only [causeFor, if_true, service]
    rw [leaveTrap_of_mstatus true rfl]
    rfl

theorem setPrivileged_eq (level : Bool) (h : Hart) :
    setPrivileged level h = (h.ecall (causeFor level) noArguments).2 := by
  cases level <;> rfl

theorem ecalls_setPrivileged (level : Bool) (h : Hart) : (setPrivileged level h).ecalls = h.ecalls + 1 := by
  rw [setPrivileged_eq, ecall_causeFor]

end Hart

instance : LawfulPrivilegeContext Hart where
  isPrivileged_setPrivileged level h := by
    show (setPrivileged level h).privileged = level
    rw [Hart.setPrivileged_eq, Hart.ecall_causeFor]

instance : LawfulPrivilegeContext Counting where
  isPrivileged_setPrivileged level c := by cases level <;> rfl

/-! ## Raising, resetting, regions -/

namespace Gate

variable {σ ρ : Type}

@[simp] theorem context_record (e : GateEvent) (g : Gate σ) : (g.record e).context = g.context := rfl

variable [PrivilegeContext σ]

@[simp] theorem isPrivileged_record (e : GateEvent) (g : Gate σ) : (g.record e).isPrivileged = g.isPrivileged := rfl

@[simp] theorem context_setPrivileged (level : Bool) (g : Gate σ) :
    (g.setPrivileged level).context = PrivilegeContext.setPrivileged level g.context := rfl

theorem raise_fst (g : Gate σ) : g.raise.1 = g.isPrivileged := by
  unfold raise
  cases h : g.isPrivileged <;> simp

theorem context_raise (g : Gate σ) :
    g.raise.2.context = if g.isPrivileged then g.context else PrivilegeContext.setPrivileged true g.context := by
  unfold raise
  cases h : g.isPrivileged <;> simp

theorem context_reset (was : Bool) (g : Gate σ) :
    (g.reset was).context = if was then g.context else PrivilegeContext.setPrivileged false g.context := by
  unfold reset
  cases was <;> simp

@[simp] theorem reset_true (g : Gate σ) : g.reset true = g := rfl

/-- A region is its body between a raise and the reset of the level that raise found. -/
theorem withPrivilege_eq (body : Gate σ → ρ × Gate σ) (g : Gate σ) :
    g.withPrivilege body = ((body g.raise.2).1, (body g.raise.2).2.reset g.isPrivileged) := by
  rw [← raise_fst]; rfl

variable [LawfulPrivilegeContext σ]

@[simp] theorem isPrivileged_setPrivileged (level : Bool) (g : Gate σ) :
    (g.setPrivileged level).isPrivileged = level :=
  LawfulPrivilegeContext.isPrivileged_setPrivileged level g.context

theorem isPrivileged_raise (g : Gate σ) : g.raise.2.isPrivileged = true := by
  unfold raise
  cases h : g.isPrivileged <;> simp [h]

theorem isPrivileged_reset (was : Bool) (g : Gate σ) : (g.reset was).isPrivileged = (was && g.isPrivileged) := by
  unfold reset
  cases was <;> simp

/-- Whatever a body did to the level, a region entered at user level ends there. -/
theorem isPrivileged_withPrivilege_of_user (body : Gate σ → ρ × Gate σ) {g : Gate σ}
    (h : g.isPrivileged = false) : (g.withPrivilege body).2.isPrivileged = false := by
  rw [withPrivilege_eq, h, isPrivileged_reset, Bool.false_and]

end Gate

end Sallyport
