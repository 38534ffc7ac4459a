/-
The four services of the trap handler in closed form. Asked for by a trap, a service finds in the status
register what the trap has saved there, so nothing that was in it before gets through.
-/
import Sallyport.Proofs.Gate.Level

namespace Sallyport

/-! ## What a service does -/

namespace Cause

/-- The word a service gives on a hart with an identifier. Position 0 gives none. -/
def word? : Cause → UInt32 → Option UInt32
  | .default, _ => none
  | .procId, mhartid => some (mhartid &&& 15)
  | .clusterId, mhartid => some (mhartid >>> 5)
  | .raisePriv, _ => some Mstatus.raised.bits
  | .resetPriv, _ => some Mstatus.user.bits

/-- The level a service asks to return at. -/
def level? : Cause → Option Bool
  | .raisePriv => some true
  | .resetPriv => some false
  | _ => none

/-- The status pattern a service writes. -/
def pattern? (c : Cause) : Option UInt32 := c.level?.map fun level => (Hart.patternFor level).bits

theorem word?_isSome {c : Cause} (h : c ≠ .default) (mhartid : UInt32) : ∃ w, c.word? mhartid = some w := by
  cases c with
  | default => exact absurd rfl h
  | _ => exact ⟨_, rfl⟩

end Cause

namespace Hart

/-- Puts bits into the status register. -/
def withStatus (bits : UInt32) (h : Hart) : Hart := { h with mstatus := bits }

/-- What a trap taken at a level saves in the status register. -/
def saved (level : Bool) : UInt32 := if level then Mstatus.mppMachine.bits else Mstatus.empty.bits

/-! ## Services asked for by a call -/

theorem service_eq {c : Cause} {w : UInt32} {h : Hart} (hw : c.word? h.mhartid = some w) :
    h.service c = (.ok w, h.withStatus (c.pattern?.getD h.mstatus)) := by
  cases c with
  | default => cases hw
  | _ => cases hw; rfl

theorem dispatch_eq {code : UInt32} {c : Cause} {w : UInt32} {h : Hart} (hc : Cause.ofWord? code = some c)
    (hw : c.word? h.mhartid = some w) (arguments : Arguments) :
    h.dispatch code arguments = (.ok w, (h.record (.dispatch c)).withStatus (c.pattern?.getD h.mstatus)) := by
  rw [dispatch, hc]
  exact service_eq (h := h.record (.dispatch c)) hw

/-! ## Services asked for by a trap -/

theorem leaveTrap_of_saved (level : Bool) {h : Hart} (hm : h.mstatus = saved level) :
    h.leaveTrap = { h with privileged := level } := by
  unfold leaveTrap
  rw [hm]
  cases level <;> rfl

/-- A trap for a service returns at the level it asks for, or else at the level it was taken at. -/
theorem ecall_eq {c : Cause} {w : UInt32} {h : Hart} (hw : c.word? h.mhartid = some w) (arguments : Arguments) :
    h.ecall c arguments = (.ok w, { h with
      privileged := c.level?.getD h.privileged
      mstatus := c.pattern?.getD (saved h.privileged)
      ecalls := h.ecalls + 1
      trace := (h.record (.dispatch c)).trace }) := by
  have hdispatch : h.enterTrap.dispatch c.toWord arguments = (.ok w,
      (h.enterTrap.record (.dispatch c)).withStatus (c.pattern?.getD (saved h.privileged))) :=
    dispatch_eq (h := h.enterTrap) (Cause.ofWord?_toWord c) hw arguments
  rw [ecall, hdispatch]
  cases hl : c.level? with
  | none =>
    simp only [Cause.pattern?, hl, Option.map_none, Option.getD_none]
    rw [leaveTrap_of_saved h.privileged rfl]
    rfl
  | some level =>
    simp only [Cause.pattern?, hl, Option.map_some, Option.getD_some]
    rw [leaveTrap_of_mstatus level rfl]
    rfl

/-- Right after a trap, machine level means that both previous-privilege bits are set. -/
theorem mpp_pattern (c : Cause) (level : Bool) :
    c.level?.getD level = true ↔
      c.pattern?.getD (saved level) &&& Mstatus.mppMachine.bits = Mstatus.mppMachine.bits := by
  cases c <;> cases level <;> decide

/-! ## The status register is not looked at -/

theorem service_withStatus (c : Cause) (bits : UInt32) (h : Hart) :
    (h.withStatus bits).service c = ((h.service c).1, (h.service c).2.withStatus (c.pattern?.getD bits)) := by
  cases c <;> rfl

theorem dispatch_withStatus {code : UInt32} {c : Cause} (hc : Cause.ofWord? code = some c) (arguments : Arguments)
    (bits : UInt32) (h : Hart) : (h.withStatus bits).dispatch code arguments =
      ((h.dispatch code arguments).1, (h.dispatch code arguments).2.withStatus (c.pattern?.getD bits)) := by
  unfold dispatch
  rw [hc]
  exact service_withStatus c bits (h.record (.dispatch c))

end Hart

end Sallyport
