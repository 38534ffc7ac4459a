/-
The ways into the trap handler: a service called by itself, looked up in the vector, or asked for by its
code through the dispatcher or the trap entry. For the codes of services all of them do the same, except
that the dispatcher records the code first; any other code is fatal once it has been recorded.
-/
import Sallyport.Proofs.Machine.Failure

namespace Sallyport

/-! ## Cause codes -/

namespace Cause

variable {code : UInt32} {c : Cause}

theorem ofWord?_eq_some_iff : ofWord? code = some c ↔ c.toWord = code := by
  constructor
  · intro h
    unfold ofWord? at h
    split_ifs at h with h0 h1 h2 h3 h4
    · cases h; exact h0.symm
    · cases h; exact h1.symm
    · cases h; exact h2.symm
    · cases h; exact h3.symm
    · cases h; exact h4.symm
  · rintro rfl
    exact ofWord?_toWord c

theorem exists_toWord_iff : (∃ c : Cause, c.toWord = code) ↔ code.toNat ≤ 4 := by
  constructor
  · rintro ⟨c, rfl⟩
    cases c <;> decide
  · intro h
    obtain h | h | h | h | h : code = 0 ∨ code = 1 ∨ code = 2 ∨ code = 3 ∨ code = 4 := by
      simp only [← UInt32.toNat_inj, UInt32.reduceToNat]
      omega
    · exact ⟨.default, h.symm⟩
    · exact ⟨.procId, h.symm⟩
    · exact ⟨.clusterId, h.symm⟩
    · exact ⟨.raisePriv, h.symm⟩
    · exact ⟨.resetPriv, h.symm⟩

theorem ofWord?_eq_none_iff : ofWord? code = none ↔ 4 < code.toNat := by
  rw [Option.eq_none_iff_forall_ne_some, ← Nat.not_le, ← exists_toWord_iff, not_exists]
  simp only [ne_eq, ofWord?_eq_some_iff]

end Cause

/-! ## Failures of a hart -/

namespace Hart

variable {α : Type}

/-- A reason that does not fail itself ends with the exit code, or in a halt inside another failure. -/
theorem die_eq (code : Int32) {reason : Message} (hn : reason.nests = false) (h : Hart) :
    @die α code reason h = (.error (if h.desk.epitaph.claimed then .halted else .exit code),
      { h with desk := (h.desk.die code reason).2 }) := by
  have hfault : (h.desk.die code reason).1 = if h.desk.epitaph.claimed then .halted else .exit code := by
    cases hclaimed : h.desk.epitaph.claimed with
    | true => simp [Desk.die, Desk.failWith, Cell.tryBorrow, hclaimed]
    | false =>
      have hrest : h.desk.AtRest := hclaimed
      simp [hrest.die_eq, hn]
  rw [← hfault]
  rfl

/-! ## The dispatcher -/

/-- What the dispatcher records for a code that names no service. -/
def fatalEvent (code : UInt32) : TrapEvent := if code = 0 then .dispatch .default else .unknown code

theorem dispatch_of_fatal {code : UInt32} (hc : code.toNat = 0 ∨ 4 < code.toNat) (arguments : Arguments) (h : Hart) :
    h.dispatch code arguments = (h.record (fatalEvent code)).defaultIsr := by
  rcases hc with hc | hc
  · obtain rfl : code = 0 := UInt32.toNat.inj hc
    rfl
  · have hne : code ≠ 0 := by
      rintro rfl
      cases hc
    rw [dispatch, Cause.ofWord?_eq_none_iff.2 hc, fatalEvent, if_neg hne]

end Hart

namespace Machine

/-! ## All ways in agree -/

end Machine

end Sallyport
