/-
The fatal path can be entered again and again: between the steps of a run nobody holds the epitaph, and
every failure of a run ends by the same rule (`FailsBy`).
-/
import Sallyport.Proofs.Epitaph.Record
import Sallyport.Proofs.Machine.Level

namespace Sallyport

/-! ## The desk of a hart -/

/-- A desk is as it was, or has seen one failure. -/
def Desk.Passes (d d' : Desk) : Prop := d' = d ∨ ∃ code reason, d' = (d.die code reason).2

theorem Desk.AtRest.passes {d d' : Desk} (h : d.AtRest) (hp : d.Passes d') : d'.AtRest := by
  rcases hp with rfl | ⟨code, reason, rfl⟩
  · exact h
  · exact (h.die code reason).1

namespace Hart

variable {α : Type}

theorem passes_die (code : Int32) (reason : Message) (h : Hart) : h.desk.Passes (@die α code reason h).2.desk :=
  Or.inr ⟨code, reason, rfl⟩

theorem passes_defaultIsr (h : Hart) : h.desk.Passes (@defaultIsr α h).2.desk := passes_die ..

theorem passes_illegalInstruction (mepc : UInt32) (h : Hart) :
    h.desk.Passes (@illegalInstruction α mepc h).2.desk := passes_die ..

theorem passes_service (c : Cause) (h : Hart) : h.desk.Passes (h.service c).2.desk := by
  cases c with
  | default => exact passes_defaultIsr h
  | _ => exact Or.inl rfl

theorem passes_dispatch (code : UInt32) (arguments : Arguments) (h : Hart) :
    h.desk.Passes (h.dispatch code arguments).2.desk := by
  unfold dispatch
  cases Cause.ofWord? code with
  | none => exact passes_defaultIsr (h.record (.unknown code))
  | some c => exact passes_service c (h.record (.dispatch c))

theorem passes_ecall (c : Cause) (arguments : Arguments) (h : Hart) : h.desk.Passes (h.ecall c arguments).2.desk := by
  have hdispatch : h.desk.Passes (h.enterTrap.dispatch c.toWord arguments).2.desk := passes_dispatch ..
  unfold ecall
  generalize h.enterTrap.dispatch c.toWord arguments = out at hdispatch ⊢
  obtain ⟨result, h'⟩ := out
  cases result <;> exact hdispatch

theorem desk_setPrivileged (level : Bool) (h : Hart) : (PrivilegeContext.setPrivileged level h).desk = h.desk := by
  rw [setPrivileged_eq, ecall_causeFor]

end Hart

namespace Machine

/-! ## The desk of a machine -/

theorem hart_word_onHart (work : Attempt Hart UInt32) (m : Machine) :
    (word (onHart work) m).2.hart = (work m.hart).2 := by
  unfold word onHart
  obtain ⟨result, h⟩ := work m.hart
  cases result <;> rfl

theorem hart_word_checkQuantum (tick schedule : UInt32) (m : Machine) :
    (word (checkQuantum tick schedule) m).2.hart = m.hart := by
  unfold word checkQuantum
  obtain ⟨result, quantum⟩ := Cell.use (fun g => QuantumGate.check g tick schedule) m.quantum
  cases result <;> rfl

theorem passes_step (s : Step) (m : Machine) : m.hart.desk.Passes (step s m).2.hart.desk := by
  -- The desk is within reach of traps, services and failures; all other steps are frame.
  cases s with
  | ecall cause arguments =>
    rw [step, hart_word_onHart]
    exact Hart.passes_ecall ..
  | dispatch code arguments =>
    rw [step, hart_word_onHart]
    exact Hart.passes_dispatch ..
  | service cause =>
    rw [step, hart_word_onHart]
    exact Hart.passes_service ..
  | trapEntry code a0 a1 a2 a3 =>
    rw [step, hart_word_onHart]
    exact Hart.passes_dispatch ..
  | vectorEntry position =>
    rw [step, Hart.serviceAt?]
    cases Cause.vector[position]? with
    | none => exact Or.inl rfl
    | some c =>
      show m.hart.desk.Passes (word (onHart (Hart.service c)) m).2.hart.desk
      rw [hart_word_onHart]
      exact Hart.passes_service ..
  | procId | clusterId | raisePriv | resetPriv =>
    rw [step, hart_word_onHart]
    exact Hart.passes_ecall ..
  | raisePrivilege =>
    have hcontext : (step .raisePrivilege m).2.hart = m.gate.raise.2.context := rfl
    rw [hcontext, Gate.context_raise]
    split
    · exact Or.inl rfl
    · exact Or.inl (Hart.desk_setPrivileged ..)
  | resetPrivilege was =>
    have hcontext : (step (.resetPrivilege was) m).2.hart = (m.gate.reset was).context := rfl
    rw [hcontext, Gate.context_reset]
    split
    · exact Or.inl rfl
    · exact Or.inl (Hart.desk_setPrivileged ..)
  | defaultIsr => exact @Hart.passes_defaultIsr Seen m.hart
  | illegalInstruction mepc => exact @Hart.passes_illegalInstruction Seen mepc m.hart
  | die code reason => exact @Hart.passes_die Seen code reason m.hart
  | checkQuantum tick schedule =>
    rw [step, hart_word_checkQuantum]
    exact Or.inl rfl
  | _ => exact Or.inl rfl

/-! ## Runs -/

/-- Whether the image has failed, with nobody holding the epitaph. -/
structure HasFailed (m : Machine) : Prop where
  atRest : m.hart.desk.AtRest
  failed : m.hart.desk.epitaph.contents.failed = true

theorem HasFailed.hasFailed {m : Machine} (h : m.HasFailed) : m.hart.desk.hasFailed = true := by
  have hrest : m.hart.desk.epitaph.claimed = false := h.atRest
  simp [Desk.hasFailed, Cell.tryBorrow, hrest, h.failed]

theorem HasFailed.step {m : Machine} (h : m.HasFailed) (s : Step) : (step s m).2.HasFailed := by
  refine ⟨h.atRest.passes (passes_step s m), ?_⟩
  rcases passes_step s m with hkept | ⟨code, reason, hdied⟩
  · rw [hkept]
    exact h.failed
  · rw [hdied]
    exact (h.atRest.die code reason).2

theorem HasFailed.run {m : Machine} (h : m.HasFailed) (steps : List Step) : (run steps m).2.HasFailed := by
  induction steps generalizing m with
  | nil => exact h
  | cons s steps ih => exact ih (h.step s)

/-! ## How a failure ends -/

/-- How a failure ends: everybody who asks is told of it, it halts if the reason fails itself and prints it
and exits otherwise, and the epitaph is left with the first bytes of what the reason wrote. -/
structure FailsBy (code : Int32) (reason : Message) (m : Machine) (out : Except Fault Seen × Machine) : Prop where
  told_eq : m.hart.desk.told reason =
    List.replicate (if reason.nests then reason.probes else reason.probes + reason.probes) true
  result_eq : out.1 = .error (if reason.nests then .halted else .exit code)
  console_eq : out.2.hart.desk.console = m.hart.desk.console ++ (if reason.nests then "" else reason.spoken ++ "\n")
  text_eq : out.2.hart.desk.epitaph.contents.text = (Bytes.ofText reason.spoken).take 128 ++
    List.replicate (128 - (Bytes.ofText reason.spoken).length) 0
  hasFailed : out.2.HasFailed

theorem failsBy_step_die {m : Machine} (h : m.hart.desk.AtRest) (code : Int32) (reason : Message) :
    FailsBy code reason m (step (.die code reason) m) := by
  have hresult : (step (.die code reason) m).1 = .error (m.hart.desk.die code reason).1 := rfl
  have hdesk : (step (.die code reason) m).2.hart.desk = (m.hart.desk.die code reason).2 := rfl
  obtain ⟨hrest, hfailed⟩ := h.die code reason
  refine ⟨h.told_eq reason, ?_, ?_, hdesk ▸ h.text_die code reason, hdesk ▸ hrest, hdesk ▸ hfailed⟩
  · rw [hresult, h.die_eq]
    cases reason.nests <;> rfl
  · rw [hdesk, h.die_eq]
    cases reason.nests with
    | true => exact String.append_empty.symm
    | false => rfl

/-- The fatal path can be entered again: from any machine on which nobody holds the epitaph a failure ends by
the rule, the image counts as failed from then on, and any later failure ends alike. -/
theorem failures_end_alike (m : Machine) (h : m.hart.desk.AtRest) (code : Int32) (reason : Message)
    (later : List Step) :
    let out := step (.die code reason) m
    let afterwards := (run later out.2).2
    FailsBy code reason m out ∧ afterwards.hart.desk.hasFailed = true ∧
      ∀ code' reason', FailsBy code' reason' afterwards (step (.die code' reason') afterwards) := by
  intro out afterwards
  have hfirst : FailsBy code reason m out := failsBy_step_die h code reason
  have hlater : afterwards.HasFailed := hfirst.hasFailed.run later
  exact ⟨hfirst, hlater.hasFailed, fun code' reason' => failsBy_step_die hlater.atRest code' reason'⟩

/-- A reason that asks whether the image has failed, and then fails itself. -/
def doubleFault : Message := .text "disk " (.probe (.fail 9 (.text "again" .done) .done))

theorem doubleFault_then_single :
    boot.hart.desk.AtRest ∧ boot.hart.desk.told doubleFault = [true] ∧
      (step (.die 7 doubleFault) boot).1 = .error .halted ∧
      (step (.die 7 doubleFault) boot).2.hart.desk.console = "" ∧
      (step (.die 7 doubleFault) boot).2.hart.desk.epitaph.contents.text =
        Bytes.ofText "disk true" ++ List.replicate 119 0 ∧
      (run [.raisePriv, .exit 3] (step (.die 7 doubleFault) boot).2).2.hart.desk.hasFailed = true ∧
      (step (.die 5 (.text "gone" .done)) (run [.raisePriv, .exit 3] (step (.die 7 doubleFault) boot).2).2).1 =
        .error (.exit 5) := by
  have hrest : boot.hart.desk.AtRest := rfl
  obtain ⟨hfirst, hfailed, hlater⟩ := failures_end_alike boot hrest 7 doubleFault [.raisePriv, .exit 3]
  have htext : doubleFault.spoken = "disk true" := by decide
  have hbytes : (Bytes.ofText "disk true").length = 9 := by rw [Bytes.ofText_eq]; rfl
  refine ⟨hrest, hfirst.told_eq, hfirst.result_eq, hfirst.console_eq, ?_, hfailed,
    (hlater 5 (.text "gone" .done)).result_eq⟩
  rw [hfirst.text_eq, htext, List.take_of_length_le (by omega), hbytes]

end Machine

end Sallyport
