/-
Only a trap changes the level of the hart, and what is in the status register never does. The induction is
over the run, from its end: what one step does (`Does`) depends on the service it asks for and on whether
it is a trap.
-/
import Sallyport.Machine
import Sallyport.Proofs.Hart.Service
import Mathlib.Data.List.Induction

namespace Sallyport.Machine

/-! ## Steps -/

namespace Step

/-- The service a step asks for, by a trap or by a call. -/
def cause? : Step → Option Cause
  | .ecall cause _ => some cause
  | .dispatch code _ => Cause.ofWord? code
  | .service cause => some cause
  | .trapEntry code _ _ _ _ => Cause.ofWord? code
  | .vectorEntry position => Cause.vector[position]?
  | .procId => some .procId
  | .clusterId => some .clusterId
  | .raisePriv => some .raisePriv
  | .resetPriv => some .resetPriv
  | _ => none

/-- Whether a step asks for its service by a trap. -/
def isTrap : Step → Bool
  | .ecall _ _ => true
  | .procId => true
  | .clusterId => true
  | .raisePriv => true
  | .resetPriv => true
  | _ => false

/-- The level a step asks for by a trap. -/
def level? (s : Step) : Option Bool := if s.isTrap then s.cause?.bind Cause.level? else none

/-- The hart identifier a step sets. -/
def mhartid? : Step → Option UInt32
  | .setMhartid value => some value
  | _ => none

/-- Whether a step sets a register or asks, in one way or another, for one of the four services. -/
def isOrdinary : Step → Bool
  | .setMhartid _ => true
  | .setMepc _ => true
  | .writeMstatus _ => true
  | s => s.cause?.any (· ≠ .default)

end Step

/-- What the last of some steps that set a value has set it to. -/
def latest {α : Type} (sets : Step → Option α) (start : α) (steps : List Step) : α :=
  (steps.filterMap sets).getLast?.getD start

theorem latest_concat {α : Type} (sets : Step → Option α) (start : α) (steps : List Step) (s : Step) :
    latest sets start (steps ++ [s]) = (sets s).getD (latest sets start steps) := by
  unfold latest
  rw [List.filterMap_append]
  cases hs : sets s with
  | none => simp [hs]
  | some a => simp [hs]

theorem step_of_cause {s : Step} {c : Cause} (hc : s.cause? = some c) :
    s.mhartid? = none ∧
      ((s.isTrap = true ∧ ∃ arguments, step s = word (onHart (Hart.ecall c arguments))) ∨
        (s.isTrap = false ∧ step s = word (onHart (Hart.service c))) ∨
        (s.isTrap = false ∧ ∃ code arguments, Cause.ofWord? code = some c ∧
          step s = word (onHart (Hart.dispatch code arguments)))) := by
  cases s with
  | ecall cause arguments =>
    obtain rfl : cause = c := Option.some.inj hc
    exact ⟨rfl, Or.inl ⟨rfl, arguments, rfl⟩⟩
  | procId | clusterId | raisePriv | resetPriv =>
    cases hc
    exact ⟨rfl, Or.inl ⟨rfl, Hart.noArguments, rfl⟩⟩
  | service cause =>
    obtain rfl : cause = c := Option.some.inj hc
    exact ⟨rfl, Or.inr (Or.inl ⟨rfl, rfl⟩)⟩
  | vectorEntry position =>
    have hentry : Hart.serviceAt? position = some (Hart.service c) := by
      rw [Hart.serviceAt?, show Cause.vector[position]? = some c from hc]
      rfl
    refine ⟨rfl, Or.inr (Or.inl ⟨rfl, ?_⟩)⟩
    funext m
    rw [step, hentry]
  | dispatch code arguments => exact ⟨rfl, Or.inr (Or.inr ⟨rfl, code, arguments, hc, rfl⟩)⟩
  | trapEntry code a0 a1 a2 a3 => exact ⟨rfl, Or.inr (Or.inr ⟨rfl, code, _, hc, rfl⟩)⟩
  | _ => cases hc

/-! ## One step -/

/-- What a step does that asks for a service or none, by a trap or not. -/
structure Does (cause? : Option Cause) (trap : Bool) (mhartid? : Option UInt32) (m : Machine)
    (out : Except Fault Seen × Machine) : Prop where
  succeeds : ∃ seen, out.1 = .ok seen
  word_eq : ∀ c w, cause? = some c → c.word? m.hart.mhartid = some w → out.1 = .ok (.word w)
  level_eq : out.2.hart.privileged = (if trap then cause?.bind Cause.level? else none).getD m.hart.privileged
  mhartid_eq : out.2.hart.mhartid = mhartid?.getD m.hart.mhartid
  ecalls_eq : out.2.hart.ecalls = m.hart.ecalls + if trap then 1 else 0
  mpp_iff : trap = true → (out.2.hart.privileged = true ↔
    out.2.hart.mstatus &&& Mstatus.mppMachine.bits = Mstatus.mppMachine.bits)

variable {c : Cause} {w : UInt32} {m : Machine}

theorem Does.of_trap (hw : c.word? m.hart.mhartid = some w) (arguments : Hart.Arguments) :
    Does (some c) true none m (word (onHart (Hart.ecall c arguments)) m) := by
  have hout : word (onHart (Hart.ecall c arguments)) m = (.ok (.word w), m.setHart (m.hart.ecall c arguments).2) := by
    rw [word, onHart, Hart.ecall_eq hw]
  rw [hout]
  refine ⟨⟨_, rfl⟩, fun c' w' hc' hw' => ?_, ?_, ?_, ?_, fun _ => ?_⟩
  · obtain rfl := Option.some.inj hc'
    rw [Option.some.inj (hw.symm.trans hw')]
  all_goals rw [Hart.ecall_eq hw]
  · rfl
  · rfl
  · rfl
  · exact Hart.mpp_pattern c m.hart.privileged

theorem Does.of_call {work : Attempt Hart UInt32} {h : Hart} {bits : UInt32} (hw : c.word? m.hart.mhartid = some w)
    (hwork : work m.hart = (.ok w, h.withStatus bits)) (hlevel : h.privileged = m.hart.privileged)
    (hmhartid : h.mhartid = m.hart.mhartid) (hecalls : h.ecalls = m.hart.ecalls) :
    Does (some c) false none m (word (onHart work) m) := by
  have hout : word (onHart work) m = (.ok (.word w), m.setHart (h.withStatus bits)) := by
    rw [word, onHart, hwork]
  rw [hout]
  refine ⟨⟨_, rfl⟩, fun c' w' hc' hw' => ?_, hlevel, hmhartid, hecalls, fun ht => nomatch ht⟩
  obtain rfl := Option.some.inj hc'
  rw [Option.some.inj (hw.symm.trans hw')]

theorem isOrdinary_cases {s : Step} (h : s.isOrdinary = true) :
    (∃ value, s = .setMhartid value) ∨ (∃ value, s = .setMepc value) ∨ (∃ bits, s = .writeMstatus bits) ∨
      ∃ c, s.cause? = some c ∧ c ≠ .default := by
  unfold Step.isOrdinary at h
  split at h
  · exact Or.inl ⟨_, rfl⟩
  · exact Or.inr (Or.inl ⟨_, rfl⟩)
  · exact Or.inr (Or.inr (Or.inl ⟨_, rfl⟩))
  · obtain ⟨c, hc, hne⟩ := (Option.any_eq_true ..).1 h
    exact Or.inr (Or.inr (Or.inr ⟨c, hc, of_decide_eq_true hne⟩))

theorem does_of_isOrdinary {s : Step} (h : s.isOrdinary = true) (m : Machine) :
    Does s.cause? s.isTrap s.mhartid? m (step s m) := by
  obtain ⟨value, rfl⟩ | ⟨value, rfl⟩ | ⟨bits, rfl⟩ | ⟨c, hc, hne⟩ := isOrdinary_cases h
  · exact ⟨⟨_, rfl⟩, nofun, rfl, rfl, rfl, nofun⟩
  · exact ⟨⟨_, rfl⟩, nofun, rfl, rfl, rfl, nofun⟩
  · exact ⟨⟨_, rfl⟩, nofun, rfl, rfl, rfl, nofun⟩
  · obtain ⟨w, hw⟩ := Cause.word?_isSome hne m.hart.mhartid
    obtain ⟨hm, ⟨ht, arguments, hs⟩ | ⟨ht, hs⟩ | ⟨ht, code, arguments, hcode, hs⟩⟩ := step_of_cause hc
    · rw [hc, hm, ht, hs]
      exact Does.of_trap hw arguments
    · rw [hc, hm, ht, hs]
      exact Does.of_call hw (Hart.service_eq hw) rfl rfl rfl
    · rw [hc, hm, ht, hs]
      exact Does.of_call hw (Hart.dispatch_eq hcode hw arguments) rfl rfl rfl

/-! ## Runs -/

theorem run_concat (steps : List Step) (s : Step) (m : Machine) :
    run (steps ++ [s]) m = ((run steps m).1 ++ [(step s (run steps m).2).1], (step s (run steps m).2).2) := by
  induction steps generalizing m with
  | nil => rfl
  | cons t steps ih =>
    show ((step t m).1 :: (run (steps ++ [s]) (step t m).2).1, (run (steps ++ [s]) (step t m).2).2) = _
    rw [ih]
    rfl

/-- A machine after ordinary steps: level and identifier as they were set last, and the traps counted. -/
structure Reached (start : Machine) (steps : List Step) (m : Machine) : Prop where
  level_eq : m.hart.privileged = latest Step.level? start.hart.privileged steps
  mhartid_eq : m.hart.mhartid = latest Step.mhartid? start.hart.mhartid steps
  ecalls_eq : m.hart.ecalls = start.hart.ecalls + steps.countP Step.isTrap

theorem Reached.step {start m : Machine} {steps : List Step} (h : Reached start steps m) {s : Step}
    (hs : s.isOrdinary = true) : Reached start (steps ++ [s]) (step s m).2 := by
  have does := does_of_isOrdinary hs m
  refine ⟨?_, ?_, ?_⟩
  · rw [latest_concat, ← h.level_eq]
    exact does.level_eq
  · rw [latest_concat, ← h.mhartid_eq]
    exact does.mhartid_eq
  · rw [does.ecalls_eq, h.ecalls_eq, List.countP_append, List.countP_singleton, Nat.add_assoc]

theorem reached_run (start : Machine) (steps : List Step) (h : ∀ s ∈ steps, s.isOrdinary = true) :
    Reached start steps (run steps start).2 := by
  induction steps using List.reverseRecOn with
  | nil => exact ⟨rfl, rfl, rfl⟩
  | append_singleton steps s ih =>
    rw [run_concat]
    exact (ih fun t ht => h t (List.mem_append_left _ ht)).step (h s (by simp))

/-! ## Two machines that differ in the status register -/

/-- Puts bits into the status register. -/
def withStatus (bits : UInt32) (m : Machine) : Machine := m.setHart (m.hart.withStatus bits)

/-- A trap overwrites the status register before anything looks at it. -/
theorem step_withStatus_of_isTrap {s : Step} {c : Cause} (hc : s.cause? = some c) (ht : s.isTrap = true)
    (bits : UInt32) (m : Machine) : step s (m.withStatus bits) = step s m := by
  obtain ⟨-, ⟨-, arguments, hs⟩ | ⟨hf, -⟩ | ⟨hf, -⟩⟩ := step_of_cause hc
  · -- Entering the trap saves the level in the place of the bits.
    rw [hs]
    rfl
  · cases ht.symm.trans hf
  · cases ht.symm.trans hf

theorem word_withStatus {work : Attempt Hart UInt32} {m : Machine} {bits bits' : UInt32}
    (h : work (m.hart.withStatus bits) = ((work m.hart).1, (work m.hart).2.withStatus bits')) :
    word (onHart work) (m.withStatus bits) = ((word (onHart work) m).1, (word (onHart work) m).2.withStatus bits') := by
  unfold word onHart
  rw [show (m.withStatus bits).hart = m.hart.withStatus bits from rfl, h]
  obtain ⟨result, h'⟩ := work m.hart
  cases result <;> rfl

theorem step_withStatus {s : Step} (h : s.isOrdinary = true) (bits : UInt32) (m : Machine) :
    ∃ bits', step s (m.withStatus bits) = ((step s m).1, (step s m).2.withStatus bits') := by
  obtain ⟨value, rfl⟩ | ⟨value, rfl⟩ | ⟨value, rfl⟩ | ⟨c, hc, -⟩ := isOrdinary_cases h
  · exact ⟨bits, rfl⟩
  · exact ⟨bits, rfl⟩
  · exact ⟨value, rfl⟩
  · obtain ⟨-, ⟨ht, -⟩ | ⟨-, hs⟩ | ⟨-, code, arguments, hcode, hs⟩⟩ := step_of_cause hc
    · exact ⟨(step s m).2.hart.mstatus, step_withStatus_of_isTrap hc ht bits m⟩
    · rw [hs]
      exact ⟨_, word_withStatus (Hart.service_withStatus c bits m.hart)⟩
    · rw [hs]
      exact ⟨_, word_withStatus (Hart.dispatch_withStatus hcode arguments bits m.hart)⟩

/-- Both runs show the same, and end as the same machine once there has been a trap. -/
theorem run_withStatus (steps : List Step) (h : ∀ s ∈ steps, s.isOrdinary = true) (bits : UInt32) (m : Machine) :
    ∃ bits', run steps (m.withStatus bits) = ((run steps m).1, (run steps m).2.withStatus bits') ∧
      (steps.any Step.isTrap = true → run steps (m.withStatus bits) = run steps m) := by
  induction steps using List.reverseRecOn with
  | nil => exact ⟨bits, rfl, nofun⟩
  | append_singleton steps s ih =>
    obtain ⟨between, hrun, hsame⟩ := ih fun t ht => h t (List.mem_append_left _ ht)
    have hs : s.isOrdinary = true := h s (by simp)
    rw [run_concat, run_concat]
    by_cases hany : steps.any Step.isTrap = true
    · -- The machines have met before this step.
      rw [hsame hany]
      exact ⟨_, rfl, fun _ => rfl⟩
    · rw [hrun]
      by_cases ht : s.isTrap = true
      · -- They meet in this step.
        obtain ⟨c, hc⟩ : ∃ c, s.cause? = some c := by
          obtain ⟨value, rfl⟩ | ⟨value, rfl⟩ | ⟨value, rfl⟩ | ⟨c, hc, -⟩ := isOrdinary_cases hs
          · cases ht
          · cases ht
          · cases ht
          · exact ⟨c, hc⟩
        rw [step_withStatus_of_isTrap hc ht]
        exact ⟨_, rfl, fun _ => rfl⟩
      · -- There has been no trap at all.
        obtain ⟨bits', hstep⟩ := step_withStatus hs between (run steps m).2
        rw [hstep]
        refine ⟨bits', rfl, fun htrap => ?_⟩
        rw [List.any_append, Bool.or_eq_true] at htrap
        rcases htrap with htrap | htrap
        · exact absurd htrap hany
        · exact absurd (by simpa using htrap) ht

/-! ## Only traps change the level -/

/-- Only a trap changes the level: after any ordinary steps it is the one the last trap asked for, or else
that of the start, and every trap is counted. A machine with other bits in the status register shows the same
all along, and is the same from the first trap on. -/
theorem only_traps_change_level (m : Machine) (past : List Step) (s : Step)
    (h : ∀ t ∈ past ++ [s], t.isOrdinary = true) :
    let before := (run past m).2
    let result := (step s before).1
    let after := (step s before).2
    (∃ seen, result = .ok seen) ∧
      after.hart.privileged = latest Step.level? m.hart.privileged (past ++ [s]) ∧
      (s.cause? = some .procId → result = .ok (.word (latest Step.mhartid? m.hart.mhartid past &&& 15)) ∧
        after.hart.privileged = before.hart.privileged) ∧
      (s.cause? = some .clusterId → result = .ok (.word (latest Step.mhartid? m.hart.mhartid past >>> 5)) ∧
        after.hart.privileged = before.hart.privileged) ∧
      (s.isTrap = true → (after.hart.privileged = true ↔
        after.hart.mstatus &&& Mstatus.mppMachine.bits = Mstatus.mppMachine.bits)) ∧
      after.hart.ecalls = m.hart.ecalls + (past ++ [s]).countP Step.isTrap ∧
      ∀ stale : UInt32,
        let twin := run (past ++ [s]) (m.withStatus stale)
        twin.1 = (run (past ++ [s]) m).1 ∧ twin.2.hart.privileged = after.hart.privileged ∧
          twin.2.hart.ecalls = after.hart.ecalls ∧ ((past ++ [s]).any Step.isTrap = true → twin.2 = after) := by
  intro before result after
  have hpast : Reached m past before := reached_run m past fun t ht => h t (List.mem_append_left _ ht)
  have hs : s.isOrdinary = true := h s (by simp)
  have does : Does s.cause? s.isTrap s.mhartid? before (result, after) := does_of_isOrdinary hs before
  have reached : Reached m (past ++ [s]) after := hpast.step hs
  -- The services that tell of the core ask for no level.
  have keeps : ∀ c, s.cause? = some c → c.level? = none → after.hart.privileged = before.hart.privileged := by
    intro c hc hl
    have hlevel : after.hart.privileged = s.level?.getD before.hart.privileged := does.level_eq
    rw [hlevel, Step.level?, hc, Option.bind_some, hl, ite_self]
    rfl
  refine ⟨does.succeeds, reached.level_eq, fun hc => ⟨?_, keeps _ hc rfl⟩, fun hc => ⟨?_, keeps _ hc rfl⟩,
    does.mpp_iff, reached.ecalls_eq, fun stale => ?_⟩
  · exact does.word_eq .procId _ hc (by rw [hpast.mhartid_eq]; rfl)
  · exact does.word_eq .clusterId _ hc (by rw [hpast.mhartid_eq]; rfl)
  · have hafter : (run (past ++ [s]) m).2 = after := by rw [run_concat]
    obtain ⟨bits, htwin, hsame⟩ := run_withStatus (past ++ [s]) h stale m
    intro twin
    have htwin : twin = ((run (past ++ [s]) m).1, after.withStatus bits) := hafter ▸ htwin
    refine ⟨by rw [htwin], by rw [htwin]; rfl, by rw [htwin]; rfl, fun hany => ?_⟩
    rw [← hafter]
    exact congrArg Prod.snd (hsame hany)

/-- A user writes the pattern of machine mode, raises without a trap, and asks which core this is. -/
def forgery : List Step :=
  [.setMhartid 0x43, .writeMstatus 0x1880, .service .raisePriv, .dispatch 3 Hart.noArguments, .vectorEntry 3]

theorem level_kept_under_forgery :
    (∀ t ∈ forgery ++ [.procId], t.isOrdinary = true) ∧
      (step .procId (run forgery boot).2).1 = .ok (.word 3) ∧
      (step .procId (run forgery boot).2).2.hart.privileged = false ∧
      ¬ (step .procId (run forgery boot).2).2.hart.mstatus &&& 0x1800 = 0x1800 ∧
      (run (forgery ++ [.procId]) (boot.withStatus 0xffffffff)).2 = (step .procId (run forgery boot).2).2 := by
  have hordinary : ∀ t ∈ forgery ++ [.procId], t.isOrdinary = true := by decide
  obtain ⟨-, hlevel, hcore, -, hmpp, -, htwin⟩ := only_traps_change_level boot forgery .procId hordinary
  have huser : (step .procId (run forgery boot).2).2.hart.privileged = false := hlevel.trans (by decide)
  refine ⟨hordinary, (hcore rfl).1.trans (by decide), huser, fun hbits => ?_, (htwin 0xffffffff).2.2.2 (by decide)⟩
  rw [(hmpp rfl).2 hbits] at huser
  cases huser

end Sallyport.Machine
