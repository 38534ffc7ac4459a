/-
Hand-off between tasks of the host kernel: a task is suspended iff the last call that suspended, resumed
or deleted it was a suspension. The invariant (`isSuspended_after`) is about all tasks and all calls of a
run at once; leaving the task out means the null address, at which no task can be asked about.
-/
import Mathlib.Data.List.Induction
import Sallyport.Proofs.Host.Routes

namespace Sallyport.Host.Tasks

open World

/-! ## Calls that hand a task off -/

/-- Whether a call suspends, resumes or deletes a task by name. -/
def handsOff (t : Handle .task) : Call → Bool
  | .task (.suspend target) => target = some t
  | .task (.resume target) => target = t
  | .task (.delete target) => target = some t
  | _ => false

/-- The calls that hand a task off, among others. -/
def handOffs (t : Handle .task) (calls : List Call) : List Call := calls.filter (handsOff t)

def suspension (t : Handle .task) : Call := .task (.suspend (some t))

/-- The state in which calls leave a task that was ready. -/
def stateAfter (t : Handle .task) (calls : List Call) : TaskState :=
  if (handOffs t calls).getLast? = some (suspension t) then .suspended else .ready

variable {t : Handle .task} {c : Call}

theorem handOffs_concat_of_handsOff (h : handsOff t c = true) (calls : List Call) :
    handOffs t (calls ++ [c]) = handOffs t calls ++ [c] := by
  unfold handOffs
  rw [List.filter_append, List.filter_cons_of_pos h, List.filter_nil]

theorem handOffs_concat_of_not (h : handsOff t c = false) (calls : List Call) :
    handOffs t (calls ++ [c]) = handOffs t calls := by
  unfold handOffs
  rw [List.filter_append, List.filter_cons_of_neg (by simp [h]), List.filter_nil, List.append_nil]

/-! ## One call -/

theorem address_inj {t u : Handle .task} : t.address = u.address ↔ t = u := by
  cases t
  cases u
  simp

theorem address_eq_key_iff (t : Handle .task) (target : Option (Handle .task)) :
    t.address = key target ↔ target = some t := by
  cases target with
  | none => simpa [key] using t.address_ne_zero
  | some u => simp [key, address_inj, eq_comm]

theorem suspended_step (c : TaskCall) (s : Tasks) : (step c s).2.suspended =
    match c with
    | .suspend target => s.suspended.insert (key target) ()
    | .resume target => s.suspended.erase target.address
    | .delete target => s.suspended.erase (key target)
    | _ => s.suspended := by
  cases c with
  | createRestrictedStatic definition created =>
    simp only [step]
    split <;> rfl
  | setTag target hook =>
    simp only [step, setTag]
    split <;> rfl
  | _ => rfl

theorem isSuspended_step (t : Handle .task) (c : TaskCall) (s : Tasks) :
    (step c s).2.isSuspended t.address =
      if handsOff t (.task c) then decide (Call.task c = suspension t) else s.isSuspended t.address := by
  unfold isSuspended
  rw [suspended_step]
  cases c with
  | suspend target =>
    simp only [Table.get?_insert, address_eq_key_iff, handsOff, suspension]
    by_cases h : target = some t <;> simp [h]
  | resume target =>
    simp only [Table.get?_erase, address_inj, handsOff, suspension]
    by_cases h : target = t <;> simp [h, eq_comm (a := t)]
  | delete target =>
    simp only [Table.get?_erase, address_eq_key_iff, handsOff, suspension]
    by_cases h : target = some t <;> simp [h]
  | _ => rfl

theorem isSuspended_issue (t : Handle .task) (m : Routed) (w : World Kernel) :
    (issue m w).2.kernel.tasks.isSuspended t.address =
      if handsOff t m.call then decide (m.call = suspension t) else w.kernel.tasks.isSuspended t.address := by
  rw [kernel_issue]
  cases hc : m.call with
  | task c => exact isSuspended_step t c w.kernel.tasks
  | _ => rfl

theorem result_getState (t : Handle .task) (route : Route) (level : Bool) (w : World Kernel) :
    (issue ⟨route, level, .task (.getState t)⟩ w).1 =
      .ok (.state (if w.kernel.tasks.isSuspended t.address then .suspended else .ready)) := result_issue ..

/-! ## Runs -/

theorem isSuspended_after (t : Handle .task) (settings : Settings) (gate : Gate Hart) (ms : List Routed) :
    (after ms ⟨gate, Kernel.boot settings⟩).kernel.tasks.isSuspended t.address =
      decide ((handOffs t (ms.map (·.call))).getLast? = some (suspension t)) := by
  induction ms using List.reverseRecOn with
  | nil => rfl
  | append_singleton ms m ih =>
    rw [after_concat, isSuspended_issue, ih, List.map_append, List.map_singleton]
    cases h : handsOff t m.call with
    | true =>
      rw [handOffs_concat_of_handsOff h, List.getLast?_concat]
      simp
    | false =>
      rw [handOffs_concat_of_not h]
      simp

/-- A task is suspended iff the last call that handed it off was a suspension, and no other call changes its
state. So runs in which the calls that hand each task off come in the same order leave every task in the same
state. -/
theorem last_handOff_decides (settings : Settings) (gate : Gate Hart) (ms : List Routed) :
    let start : World Kernel := ⟨gate, Kernel.boot settings⟩
    let asks := fun (route : Route) (level : Bool) (t : Handle .task) =>
      (⟨route, level, .task (.getState t)⟩ : Routed)
    (∀ t route level,
      (issue (asks route level t) (after ms start)).1 = .ok (.state (stateAfter t (ms.map (·.call))))) ∧
    (∀ (w : World Kernel) (m : Routed) t, handsOff t m.call = false → ∀ route level,
      (issue (asks route level t) (issue m w).2).1 = (issue (asks route level t) w).1) ∧
    ∀ ms' : List Routed, (∀ t, handOffs t (ms'.map (·.call)) = handOffs t (ms.map (·.call))) →
      ∀ t route level,
        (issue (asks route level t) (after ms' start)).1 = (issue (asks route level t) (after ms start)).1 := by
  intro start asks
  have hasked : ∀ ms t route level,
      (issue (asks route level t) (after ms start)).1 = .ok (.state (stateAfter t (ms.map (·.call)))) := by
    intro ms t route level
    rw [result_getState, isSuspended_after]
    simp [stateAfter]
  refine ⟨hasked ms, fun w m t hm route level => ?_, fun ms' horder t route level => ?_⟩
  · rw [result_getState, result_getState, isSuspended_issue, hm]
    simp
  · rw [hasked, hasked, stateAfter, stateAfter, horder]

/-- However the calls of two workers are mixed, the second one alone is suspended in the end. -/
theorem last_handOff_decides_of_workers :
    let parent : Handle .task := ⟨0x10, by decide⟩
    let a : Handle .task := ⟨0x20, by decide⟩
    let b : Handle .task := ⟨0x30, by decide⟩
    let suspend := fun t => (⟨.gated, false, suspension t⟩ : Routed)
    let resume := fun t => (⟨.gated, false, .task (.resume t)⟩ : Routed)
    let ms := [suspend a, suspend b, resume a, suspend parent, resume b, suspend a, resume a, resume parent, suspend b]
    let ms' := [suspend b, suspend a, suspend parent, resume a, suspend a, resume b, suspend b, resume parent, resume a]
    let w := after ms' ⟨Gate.around Hart.boot, Kernel.boot Settings.default⟩
    (∀ t, handOffs t (ms'.map (·.call)) = handOffs t (ms.map (·.call))) ∧
      (∀ route level, (issue ⟨route, level, .task (.getState parent)⟩ w).1 = .ok (.state .ready)) ∧
      (∀ route level, (issue ⟨route, level, .task (.getState a)⟩ w).1 = .ok (.state .ready)) ∧
      ∀ route level, (issue ⟨route, level, .task (.getState b)⟩ w).1 = .ok (.state .suspended) := by
  intro parent a b suspend resume ms ms' w
  have horder : ∀ t, handOffs t (ms'.map (·.call)) = handOffs t (ms.map (·.call)) := by
    intro t
    by_cases hparent : parent = t
    · subst hparent
      decide
    · by_cases ha : a = t
      · subst ha
        decide
      · by_cases hb : b = t
        · subst hb
          decide
        · simp [handOffs, handsOff, suspension, ms, ms', suspend, resume, hparent, ha, hb]
  obtain ⟨hstates, -, hsame⟩ := last_handOff_decides Settings.default (Gate.around Hart.boot) ms
  refine ⟨horder, fun route level => ?_, fun route level => ?_, fun route level => ?_⟩
  · exact (hsame ms' horder parent route level).trans (hstates parent route level)
  · exact (hsame ms' horder a route level).trans (hstates a route level)
  · exact (hsame ms' horder b route level).trans (hstates b route level)

end Sallyport.Host.Tasks
