/-
Two spellings of the calling task: left out, or named by the handle the kernel reports. The host kernel
keeps what belongs to the two apart. With the handle written in throughout, a run keeps under the handle
what it would keep under the null address (`Tasks.Spelled`), and shows the same.
-/
import Sallyport.Proofs.Host.Belongings
import Sallyport.Proofs.Host.Families

namespace Sallyport

open Host (Kernel)

/-! ## Writing the handle in -/

namespace Host.Tasks

/-- The task that makes the calls. -/
def caller : Handle .task := ⟨currentTask, by decide⟩

/-- A task, named in any case. -/
def spelled (target : Option (Handle .task)) : Option (Handle .task) := some (target.getD caller)

/-- The call with the calling task named where it was left out, if it matters to the call. -/
def spelledOut : TaskCall → TaskCall
  | .delete target => .delete (spelled target)
  | .priorityGet target => .priorityGet (spelled target)
  | .prioritySet target priority => .prioritySet (spelled target) priority
  | .suspend target => .suspend (spelled target)
  | .setTag target hook => .setTag (spelled target) hook
  | .getTag target => .getTag (spelled target)
  | .callHook target parameter => .callHook (spelled target) parameter
  | .setLocal target index value => .setLocal (spelled target) index value
  | .getLocal target index => .getLocal (spelled target) index
  | c => c

end Host.Tasks

/-- The call with the calling task named where it was left out. -/
def Call.spelledOut : Call → Call
  | .task c => .task (Host.Tasks.spelledOut c)
  | c => c

def Routed.spelledOut (m : Routed) : Routed := { m with call := m.call.spelledOut }

namespace Host.Tasks

theorem about?_spelledOut (c : TaskCall) : about? (.task (spelledOut c)) = (about? (.task c)).map spelled := by
  cases c <;> rfl

theorem after_spelledOut (c : TaskCall) (b : Belongings) : b.after (spelledOut c) = b.after c := by
  cases c <;> rfl

theorem answer_spelledOut (settings : Settings) (c : TaskCall) (b : Belongings) :
    b.answer settings (spelledOut c) = b.answer settings c := by
  cases c <;> rfl

theorem spelled_inj {target target' : Option (Handle .task)} (h : target ≠ some caller) (h' : target' ≠ some caller) :
    spelled target = spelled target' ↔ target = target' := by
  cases target <;> cases target' <;> simp_all [spelled, eq_comm]

/-! ## One call -/

/-- Tasks without what is kept for each of them. -/
def unowned (s : Tasks) : Tasks :=
  { s with priorities := .empty, suspended := .empty, tags := .empty, locals := .empty }

theorem unowned_step (c : TaskCall) (s : Tasks) : (step c s).2.unowned = (step c s.unowned).2.unowned := by
  cases c with
  | createRestrictedStatic definition created =>
    simp only [step]
    split <;> rfl
  | setTag target hook =>
    simp only [step, setTag]
    split <;> rfl
  | _ => rfl

theorem unowned_step_spelledOut (c : TaskCall) (s : Tasks) :
    (step (spelledOut c) s).2.unowned = (step c s).2.unowned := by
  cases c with
  | setTag target hook =>
    simp only [spelledOut, step, setTag]
    split <;> rfl
  | _ => rfl

theorem reply_of_not_asks {c : TaskCall} (h : ∀ target, ¬ Asks target c) (s : Tasks) :
    (step c s).1 = (step c s.unowned).1 ∧ (step (spelledOut c) s).1 = (step c s.unowned).1 := by
  cases c with
  | priorityGet target => exact absurd (.priority target) (h target)
  | getState t => exact absurd (.state t) (h (some t))
  | getTag target => exact absurd (.tag target) (h target)
  | callHook target parameter => exact absurd (.hook target parameter) (h target)
  | getLocal target index => exact absurd (.locals target index) (h target)
  | createRestrictedStatic definition created =>
    simp only [spelledOut, step]
    constructor <;> split <;> rfl
  | _ => exact ⟨rfl, rfl⟩

theorem Asks.about?_eq {target : Option (Handle .task)} {c : TaskCall} (h : Asks target c) :
    about? (.task c) = some target := by
  cases h <;> rfl

theorem Asks.spelledOut {target : Option (Handle .task)} {c : TaskCall} (h : Asks target c) :
    Asks (spelled target) (Tasks.spelledOut c) := by
  cases h with
  | priority => exact .priority _
  | state t => exact .state t
  | tag => exact .tag _
  | hook => exact .hook _ _
  | locals => exact .locals _ _

/-- Tasks that keep under the handle of the calling task what others keep under the null address. -/
structure Spelled (s s' : Tasks) : Prop where
  unowned : s'.unowned = s.unowned
  belongings : ∀ target, target ≠ some caller → s'.belongings (key (spelled target)) = s.belongings (key target)

namespace Spelled

variable {s s' : Tasks} {c : TaskCall}

theorem settings (h : Spelled s s') : s'.settings = s.settings := by
  simpa [Tasks.unowned] using congrArg Tasks.settings h.unowned

theorem step (h : Spelled s s') (hc : about? (.task c) ≠ some (some caller)) :
    Spelled (step c s).2 (step (spelledOut c) s').2 where
  unowned := by rw [unowned_step_spelledOut, unowned_step, h.unowned, ← unowned_step]
  belongings target htarget := by
    rw [belongings_step, belongings_step, h.belongings target htarget, after_spelledOut, about?_spelledOut]
    cases habout : about? (.task c) with
    | none => rfl
    | some target' =>
      have htarget' : target' ≠ some caller := by
        rintro rfl
        exact hc habout
      simp only [Option.map_some, Option.some.injEq, key_inj, spelled_inj htarget' htarget]

theorem reply (h : Spelled s s') (hc : about? (.task c) ≠ some (some caller)) :
    (Tasks.step (spelledOut c) s').1 = (Tasks.step c s).1 := by
  by_cases hasks : ∃ target, Asks target c
  · obtain ⟨target, hasks⟩ := hasks
    have htarget : target ≠ some caller := by
      rintro rfl
      exact hc hasks.about?_eq
    rw [reply_of_asks hasks, reply_of_asks hasks.spelledOut, h.belongings target htarget, h.settings,
      answer_spelledOut]
  · rw [not_exists] at hasks
    rw [(reply_of_not_asks hasks s).1, (reply_of_not_asks hasks s').2, h.unowned]

end Spelled

end Host.Tasks

/-! ## Runs -/

namespace Host.Kernel

/-- Kernels that differ in the spelling of the calling task only. -/
structure Spelled (k k' : Kernel) : Prop where
  tasks : Tasks.Spelled k.tasks k'.tasks
  others : ∀ f, f ≠ .task → k'.part f = k.part f

theorem Spelled.serve {k k' : Kernel} (h : Spelled k k') {c : Call} (hc : Tasks.about? c ≠ some (some Tasks.caller)) :
    (serve c.spelledOut k').1 = (serve c k).1 ∧ Spelled (serve c k).2 (serve c.spelledOut k').2 := by
  by_cases hf : c.family = .task
  · cases c with
    | task c =>
      refine ⟨h.tasks.reply hc, h.tasks.step hc, fun f hf => ?_⟩
      rw [part_serve_of_ne (by exact Ne.symm hf), part_serve_of_ne (by exact Ne.symm hf), h.others f hf]
    | _ => cases hf
  · have hspelled : c.spelledOut = c := by
      cases c with
      | task c => exact absurd rfl hf
      | _ => rfl
    rw [hspelled]
    obtain ⟨hreply, hpart⟩ := serve_eq_of_part c (h.others _ hf)
    refine ⟨hreply, ?_, fun f hne => ?_⟩
    · have htasks : ∀ k : Kernel, (Kernel.serve c k).2.tasks = k.tasks := fun k => part_serve_of_ne (f := .task) hf k
      rw [htasks, htasks]
      exact h.tasks
    · by_cases hown : c.family = f
      · subst hown
        exact hpart
      · rw [part_serve_of_ne hown, part_serve_of_ne hown, h.others f hne]

end Host.Kernel

namespace Host.Tasks

open World

theorem spelled_issue {w w' : World Kernel} (h : w.kernel.Spelled w'.kernel) {m : Routed}
    (hm : about? m.call ≠ some (some caller)) :
    (issue m.spelledOut w').1 = (issue m w).1 ∧ (issue m w).2.kernel.Spelled (issue m.spelledOut w').2.kernel := by
  obtain ⟨hreply, htasks, hothers⟩ := h.serve hm
  refine ⟨?_, ?_, fun f hf => ?_⟩
  · rw [result_issue, result_issue]
    exact hreply
  · rw [kernel_issue, kernel_issue]
    exact htasks
  · rw [kernel_issue, kernel_issue]
    exact (Kernel.part_withLog ..).trans ((hothers f hf).trans (Kernel.part_withLog ..).symm)

theorem history_spelledOut (ms : List Routed) : ∀ {w w' : World Kernel}, w.kernel.Spelled w'.kernel →
    (∀ m ∈ ms, about? m.call ≠ some (some caller)) →
      history (ms.map Routed.spelledOut) w' = (history ms w).map fun e => (e.1.spelledOut, e.2) := by
  induction ms with
  | nil => exact fun _ _ => rfl
  | cons m ms ih =>
    intro w w' h hms
    obtain ⟨hreply, hnext⟩ := spelled_issue h (hms m List.mem_cons_self)
    simp only [List.map_cons, history, hreply, ih hnext fun m hm => hms m (List.mem_cons_of_mem _ hm)]
    rfl

theorem spelled_boot (settings : Settings) : (Kernel.boot settings).Spelled (Kernel.boot settings) :=
  ⟨⟨rfl, fun _ _ => rfl⟩, fun _ _ => rfl⟩

theorem priority_of_set (target : Option (Handle .task)) (priority : UInt32) (route route' : Route)
    (privileged privileged' : Bool) (w : World Kernel) :
    (issue ⟨route', privileged', .task (.priorityGet target)⟩
      (issue ⟨route, privileged, .task (.prioritySet target priority)⟩ w).2).1 = .ok (.word priority) := by
  rw [result_asked (.priority target), belongings_issue_of_about rfl rfl]
  rfl

/-- The two spellings of the calling task are kept apart: what is done with one never shows with the other,
and there is a priority that does not show alike in both. But a run that never uses the handle shows the same
with it written in wherever the task is left out. -/
theorem spellings_kept_apart (settings : Settings) (gate : Gate Hart) (ms : List Routed) :
    let start : World Kernel := ⟨gate, Kernel.boot settings⟩
    let w := after ms start
    (∀ route privileged, (issue ⟨route, privileged, .task .currentTask⟩ w).1 = .ok (.address caller.address)) ∧
    (∀ (m : Routed) target, about? m.call ≠ some target → ∀ c, Asks target c → Alike c (issue m w).2 w) ∧
    (∃ priority, ∀ route privileged, ¬ Alike (.priorityGet none)
      (issue ⟨route, privileged, .task (.prioritySet none priority)⟩ w).2
      (issue ⟨route, privileged, .task (.prioritySet (some caller) priority)⟩ w).2) ∧
    ((∀ m ∈ ms, about? m.call ≠ some (some caller)) →
      history (ms.map Routed.spelledOut) start = (history ms start).map fun e => (e.1.spelledOut, e.2)) := by
  intro start w
  refine ⟨fun route privileged => result_issue .., fun m target hm c hc => alike_issue_of_not_about hm hc w, ?_,
    history_spelledOut ms (spelled_boot settings)⟩
  let shown := (w.kernel.tasks.belongings (key none)).priority.getD 1
  refine ⟨shown + 1, fun route privileged halike => ?_⟩
  have hset := priority_of_set none (shown + 1) route .direct privileged true w
  have hother := alike_issue_of_not_about (m := ⟨route, privileged, .task (.prioritySet (some caller) (shown + 1))⟩)
    (by simp [about?]) (.priority none) w .direct true
  have hshown : (issue ⟨.direct, true, .task (.priorityGet none)⟩ w).1 = .ok (.word shown) :=
    result_asked (.priority none) .direct true w
  rw [halike .direct true, hother, hshown] at hset
  simp at hset

/-- A worker that leaves itself out throughout, beside another task. -/
theorem spellings_kept_apart_of_worker :
    let other : Handle .task := ⟨0x20, by decide⟩
    let ms : List Routed := [⟨.gated, false, .task (.prioritySet none 5)⟩, ⟨.gated, false, .task (.suspend (some other))⟩,
      ⟨.direct, true, .task (.setLocal none 0 0x70)⟩, ⟨.gated, false, .task (.priorityGet none)⟩,
      ⟨.gated, true, .task (.getLocal none 0)⟩, ⟨.gated, false, .task (.getState other)⟩]
    let start : World Kernel := ⟨Gate.around Hart.boot, Kernel.boot Settings.default⟩
    (∀ m ∈ ms, about? m.call ≠ some (some caller)) ∧
      (history (ms.map Routed.spelledOut) start).map (·.2) =
        [.ok .nothing, .ok .nothing, .ok .nothing, .ok (.word 5), .ok (.address 0x70), .ok (.state .suspended)] := by
  intro other ms start
  have hms : ∀ m ∈ ms, about? m.call ≠ some (some caller) := by decide
  obtain ⟨-, -, -, hhistory⟩ := spellings_kept_apart Settings.default (Gate.around Hart.boot) ms
  refine ⟨hms, ?_⟩
  rw [hhistory hms]
  decide

/-- The priority of the calling task, set without its name, does not show with its name. -/
theorem priority_set_unnamed_not_shown_by_name :
    let start : World Kernel := ⟨Gate.around Hart.boot, Kernel.boot Settings.default⟩
    let w := (issue ⟨.direct, true, .task (.prioritySet none 5)⟩ start).2
    (issue ⟨.direct, true, .task .currentTask⟩ w).1 = .ok (.address caller.address) ∧
      (issue ⟨.direct, true, .task (.priorityGet none)⟩ w).1 = .ok (.word 5) ∧
      (issue ⟨.direct, true, .task (.priorityGet (some caller))⟩ w).1 = .ok (.word 1) := by
  decide

end Host.Tasks

end Sallyport
