/-
What the host kernel keeps for a task, in four tables under its address. A call reads and writes what is
kept for one task at most (`belongings_step`), and all that can be asked is answered from it
(`result_asked`). A task that is left out is one more task, at the null address.
-/
import Mathlib.Data.List.Induction
import Sallyport.Proofs.Host.Routes

namespace Sallyport.Host

/-- What is kept for a task, as far as there is an entry for it. -/
structure Belongings where
  priority : Option UInt32
  suspended : Bool
  tag : Option Address
  locals : Int32 → Option Address

namespace Belongings

/-- What is kept for a task of which nothing is known. -/
def unknown : Belongings := ⟨none, false, none, fun _ => none⟩

/-- What a call leaves of the belongings of the task it is about. -/
def after : TaskCall → Belongings → Belongings
  | .delete _, b => { b with priority := none, suspended := false }
  | .prioritySet _ priority, b => { b with priority := some priority }
  | .suspend _, b => { b with suspended := true }
  | .resume _, b => { b with suspended := false }
  | .setTag _ hook, b => { b with tag := if hook = 0 then none else some hook }
  | .setLocal _ index value, b => { b with locals := fun i => if i = index then some value else b.locals i }
  | _, b => b

/-- The reply to a call that asks about a task. -/
def answer (settings : Settings) (b : Belongings) : TaskCall → Reply
  | .priorityGet _ => .word (b.priority.getD 1)
  | .getState _ => .state (if b.suspended then .suspended else .ready)
  | .getTag _ => .address (b.tag.getD 0)
  | .callHook _ parameter => .code (b.tag.elim Code.fail fun hook => settings.hooks hook parameter)
  | .getLocal _ index => .address ((b.locals index).getD 0)
  | _ => .nothing

theorem tag_after_ne {b : Belongings} (h : b.tag ≠ some 0) (c : TaskCall) : (b.after c).tag ≠ some 0 := by
  cases c with
  | setTag target hook =>
    simp only [after]
    split
    · simp
    · simpa
  | _ => exact h

end Belongings

namespace Tasks

open World

/-- The task a call is about, if it reads or writes what is kept for one. -/
def about? : Call → Option (Option (Handle .task))
  | .task (.delete target) | .task (.priorityGet target) | .task (.prioritySet target _) | .task (.suspend target)
  | .task (.setTag target _) | .task (.getTag target) | .task (.callHook target _) | .task (.setLocal target _ _)
  | .task (.getLocal target _) => some target
  | .task (.getState target) | .task (.resume target) => some (some target)
  | _ => none

/-- All that can be asked about a task. The state of a task can be asked for by its name only. -/
inductive Asks : Option (Handle .task) → TaskCall → Prop where
  | priority (target : Option (Handle .task)) : Asks target (.priorityGet target)
  | state (t : Handle .task) : Asks (some t) (.getState t)
  | tag (target : Option (Handle .task)) : Asks target (.getTag target)
  | hook (target : Option (Handle .task)) (parameter : Address) : Asks target (.callHook target parameter)
  | locals (target : Option (Handle .task)) (index : Int32) : Asks target (.getLocal target index)

def belongings (s : Tasks) (address : Address) : Belongings where
  priority := s.priorities.get? address
  suspended := s.isSuspended address
  tag := s.tags.get? address
  locals index := s.locals.get? (address, index)

/-! ## One call -/

theorem key_inj {target target' : Option (Handle .task)} : key target = key target' ↔ target = target' := by
  constructor
  · intro h
    rw [← Handle.ofAddress?_toAddress target, ← Handle.ofAddress?_toAddress target']
    exact congrArg Handle.ofAddress? h
  · rintro rfl
    rfl

theorem settings_step (c : TaskCall) (s : Tasks) : (step c s).2.settings = s.settings := by
  cases c with
  | createRestrictedStatic definition created =>
    simp only [step]
    split <;> rfl
  | setTag target hook =>
    simp only [step, setTag]
    split <;> rfl
  | _ => rfl

theorem belongings_step (c : TaskCall) (s : Tasks) (a : Address) :
    (step c s).2.belongings a =
      if (about? (.task c)).map key = some a then (s.belongings a).after c else s.belongings a := by
  cases c with
  | createRestrictedStatic definition created =>
    simp only [step]
    split <;> rfl
  | setTag target hook =>
    -- The null tag takes the entry out, any other one puts it in.
    by_cases h : key target = a
    · subst h
      by_cases hnull : hook = 0 <;>
        simp [belongings, step, setTag, isSuspended, about?, Belongings.after, Table.get?_insert, Table.get?_erase, hnull]
    · by_cases hnull : hook = 0 <;>
        simp [belongings, step, setTag, isSuspended, about?, Table.get?_insert, Table.get?_erase, hnull, h, Ne.symm h]
  | resume t =>
    by_cases h : t.address = a
    · subst h
      simp [belongings, step, resume, isSuspended, about?, key, Belongings.after, Table.get?_erase]
    · simp [belongings, step, resume, isSuspended, about?, key, Table.get?_erase, h, Ne.symm h]
  | delete target | prioritySet target priority | suspend target | setLocal target index value =>
    by_cases h : key target = a
    · subst h
      simp [belongings, step, delete, suspend, isSuspended, about?, Belongings.after, Table.get?_insert,
        Table.get?_erase]
    · simp [belongings, step, delete, suspend, isSuspended, about?, Table.get?_insert, Table.get?_erase, h, Ne.symm h]
  | _ => exact (ite_self _).symm

theorem reply_of_asks {target : Option (Handle .task)} {c : TaskCall} (h : Asks target c) (s : Tasks) :
    (step c s).1 = .ok ((s.belongings (key target)).answer s.settings c) := by
  cases h with
  | hook parameter =>
    simp only [step, callHook, Belongings.answer, belongings]
    cases s.tags.get? (key target) <;> rfl
  | _ => rfl

/-! ## Calls of a run -/

theorem settings_issue (m : Routed) (w : World Kernel) :
    (issue m w).2.kernel.tasks.settings = w.kernel.tasks.settings := by
  rw [kernel_issue]
  cases hc : m.call with
  | task c => exact settings_step c w.kernel.tasks
  | _ => rfl

theorem belongings_issue {m : Routed} {c : TaskCall} (hc : m.call = .task c) (w : World Kernel) (a : Address) :
    (issue m w).2.kernel.tasks.belongings a =
      if (about? m.call).map key = some a then (w.kernel.tasks.belongings a).after c
      else w.kernel.tasks.belongings a := by
  rw [kernel_issue, hc]
  exact belongings_step c w.kernel.tasks a

theorem belongings_issue_of_about {m : Routed} {c : TaskCall} {target : Option (Handle .task)} (hc : m.call = .task c)
    (h : about? m.call = some target) (w : World Kernel) :
    (issue m w).2.kernel.tasks.belongings (key target) = (w.kernel.tasks.belongings (key target)).after c := by
  rw [belongings_issue hc, if_pos (by rw [h, Option.map_some])]

theorem belongings_issue_of_not_about {m : Routed} {target : Option (Handle .task)} (h : about? m.call ≠ some target)
    (w : World Kernel) :
    (issue m w).2.kernel.tasks.belongings (key target) = w.kernel.tasks.belongings (key target) := by
  cases hc : m.call with
  | task c =>
    rw [belongings_issue hc, if_neg]
    intro habout
    obtain ⟨target', habout, hkey⟩ := Option.map_eq_some_iff.1 habout
    exact h (habout.trans (congrArg some (key_inj.1 hkey)))
  | _ =>
    rw [kernel_issue, hc]
    rfl

theorem result_asked {target : Option (Handle .task)} {c : TaskCall} (h : Asks target c) (route : Route)
    (privileged : Bool) (w : World Kernel) : (issue ⟨route, privileged, .task c⟩ w).1 =
      .ok ((w.kernel.tasks.belongings (key target)).answer w.kernel.tasks.settings c) := by
  rw [result_issue]
  exact reply_of_asks h w.kernel.tasks

/-- Two kernels reply alike to a call, whoever makes it and by whatever route. -/
def Alike (c : TaskCall) (w w' : World Kernel) : Prop :=
  ∀ route privileged, (issue ⟨route, privileged, .task c⟩ w).1 = (issue ⟨route, privileged, .task c⟩ w').1

section Runs

variable {target : Option (Handle .task)} {c : TaskCall} {w w' : World Kernel}

theorem alike_iff (h : Asks target c) (hsettings : w.kernel.tasks.settings = w'.kernel.tasks.settings) :
    Alike c w w' ↔ (w.kernel.tasks.belongings (key target)).answer w.kernel.tasks.settings c =
      (w'.kernel.tasks.belongings (key target)).answer w.kernel.tasks.settings c := by
  simp only [Alike, result_asked h, ← hsettings, Except.ok.injEq]
  exact ⟨fun h => h .direct true, fun h _ _ => h⟩

theorem alike_issue_of_not_about {m : Routed} (h : about? m.call ≠ some target) (hc : Asks target c)
    (w : World Kernel) : Alike c (issue m w).2 w := by
  rw [alike_iff hc (settings_issue m w), belongings_issue_of_not_about h]

theorem settings_after (ms : List Routed) (w : World Kernel) :
    (after ms w).kernel.tasks.settings = w.kernel.tasks.settings := by
  induction ms using List.reverseRecOn with
  | nil => rfl
  | append_singleton ms m ih => rw [after_concat, settings_issue, ih]

theorem belongings_boot (settings : Settings) (a : Address) : (boot settings).belongings a = .unknown := rfl

theorem belongings_after_of_unknown (settings : Settings) (gate : Gate Hart) (ms : List Routed)
    (h : ∀ m ∈ ms, about? m.call ≠ some target) :
    (after ms ⟨gate, Kernel.boot settings⟩).kernel.tasks.belongings (key target) = .unknown := by
  induction ms using List.reverseRecOn with
  | nil => exact belongings_boot settings (key target)
  | append_singleton ms m ih =>
    rw [after_concat, belongings_issue_of_not_about (h m (by simp))]
    exact ih fun m hm => h m (List.mem_append_left _ hm)

end Runs

end Tasks

end Sallyport.Host
