/-
What the host kernel forgets of a task that is deleted: its priority and its suspension. Its tag and its
local pointers stay, and whoever gets the address of the deleted task next inherits them.
-/
import Sallyport.Proofs.Host.Belongings

namespace Sallyport.Host

namespace Belongings

variable {settings : Settings} {b : Belongings} {t : Handle .task}

theorem answers_unknown_iff (h : b.tag ≠ some 0) :
    (∀ c, Tasks.Asks (some t) c →
      (b.after (.delete (some t))).answer settings c = unknown.answer settings c) ↔
      b.answer settings (.getTag (some t)) = .address 0 ∧
        ∀ index, b.answer settings (.getLocal (some t) index) = .address 0 := by
  constructor
  · intro hall
    exact ⟨hall _ (.tag _), fun index => hall _ (.locals _ index)⟩
  · rintro ⟨htag, hlocals⟩ c hc
    have htag : b.tag = none := by
      cases hb : b.tag with
      | none => rfl
      | some hook => simp_all [answer]
    cases hc with
    | priority | state => rfl
    | tag | hook _ parameter => simp [answer, after, unknown, htag]
    | locals _ index => exact hlocals index

end Belongings

namespace Tasks

open World

theorem tag_after_ne (settings : Settings) (gate : Gate Hart) (ms : List Routed) (a : Address) :
    ((after ms ⟨gate, Kernel.boot settings⟩).kernel.tasks.belongings a).tag ≠ some 0 := by
  induction ms using List.reverseRecOn with
  | nil => simp [after, Kernel.boot, belongings_boot, Belongings.unknown]
  | append_singleton ms m ih =>
    rw [after_concat]
    cases hc : m.call with
    | task c =>
      rw [belongings_issue hc]
      split
      · exact Belongings.tag_after_ne ih c
      · exact ih
    | _ =>
      rw [kernel_issue, hc]
      exact ih

/-- A task that shows no tag and no local pointers. -/
structure Bare (t : Handle .task) (w : World Kernel) : Prop where
  tag : ∀ route privileged, (issue ⟨route, privileged, .task (.getTag (some t))⟩ w).1 = .ok (.address 0)
  locals : ∀ index route privileged,
    (issue ⟨route, privileged, .task (.getLocal (some t) index)⟩ w).1 = .ok (.address 0)

theorem bare_iff {t : Handle .task} {w : World Kernel} : Bare t w ↔
    (w.kernel.tasks.belongings t.address).answer w.kernel.tasks.settings (.getTag (some t)) = .address 0 ∧
      ∀ index, (w.kernel.tasks.belongings t.address).answer w.kernel.tasks.settings (.getLocal (some t) index) =
        .address 0 := by
  constructor
  · rintro ⟨htag, hlocals⟩
    refine ⟨?_, fun index => ?_⟩
    · exact Except.ok.inj ((result_asked (.tag (some t)) .direct true w).symm.trans (htag _ _))
    · exact Except.ok.inj ((result_asked (.locals (some t) index) .direct true w).symm.trans (hlocals _ _ _))
  · rintro ⟨htag, hlocals⟩
    refine ⟨fun route privileged => ?_, fun index route privileged => ?_⟩
    · exact (result_asked (.tag (some t)) route privileged w).trans (congrArg Except.ok htag)
    · exact (result_asked (.locals (some t) index) route privileged w).trans (congrArg Except.ok (hlocals index))

section Deletion

variable (t : Handle .task) (route : Route) (privileged : Bool) (w : World Kernel)

def deletion : Routed := ⟨route, privileged, .task (.delete (some t))⟩

theorem belongings_deletion : (issue (deletion t route privileged) w).2.kernel.tasks.belongings t.address =
    (w.kernel.tasks.belongings t.address).after (.delete (some t)) := by
  have habout : about? (deletion t route privileged).call = some (some t) := rfl
  exact belongings_issue_of_about rfl habout w

theorem alike_deletion {c : TaskCall} (hc : Asks (some t) c) (hpriority : c ≠ .priorityGet (some t))
    (hstate : c ≠ .getState t) : Alike c (issue (deletion t route privileged) w).2 w := by
  refine (alike_iff hc (settings_issue ..)).2 ?_
  show (belongings _ t.address).answer _ c = (belongings _ t.address).answer _ c
  rw [belongings_deletion]
  cases hc with
  | priority => exact absurd rfl hpriority
  | state => exact absurd rfl hstate
  | tag | hook | locals => rfl

section Unknown

variable {w w' : World Kernel} (hsettings : w.kernel.tasks.settings = w'.kernel.tasks.settings)
  (hunknown : w'.kernel.tasks.belongings t.address = .unknown)

include hsettings hunknown

/-- Whether a deleted task answers like an unknown one is decided by what was kept for it. -/
theorem alike_unknown_iff {c : TaskCall} (hc : Asks (some t) c) :
    Alike c (issue (deletion t route privileged) w).2 w' ↔
      ((w.kernel.tasks.belongings t.address).after (.delete (some t))).answer w.kernel.tasks.settings c =
        Belongings.unknown.answer w.kernel.tasks.settings c := by
  rw [alike_iff hc ((settings_issue ..).trans hsettings), settings_issue]
  show (belongings _ t.address).answer _ c = (belongings _ t.address).answer _ c ↔ _
  rw [belongings_deletion, hunknown]

theorem alike_unknown_iff_bare (htag : (w.kernel.tasks.belongings t.address).tag ≠ some 0) :
    (∀ c, Asks (some t) c → Alike c (issue (deletion t route privileged) w).2 w') ↔ Bare t w := by
  rw [bare_iff, ← Belongings.answers_unknown_iff htag]
  exact forall_congr' fun c => imp_congr_right fun hc =>
    alike_unknown_iff t route privileged hsettings hunknown hc

end Unknown

end Deletion

/-- Deleting a task forgets its priority and its suspension, and nothing else: it answers like a task no call
was ever about iff it had no tag and no local pointers, and every other task answers as before. -/
theorem deletion_forgets_priority_and_suspension (settings : Settings) (gate : Gate Hart) (ms : List Routed)
    (t : Handle .task) (route : Route) (privileged : Bool) :
    let start : World Kernel := ⟨gate, Kernel.boot settings⟩
    let before := after ms start
    let deleted := (issue (deletion t route privileged) before).2
    (∀ ms', (∀ m ∈ ms', about? m.call ≠ some (some t)) →
      Alike (.priorityGet (some t)) deleted (after ms' start) ∧ Alike (.getState t) deleted (after ms' start) ∧
        ((∀ c, Asks (some t) c → Alike c deleted (after ms' start)) ↔ Bare t before)) ∧
    Alike (.getTag (some t)) deleted before ∧ (∀ parameter, Alike (.callHook (some t) parameter) deleted before) ∧
      (∀ index, Alike (.getLocal (some t) index) deleted before) ∧
    ∀ target, target ≠ some t → ∀ c, Asks target c → Alike c deleted before := by
  intro start before deleted
  refine ⟨fun ms' hms' => ?_, ?_, fun parameter => ?_, fun index => ?_, fun target htarget c hc => ?_⟩
  · have hsettings : before.kernel.tasks.settings = (after ms' start).kernel.tasks.settings := by
      rw [settings_after, settings_after]
    -- In the other run no call was about the task, so nothing is kept for it there.
    have hunknown : (after ms' start).kernel.tasks.belongings t.address = .unknown :=
      belongings_after_of_unknown settings gate ms' hms'
    have hiff {c : TaskCall} (hc : Asks (some t) c) :=
      alike_unknown_iff t route privileged hsettings hunknown hc
    exact ⟨(hiff (.priority _)).2 rfl, (hiff (.state t)).2 rfl,
      alike_unknown_iff_bare t route privileged hsettings hunknown (tag_after_ne settings gate ms _)⟩
  · exact alike_deletion t route privileged before (.tag _) nofun nofun
  · exact alike_deletion t route privileged before (.hook _ _) nofun nofun
  · exact alike_deletion t route privileged before (.locals _ _) nofun nofun
  · have hother : about? (deletion t route privileged).call ≠ some target := by
      rintro ⟨⟩
      exact htarget rfl
    exact alike_issue_of_not_about hother hc before

/-- A task that was given a priority and suspended, and nothing else, is forgotten altogether. -/
theorem deletion_forgets_bare_task :
    let t : Handle .task := ⟨0x20, by decide⟩
    let start : World Kernel := ⟨Gate.around Hart.boot, Kernel.boot Settings.default⟩
    let ms : List Routed := [⟨.gated, false, .task (.prioritySet (some t) 5)⟩, ⟨.direct, true, .task (.suspend (some t))⟩]
    Bare t (after ms start) ∧
      ∀ c, Asks (some t) c → Alike c (issue (deletion t .gated false) (after ms start)).2 start := by
  intro t start ms
  obtain ⟨hforgotten, -⟩ :=
    deletion_forgets_priority_and_suspension Settings.default (Gate.around Hart.boot) ms t .gated false
  obtain ⟨-, -, halike⟩ := hforgotten [] (by simp)
  have hbare : Bare t (after ms start) := bare_iff.2 ⟨rfl, fun _ => rfl⟩
  exact ⟨hbare, halike.2 hbare⟩

/-- A task that was given a tag still shows it once it is deleted, unlike a task that nobody named. -/
theorem deleted_task_keeps_tag :
    let t : Handle .task := ⟨0x20, by decide⟩
    let start : World Kernel := ⟨Gate.around Hart.boot, Kernel.boot Settings.default⟩
    let tagged := (issue ⟨.direct, true, .task (.setTag (some t) 0x500)⟩ start).2
    let deleted := (issue (deletion t .direct true) tagged).2
    (issue ⟨.direct, true, .task (.getTag (some t))⟩ deleted).1 = .ok (.address 0x500) ∧
      (issue ⟨.direct, true, .task (.getTag (some t))⟩ start).1 = .ok (.address 0) ∧
      ¬ ∀ c, Asks (some t) c → Alike c deleted start := by
  intro t start tagged deleted
  have hkept : (issue ⟨.direct, true, .task (.getTag (some t))⟩ deleted).1 = .ok (.address 0x500) := by decide
  have hunknown : (issue ⟨.direct, true, .task (.getTag (some t))⟩ start).1 = .ok (.address 0) := by decide
  refine ⟨hkept, hunknown, fun hall => ?_⟩
  have halike := hall _ (.tag (some t)) .direct true
  rw [hkept, hunknown] at halike
  exact absurd halike (by decide)

end Tasks

end Sallyport.Host
