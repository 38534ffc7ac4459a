/-
What a program asks of its context does not depend on the context. The barest one keeps a level and
writes down the changes asked of it; so the hart, where a change is a trap, and a context that only
counts stand for each other.
-/
import Sallyport.Proofs.Gate.Account
import Mathlib.Data.Bool.Count
import Mathlib.Data.List.Induction

namespace Sallyport

open PrivilegeContext

/-! ## Changes of level, one after another -/

/-- A context that writes down the changes asked of it, the oldest first. -/
structure Chronicle where
  level : Bool
  changes : List Bool
  deriving DecidableEq, Repr

def Chronicle.start (level : Bool) : Chronicle := ⟨level, []⟩

instance : PrivilegeContext Chronicle where
  isPrivileged l := l.level
  setPrivileged level l := ⟨level, l.changes ++ [level]⟩

/-- Makes changes of level one after another. -/
def make {σ : Type} [PrivilegeContext σ] (changes : List Bool) (c : σ) : σ :=
  changes.foldl (fun c level => setPrivileged level c) c

theorem make_concat {σ : Type} [PrivilegeContext σ] (changes : List Bool) (level : Bool) (c : σ) :
    make (changes ++ [level]) c = setPrivileged level (make changes c) := by
  rw [make, List.foldl_append]
  rfl

theorem make_counting (changes : List Bool) (level : Bool) :
    make changes (Counting.start level) =
      ⟨changes.getLast?.getD level, changes.count true, changes.count false⟩ := by
  induction changes using List.reverseRecOn with
  | nil => rfl
  | append_singleton changes last ih =>
    rw [make_concat, ih, List.getLast?_concat]
    cases last <;> simp [setPrivileged]

namespace Hart

theorem ecalls_make (changes : List Bool) (h : Hart) : (make changes h).ecalls = h.ecalls + changes.length := by
  induction changes using List.reverseRecOn with
  | nil => rfl
  | append_singleton changes last ih =>
    rw [make_concat, ecalls_setPrivileged, ih, List.length_append]
    rfl

theorem mstatus_make (changes : List Bool) (h : Hart) :
    (make changes h).mstatus = (changes.getLast?.map fun last => (patternFor last).bits).getD h.mstatus := by
  induction changes using List.reverseRecOn with
  | nil => rfl
  | append_singleton changes last _ =>
    rw [make_concat, setPrivileged_eq, ecall_causeFor, List.getLast?_concat]
    rfl

end Hart

namespace Gate

variable {σ : Type} [PrivilegeContext σ]

/-! ## A gate and its chronicle -/

/-- A gate whose context is what the changes in the chronicle have made of the context at the start. -/
structure Follows (start : σ) (g : Gate σ) (k : Gate Chronicle) : Prop where
  context_eq : g.context = make k.context.changes start
  level_eq : g.isPrivileged = k.isPrivileged
  trace_eq : g.trace = k.trace

/-- The same of a run, which has logged the same as well. -/
structure Progress.Follows (start : σ) (p : Progress σ) (q : Progress Chronicle) : Prop where
  gate : p.gate.Follows start q.gate
  log_eq : p.log = q.log

variable {start : σ} {g : Gate σ} {k : Gate Chronicle} {p : Progress σ} {q : Progress Chronicle}

theorem Follows.record (h : g.Follows start k) (e : GateEvent) : (g.record e).Follows start (k.record e) :=
  ⟨h.context_eq, h.level_eq, congrArg (Trace.Recorder.record e.line e) h.trace_eq⟩

theorem Follows.noting (h : g.Follows start k) {log log' : List Entry} (hlog : log = log') (n : Note) :
    (Progress.note n ⟨g, log⟩).Follows start (Progress.note n ⟨k, log'⟩) := by
  refine ⟨h, ?_⟩
  show log ++ [⟨n, g.isPrivileged⟩] = log' ++ [⟨n, k.isPrivileged⟩]
  rw [hlog, h.level_eq]

theorem Progress.Follows.note (h : p.Follows start q) (n : Note) : (p.note n).Follows start (q.note n) :=
  h.gate.noting h.log_eq n

variable [LawfulPrivilegeContext σ]

theorem Follows.setPrivileged (h : g.Follows start k) (level : Bool) :
    (g.setPrivileged level).Follows start (k.setPrivileged level) := by
  refine ⟨?_, isPrivileged_setPrivileged level g, h.trace_eq⟩
  show PrivilegeContext.setPrivileged level g.context = make (k.context.changes ++ [level]) start
  rw [make_concat, h.context_eq]

theorem Follows.raise (h : g.Follows start k) : g.raise.1 = k.raise.1 ∧ g.raise.2.Follows start k.raise.2 := by
  unfold Gate.raise
  rw [h.level_eq]
  cases k.isPrivileged with
  | true => exact ⟨rfl, h.record .alreadyPrivileged⟩
  | false => exact ⟨rfl, (h.record .raise).setPrivileged true⟩

theorem Follows.reset (h : g.Follows start k) (was : Bool) : (g.reset was).Follows start (k.reset was) := by
  cases was with
  | true => exact h
  | false => exact (h.record .reset).setPrivileged false

/-! ## Runs -/

theorem Progress.Follows.dropAll (h : p.Follows start q) (guards : List Bool) :
    (p.dropAll guards).Follows start (q.dropAll guards) := by
  refine ⟨?_, h.log_eq⟩
  show (guards.foldl (fun g was => g.reset was) p.gate).Follows start (guards.foldl (fun g was => g.reset was) q.gate)
  have hgate := h.gate
  -- Both gates change with every guard that is dropped.
  generalize p.gate = g at hgate ⊢
  generalize q.gate = k at hgate ⊢
  induction guards generalizing g k with
  | nil => exact hgate
  | cons was guards ih => exact ih _ _ (hgate.reset was)

theorem Progress.Follows.perform (h : p.Follows start q) (a : Action) (f : Frame) :
    (a.perform f p = none ∧ a.perform f q = none) ∨
      ∃ f' p' q', a.perform f p = some (f', p') ∧ a.perform f q = some (f', q') ∧ p'.Follows start q' := by
  obtain ⟨hwas, hraise⟩ := h.gate.raise
  -- Both sides note the level a raise has found, and keep the same flag or guard of it.
  have raised (e : Bool → Note) : (Progress.note (e p.gate.raise.1) { p with gate := p.gate.raise.2 }).Follows start
      (Progress.note (e q.gate.raise.1) { q with gate := q.gate.raise.2 }) := by
    rw [hwas]
    exact hraise.noting h.log_eq _
  have reset (was : Bool) (n : Note) : (Progress.note n { p with gate := p.gate.reset was }).Follows start
      (Progress.note n { q with gate := q.gate.reset was }) := (h.gate.reset was).noting h.log_eq n
  cases a with
  | raise =>
    refine Or.inr ⟨{ f with flags := q.gate.raise.1 :: f.flags }, _, _, ?_, rfl, raised .raised⟩
    rw [← hwas]
    rfl
  | reset => exact Or.inr ⟨_, _, _, rfl, rfl, reset _ _⟩
  | resetTo was => exact Or.inr ⟨_, _, _, rfl, rfl, reset _ _⟩
  | set level => exact Or.inr ⟨_, _, _, rfl, rfl, (h.gate.setPrivileged level).noting h.log_eq _⟩
  | guard =>
    refine Or.inr ⟨{ f with guards := q.gate.raise.1 :: f.guards }, _, _, ?_, rfl, raised .guarded⟩
    rw [← hwas]
    rfl
  | drop oldest =>
    rw [Action.perform, Action.perform]
    cases (if oldest then f.guards.getLast? else f.guards.head?) with
    | none => exact Or.inr ⟨_, _, _, rfl, rfl, h.note _⟩
    | some was => exact Or.inr ⟨_, _, _, rfl, rfl, reset _ _⟩
  | dropAt place =>
    rw [Action.perform, Action.perform]
    cases f.guards[place]? with
    | none => exact Or.inr ⟨_, _, _, rfl, rfl, h.note _⟩
    | some was => exact Or.inr ⟨_, _, _, rfl, rfl, reset _ _⟩
  | panic => exact Or.inl ⟨rfl, rfl⟩

theorem Progress.Follows.enter (h : p.Follows start q) : p.enter.Follows start q.enter :=
  h.gate.raise.2.noting h.log_eq .entered

theorem Progress.Follows.run (program : Program) : ∀ {p : Progress σ} {q : Progress Chronicle} (f : Frame),
    p.Follows start q →
      (program.run f p).1 = (program.run f q).1 ∧ (program.run f p).2.Follows start (program.run f q).2 := by
  induction program with
  | done =>
    intro p q f h
    exact ⟨rfl, h.dropAll f.guards⟩
  | step a next ih =>
    intro p q f h
    rw [Program.run, Program.run]
    rcases h.perform a f with ⟨hp, hq⟩ | ⟨f', p', q', hp, hq, h'⟩
    · rw [hp, hq]
      exact ⟨rfl, h.dropAll f.guards.reverse⟩
    · rw [hp, hq]
      exact ih f' h'
  | within body next ihb ihn =>
    intro p q f h
    -- The body starts from a frame of its own, and the region resets to the level it found.
    obtain ⟨hfault, hbody⟩ := ihb .empty h.enter
    have hregion : (body.region p).1 = (body.region q).1 ∧ (body.region p).2.Follows start (body.region q).2 := by
      rw [region_eq, region_eq, h.gate.level_eq]
      exact ⟨hfault, hbody.gate.reset _, hbody.log_eq⟩
    rw [run_within, run_within]
    generalize body.region p = left at hregion ⊢
    generalize body.region q = right at hregion ⊢
    obtain ⟨fault, p'⟩ := left
    obtain ⟨_, q'⟩ := right
    obtain ⟨rfl, h'⟩ := hregion
    cases fault with
    | none => exact ihn f (h'.note _)
    | some fault => exact ⟨rfl, h'.dropAll f.guards.reverse⟩
  | catching body next ihb ihn =>
    intro p q f h
    obtain ⟨hfault, hbody⟩ := ihb .empty h
    rw [Program.run, Program.run]
    generalize body.run .empty p = left at hfault hbody ⊢
    generalize body.run .empty q = right at hfault hbody ⊢
    obtain ⟨fault, p'⟩ := left
    obtain ⟨_, q'⟩ := right
    obtain rfl : fault = _ := hfault
    exact ihn f (hbody.note _)

/-- A program ends alike on a lawful context and on a chronicle, whose changes lead to that context. -/
theorem runOn_follows_chronicle (program : Program) (c : σ) (trace : Trace.Recorder GateEvent) :
    (program.runOn ⟨c, trace⟩).1 = (program.runOn ⟨Chronicle.start (PrivilegeContext.isPrivileged c), trace⟩).1 ∧
      (program.runOn ⟨c, trace⟩).2.Follows c (program.runOn ⟨Chronicle.start (PrivilegeContext.isPrivileged c), trace⟩).2 :=
  Progress.Follows.run program .empty ⟨⟨rfl, rfl, rfl⟩, rfl⟩

/-! ## The hart and the context that counts -/

/-- The hart does what a context that counts does: a program ends the same way on both, with the same values,
levels and trace. Each change is one environment call, and the last one leaves its pattern in the status
register. -/
theorem hart_runs_as_counting (program : Program) (h : Hart) (trace : Trace.Recorder GateEvent) :
    let hart := program.runOn ⟨h, trace⟩
    let counting := program.runOn ⟨Counting.start h.privileged, trace⟩
    let changes := (program.runOn ⟨Chronicle.start h.privileged, trace⟩).2.gate.context.changes
    hart.1 = counting.1 ∧ hart.2.log = counting.2.log ∧ hart.2.gate.trace = counting.2.gate.trace ∧
      hart.2.gate.isPrivileged = counting.2.gate.isPrivileged ∧
      counting.2.gate.context.raises = changes.count true ∧ counting.2.gate.context.resets = changes.count false ∧
      hart.2.gate.context.ecalls = h.ecalls + (counting.2.gate.context.raises + counting.2.gate.context.resets) ∧
      hart.2.gate.context.mstatus = (match changes.getLast? with
        | some true => Mstatus.raised.bits
        | some false => Mstatus.user.bits
        | none => h.mstatus) ∧
      hart.2.gate.context = changes.foldl (fun h level => (h.ecall (Hart.causeFor level) Hart.noArguments).2) h := by
  intro hart counting changes
  -- The hart and the counts both follow the chronicle, so whatever they have to share is read off it.
  obtain ⟨hend, hhart⟩ := runOn_follows_chronicle program h trace
  obtain ⟨cend, hcounting⟩ := runOn_follows_chronicle program (Counting.start h.privileged) trace
  have hcontext : hart.2.gate.context = make changes h := hhart.gate.context_eq
  have hcounts : counting.2.gate.context =
      ⟨changes.getLast?.getD h.privileged, changes.count true, changes.count false⟩ :=
    hcounting.gate.context_eq.trans (make_counting changes h.privileged)
  refine ⟨hend.trans cend.symm, hhart.log_eq.trans hcounting.log_eq.symm,
    hhart.gate.trace_eq.trans hcounting.gate.trace_eq.symm, hhart.gate.level_eq.trans hcounting.gate.level_eq.symm,
    by rw [hcounts], by rw [hcounts], ?_, ?_, ?_⟩
  · rw [hcontext, hcounts, Hart.ecalls_make, List.count_true_add_count_false]
  · rw [hcontext, Hart.mstatus_make]
    rcases changes.getLast? with _ | _ | _ <;> rfl
  · simp only [hcontext, make, Hart.setPrivileged_eq]

/-- The changes of a region around a body that ends at machine level, in a panic. -/
example : ((Program.within (.step .raise (.step (.set true) (.step .panic .done))) .done).runOn
    (around (Chronicle.start false))).2.gate.context.changes = [true, true, false] := by decide

end Gate

end Sallyport
