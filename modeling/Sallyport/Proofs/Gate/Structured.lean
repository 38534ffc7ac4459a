/-
Structured programs: regions, guards dropped newest first, caught blocks and panics. The induction is over
the program; its invariant (`Held`) says that a block holds, newest first, guards that each found the
level of their time, of which at most one lowers the level.
-/
import Sallyport.Proofs.Gate.Account
import Mathlib.Logic.Function.Iterate

namespace Sallyport.Gate

variable {σ : Type}

/-! ## Structured programs -/

def Action.isStructured : Action → Bool
  | .guard => true
  | .drop oldest => !oldest
  | .panic => true
  | _ => false

def Program.isStructured : Program → Bool
  | .done => true
  | .step action next => action.isStructured && next.isStructured
  | .within body next => body.isStructured && next.isStructured
  | .catching body next => body.isStructured && next.isStructured

/-- How often the number of live regions goes from zero to one. -/
def outermost (account : List Sighting) : Nat := account.countP fun s => s.visit.opens && s.live = 0

theorem outermost_of_live {account : List Sighting} (h : ∀ s ∈ account, 0 < s.live) : outermost account = 0 := by
  unfold outermost
  rw [List.countP_eq_zero]
  intro s hs
  have := h s hs
  simp; omega

/-! ## The guards of a block -/

/-- The flags of `n` guards taken in a block that started at a level, newest first. -/
def flagsFrom (level : Bool) : Nat → List Bool
  | 0 => []
  | n + 1 => (level || decide (0 < n)) :: flagsFrom level n

variable [PrivilegeContext σ]

/-- Only guards that found user level count, and they all do the same. -/
theorem foldl_reset_filter (flags : List Bool) (g : Gate σ) :
    flags.foldl (fun g was => g.reset was) g = (flags.filter (!·)).foldl (fun g was => g.reset was) g := by
  induction flags generalizing g with
  | nil => rfl
  | cons was flags ih => cases was <;> simp [ih]

theorem filter_flagsFrom (level : Bool) (n : Nat) :
    (flagsFrom level n).filter (!·) = if level || n = 0 then [] else [false] := by
  induction n with
  | zero => simp [flagsFrom]
  | succ n ih =>
    rw [flagsFrom, List.filter_cons, ih]
    cases level <;> by_cases hn : n = 0 <;> simp [hn, Nat.pos_iff_ne_zero]

/-- Dropping the guards of a block, newest first or oldest first, resets once, if at all. -/
theorem dropAll_flagsFrom (level : Bool) (n : Nat) (p : Progress σ) :
    p.dropAll (flagsFrom level n) = { p with gate := if level || n = 0 then p.gate else p.gate.reset false } ∧
      p.dropAll (flagsFrom level n).reverse = p.dropAll (flagsFrom level n) := by
  have h : p.dropAll (flagsFrom level n) =
      { p with gate := if level || n = 0 then p.gate else p.gate.reset false } := by
    rw [Progress.dropAll, foldl_reset_filter, filter_flagsFrom]
    split <;> rfl
  refine ⟨h, ?_⟩
  rw [Progress.dropAll, Progress.dropAll, foldl_reset_filter, List.filter_reverse, filter_flagsFrom,
    foldl_reset_filter (flagsFrom level n), filter_flagsFrom]
  split <;> rfl

/-- What a block holds: guards that each found the level of their time. -/
structure Held (level : Bool) (f : Frame) (p : Progress σ) : Prop where
  guards : f.guards = flagsFrom level f.guards.length
  level_eq : p.gate.isPrivileged = (level || decide (0 < f.guards.length))

theorem Held.empty {level : Bool} {p : Progress σ} (h : p.gate.isPrivileged = level) : Held level .empty p :=
  ⟨rfl, by simp [h, Frame.empty]⟩

/-- A block sees the context privileged if the program started so or any region is alive. -/
theorem Held.before {base level : Bool} {outer : Nat} {f : Frame} {p : Progress σ}
    (h : Held level f p) (hl : level = (base || decide (0 < outer))) :
    p.gate.isPrivileged = (base || decide (0 < outer + f.guards.length)) := by
  have hpos : (0 < outer ∨ 0 < f.guards.length) ↔ 0 < outer + f.guards.length := by omega
  rw [h.level_eq, hl, Bool.or_assoc, ← Bool.decide_or, decide_eq_decide.2 hpos]

/-- The context once a block that started at a level has dropped its guards. -/
def settle (level : Bool) (f : Frame) (c : σ) : σ :=
  if level || f.guards.length = 0 then c else PrivilegeContext.setPrivileged false c

@[simp] theorem settle_empty (level : Bool) (c : σ) : settle level .empty c = c := by simp [settle, Frame.empty]

/-- Up to machine level and back. -/
def roundTrip (c : σ) : σ := PrivilegeContext.setPrivileged false (PrivilegeContext.setPrivileged true c)

theorem perform_eq_none {a : Action} {f : Frame} {p : Progress σ} (h : a.perform f p = none) : a = .panic := by
  cases a with
  | panic => rfl
  | drop oldest => rw [Action.perform] at h; split at h <;> cases h
  | dropAt place => rw [Action.perform] at h; split at h <;> cases h
  | _ => cases h

/-! ## Pieces of an account -/

/-- A piece of the account of a block in a program that started at `base`: the settled context makes one round
trip for each outermost region. -/
structure Segment (base level : Bool) (account : List Sighting) (start stop : σ) : Prop where
  before : ∀ s ∈ account, s.before = (base || decide (0 < s.live))
  after : ∀ s ∈ account, s.visit.isBlock = true → s.after = s.before
  context : stop = if level then start else roundTrip^[outermost account] start

theorem Segment.nil (base level : Bool) (c : σ) : Segment base level [] c c :=
  ⟨nofun, nofun, by cases level <;> rfl⟩

theorem Segment.append {base level : Bool} {xs ys : List Sighting} {a b c : σ}
    (h : Segment base level xs a b) (h' : Segment base level ys b c) : Segment base level (xs ++ ys) a c := by
  refine ⟨fun s hs => ?_, fun s hs => ?_, ?_⟩
  · rcases List.mem_append.1 hs with hs | hs
    · exact h.before s hs
    · exact h'.before s hs
  · rcases List.mem_append.1 hs with hs | hs
    · exact h.after s hs
    · exact h'.after s hs
  · have hn : outermost (xs ++ ys) = outermost ys + outermost xs := by
      unfold outermost; rw [List.countP_append, Nat.add_comm]
    rw [h'.context, h.context, hn]
    cases level
    · exact (Function.iterate_add_apply ..).symm
    · rfl

/-- While a region is alive around them, steps leave the context alone. -/
theorem Segment.of_live {base level : Bool} {xs : List Sighting} {a b : σ} (h : Segment base true xs a b)
    (hl : ∀ s ∈ xs, 0 < s.live) (c : σ) : Segment base level xs c c := by
  refine ⟨h.before, h.after, ?_⟩
  rw [outermost_of_live hl]
  cases level <;> rfl

/-- A step that takes a region: the settled context makes a round trip if no region was alive. -/
theorem Held.opening {base level after : Bool} {outer : Nat} {visit : Visit} {f : Frame} {p : Progress σ} {stop : σ}
    (h : Held level f p) (hl : level = (base || decide (0 < outer))) (hv : visit.opens = true)
    (hafter : visit.isBlock = true → after = p.gate.isPrivileged)
    (hstop : stop = if level || decide (0 < f.guards.length) then settle level f p.gate.context
      else roundTrip (settle level f p.gate.context)) :
    Segment base level [⟨visit, outer + f.guards.length, p.gate.isPrivileged, after⟩]
      (settle level f p.gate.context) stop := by
  refine ⟨by simpa using h.before hl, by simpa using hafter, ?_⟩
  rw [hstop]
  cases level with
  | true => rfl
  | false =>
    obtain ⟨rfl, rfl⟩ : base = false ∧ outer = 0 := by simpa [Nat.pos_iff_ne_zero] using hl.symm
    by_cases hn : f.guards.length = 0 <;> simp [hn, outermost, hv, Nat.pos_iff_ne_zero]

/-- Any other step: the settled context stays. -/
theorem Held.quiet {base level after : Bool} {outer : Nat} {visit : Visit} {f : Frame} {p : Progress σ} {stop : σ}
    (h : Held level f p) (hl : level = (base || decide (0 < outer))) (hv : visit.opens = false)
    (hafter : visit.isBlock = true → after = p.gate.isPrivileged) (hstop : stop = settle level f p.gate.context) :
    Segment base level [⟨visit, outer + f.guards.length, p.gate.isPrivileged, after⟩]
      (settle level f p.gate.context) stop := by
  refine ⟨by simpa using h.before hl, by simpa using hafter, ?_⟩
  have hnone : outermost [⟨visit, outer + f.guards.length, p.gate.isPrivileged, after⟩] = 0 := by
    simp [outermost, hv]
  rw [hstop, hnone]
  cases level <;> rfl

theorem Held.catching {base level : Bool} {outer : Nat} {f : Frame} {p : Progress σ} {body : Program}
    (h : Held level f p) (hl : level = (base || decide (0 < outer)))
    (inner : Segment base p.gate.isPrivileged (body.account (outer + f.guards.length) .empty p) p.gate.context
      (body.run .empty p).2.gate.context)
    (hinner : (body.run .empty p).2.gate.isPrivileged = p.gate.isPrivileged) :
    Held level f (body.run .empty p).2 ∧
      Segment base level
        (⟨.catching, outer + f.guards.length, p.gate.isPrivileged, (body.run .empty p).2.gate.isPrivileged⟩ ::
          body.account (outer + f.guards.length) .empty p)
        (settle level f p.gate.context) (settle level f (body.run .empty p).2.gate.context) := by
  have hlevel := h.level_eq
  refine ⟨⟨h.guards, hinner.trans hlevel⟩, (h.quiet hl rfl (fun _ => hinner) rfl).append ?_⟩
  by_cases hn : f.guards.length = 0
  · obtain rfl : p.gate.isPrivileged = level := by simpa [hn] using hlevel
    simpa [settle, hn] using inner
  · have htrue : p.gate.isPrivileged = true := by simpa [Nat.pos_iff_ne_zero, hn] using hlevel
    rw [htrue] at inner
    have hkept : (body.run .empty p).2.gate.context = p.gate.context := by simpa using inner.context
    rw [hkept]
    refine inner.of_live (fun s hs => ?_) _
    have := (mem_account body _ _ _ s hs).1
    omega

variable [LawfulPrivilegeContext σ]

/-- Dropping all guards, in either order, gives back the level of the start and the settled context. -/
theorem Held.dropAll {level : Bool} {f : Frame} {p : Progress σ} (h : Held level f p) :
    (p.dropAll f.guards).gate.isPrivileged = level ∧
      (p.dropAll f.guards).gate.context = settle level f p.gate.context ∧
      p.dropAll f.guards.reverse = p.dropAll f.guards := by
  obtain ⟨h1, h2⟩ := dropAll_flagsFrom level f.guards.length p
  rw [← h.guards] at h1 h2
  refine ⟨?_, ?_, h2⟩
  · rw [h1]
    by_cases hn : level || f.guards.length = 0
    · simp only [hn, if_true, h.level_eq]
      cases level
      · simp at hn; simp [hn]
      · rfl
    · simp only [hn]
      have hl : level = false := by cases level <;> simp_all
      simp [isPrivileged_reset, hl]
  · rw [h1, settle]
    by_cases hn : level || f.guards.length = 0
    · simp only [hn, if_true]
    · simp only [hn, Bool.false_eq_true, if_false, context_reset]

/-- Taking a guard takes the settled context on a round trip if no region was alive. -/
theorem Held.guard {level : Bool} {f : Frame} {p : Progress σ} (e : Note) (h : Held level f p) :
    Held level { f with guards := p.gate.raise.1 :: f.guards } (Progress.note e { p with gate := p.gate.raise.2 }) ∧
      settle level { f with guards := p.gate.raise.1 :: f.guards } p.gate.raise.2.context =
        if level || decide (0 < f.guards.length) then settle level f p.gate.context
        else roundTrip (settle level f p.gate.context) := by
  refine ⟨⟨?_, ?_⟩, ?_⟩
  · show p.gate.raise.1 :: f.guards = (level || decide (0 < f.guards.length)) :: flagsFrom level f.guards.length
    rw [raise_fst, h.level_eq, ← h.guards]
  · show p.gate.raise.2.isPrivileged = _
    rw [isPrivileged_raise]
    simp
  · rw [context_raise, h.level_eq]
    unfold settle roundTrip
    cases level with
    | true => simp
    | false => by_cases hn : f.guards.length = 0 <;> simp [hn, Nat.pos_iff_ne_zero]

theorem Held.drop {level was : Bool} {rest : List Bool} {f : Frame} {p : Progress σ} (e : Note)
    (hg : f.guards = was :: rest) (h : Held level f p) :
    Held level { f with guards := rest } (Progress.note e { p with gate := p.gate.reset was }) ∧
      settle level { f with guards := rest } (p.gate.reset was).context = settle level f p.gate.context := by
  have hf := h.guards
  rw [hg, List.length_cons, flagsFrom] at hf
  obtain ⟨hwas, hrest⟩ := List.cons.inj hf
  have hp : p.gate.isPrivileged = true := by rw [h.level_eq, hg]; simp
  refine ⟨⟨hrest, ?_⟩, ?_⟩
  · show (p.gate.reset was).isPrivileged = (level || decide (0 < rest.length))
    rw [isPrivileged_reset, hp, Bool.and_true, hwas]
  · rw [context_reset, hwas]
    unfold settle
    rw [hg]
    cases level with
    | true => simp
    | false => cases rest <;> simp

theorem Held.perform {base level : Bool} {outer : Nat} {a : Action} {f f' : Frame} {p q : Progress σ}
    (hl : level = (base || decide (0 < outer))) (ha : a.isStructured = true) (h : Held level f p)
    (hp : a.perform f p = some (f', q)) :
    Held level f' q ∧
      Segment base level [⟨.action a, outer + f.guards.length, p.gate.isPrivileged, q.gate.isPrivileged⟩]
        (settle level f p.gate.context) (settle level f' q.gate.context) := by
  cases a with
  | guard =>
    obtain ⟨rfl, rfl⟩ := Prod.mk.inj (Option.some.inj hp)
    obtain ⟨held, settled⟩ := h.guard (.guarded p.gate.raise.1)
    exact ⟨held, h.opening hl rfl nofun settled⟩
  | drop oldest =>
    obtain rfl : oldest = false := by simpa [Action.isStructured] using ha
    rw [Action.perform] at hp
    cases hg : f.guards with
    | nil =>
      rw [hg] at hp
      obtain ⟨rfl, rfl⟩ := Prod.mk.inj (Option.some.inj hp)
      rw [← hg]
      exact ⟨⟨h.guards, h.level_eq⟩, h.quiet hl rfl nofun rfl⟩
    | cons was rest =>
      rw [hg] at hp
      obtain ⟨rfl, rfl⟩ := Prod.mk.inj (Option.some.inj hp)
      obtain ⟨held, settled⟩ := h.drop (.dropped true) hg
      rw [← congrArg List.length hg]
      exact ⟨held, h.quiet hl rfl nofun settled⟩
  | panic => cases hp
  | _ => cases ha

/-! ## Ends of blocks -/

/-- A block ends: what it holds is dropped newest first. -/
theorem Held.finish {base level : Bool} {account : List Sighting} {start : σ} {f : Frame} {p : Progress σ}
    (h : Held level f p) (segment : Segment base level account start (settle level f p.gate.context)) :
    Segment base level account start (p.dropAll f.guards).gate.context ∧
      (p.dropAll f.guards).gate.isPrivileged = level := by
  obtain ⟨hlevel, hcontext, _⟩ := h.dropAll
  exact ⟨hcontext ▸ segment, hlevel⟩

/-- A panic leaves a block: what it holds is dropped oldest first, to the same effect. -/
theorem Held.unwind {base level : Bool} {account : List Sighting} {start : σ} {f : Frame} {p : Progress σ}
    (h : Held level f p) (segment : Segment base level account start (settle level f p.gate.context)) :
    Segment base level account start (p.dropAll f.guards.reverse).gate.context ∧
      (p.dropAll f.guards.reverse).gate.isPrivileged = level := by
  rw [h.dropAll.2.2]
  exact h.finish segment

/-- A region around a body that keeps the context: a round trip, if it was entered at user level. -/
theorem region_of_kept {body : Program} {p : Progress σ}
    (hl : (body.run .empty p.enter).2.gate.isPrivileged = true)
    (hc : (body.run .empty p.enter).2.gate.context = p.enter.gate.context) :
    (body.region p).2.gate.isPrivileged = p.gate.isPrivileged ∧
      (body.region p).2.gate.context = if p.gate.isPrivileged then p.gate.context else roundTrip p.gate.context := by
  rw [region_eq]
  constructor
  · show ((body.run .empty p.enter).2.gate.reset p.gate.isPrivileged).isPrivileged = _
    rw [isPrivileged_reset, hl, Bool.and_true]
  · show ((body.run .empty p.enter).2.gate.reset p.gate.isPrivileged).context = _
    have he : p.enter.gate.context = p.gate.raise.2.context := rfl
    rw [context_reset, hc, he, context_raise]
    cases p.gate.isPrivileged <;> rfl

/-- All that is left of the steps inside a region is the round trip of the region itself. -/
theorem Held.region {base level : Bool} {outer : Nat} {f : Frame} {p : Progress σ} {body : Program}
    (h : Held level f p) (hl : level = (base || decide (0 < outer)))
    (inner : Segment base true (body.account (outer + f.guards.length + 1) .empty p.enter) p.enter.gate.context
      (body.run .empty p.enter).2.gate.context)
    (hinner : (body.run .empty p.enter).2.gate.isPrivileged = true) :
    Held level f (body.region p).2 ∧
      Segment base level
        (⟨.region, outer + f.guards.length, p.gate.isPrivileged, (body.region p).2.gate.isPrivileged⟩ ::
          body.account (outer + f.guards.length + 1) .empty p.enter)
        (settle level f p.gate.context) (settle level f (body.region p).2.gate.context) := by
  obtain ⟨hlevel, hcontext⟩ := region_of_kept hinner (by simpa using inner.context)
  have hlive : ∀ s ∈ body.account (outer + f.guards.length + 1) .empty p.enter, 0 < s.live := fun s hs =>
    Nat.lt_of_lt_of_le (Nat.succ_pos _) (mem_account body _ _ _ s hs).1
  refine ⟨⟨h.guards, hlevel.trans h.level_eq⟩,
    (h.opening hl rfl (fun _ => hlevel) ?_).append (inner.of_live hlive _)⟩
  rw [hcontext, h.level_eq]
  -- The settled context is the context itself unless a guard of this block lowers the level.
  unfold settle
  cases level with
  | true => rfl
  | false => by_cases hn : f.guards.length = 0 <;> simp [hn, Nat.pos_iff_ne_zero]

/-- The run of a structured block is a segment, and ends at the level it started at. -/
theorem Held.run {base : Bool} (program : Program) : ∀ {level : Bool} (outer : Nat) {f : Frame} {p : Progress σ},
    level = (base || decide (0 < outer)) → program.isStructured = true → Held level f p →
      Segment base level (program.account outer f p) (settle level f p.gate.context)
          (program.run f p).2.gate.context ∧
        (program.run f p).2.gate.isPrivileged = level := by
  induction program with
  | done =>
    intro level outer f p _ _ h
    exact h.finish (.nil ..)
  | step a next ih =>
    intro level outer f p hl hs h
    obtain ⟨ha, hnext⟩ := Bool.and_eq_true_iff.1 hs
    rw [Program.account, Program.run]
    cases hp : a.perform f p with
    | some fq =>
      obtain ⟨f', q⟩ := fq
      obtain ⟨held, one⟩ := h.perform hl ha hp
      obtain ⟨rest, hlevel⟩ := ih outer hl hnext held
      exact ⟨one.append rest, hlevel⟩
    | none =>
      obtain rfl := perform_eq_none hp
      exact h.unwind (h.quiet hl rfl (fun hblock => absurd hblock Bool.false_ne_true) rfl)
  | within body next ihb ihn =>
    intro level outer f p hl hs h
    obtain ⟨hbody, hnext⟩ := Bool.and_eq_true_iff.1 hs
    -- The body starts with nothing of its own, at machine level, with one more region around it.
    have henter : p.enter.gate.isPrivileged = true := isPrivileged_raise p.gate
    obtain ⟨inner, hinner⟩ := ihb (outer + f.guards.length + 1) (by simp) hbody (Held.empty henter)
    rw [settle_empty] at inner
    obtain ⟨held, one⟩ := h.region hl inner hinner
    rw [Program.account, run_within]
    cases hr : body.region p with
    | mk fault q =>
      rw [hr] at held one
      cases fault with
      | none =>
        obtain ⟨rest, hend⟩ := ihn outer (p := q.note (.left body.length)) hl hnext ⟨held.guards, held.level_eq⟩
        exact ⟨one.append rest, hend⟩
      | some fault =>
        obtain ⟨rest, hend⟩ := held.unwind one
        exact ⟨by simpa using rest, hend⟩
  | catching body next ihb ihn =>
    intro level outer f p hl hs h
    obtain ⟨hbody, hnext⟩ := Bool.and_eq_true_iff.1 hs
    -- A caught block starts at whatever level is here; the guards held here are regions around it.
    obtain ⟨inner, hinner⟩ := ihb (outer + f.guards.length) (h.before hl) hbody (Held.empty rfl)
    rw [settle_empty] at inner
    obtain ⟨held, one⟩ := h.catching hl inner hinner
    obtain ⟨rest, hend⟩ := ihn outer (p := (body.run .empty p).2.note (.caught (body.run .empty p).1)) hl hnext
      ⟨held.guards, held.level_eq⟩
    exact ⟨one.append rest, hend⟩

/-! ## Structured regions -/

theorem counting_roundTrip (n : Nat) {c : Counting} (h : c.level = false) :
    roundTrip^[n] c = ⟨false, c.raises + n, c.resets + n⟩ := by
  induction n generalizing c with
  | zero => cases c; cases h; rfl
  | succ n ih =>
    rw [Function.iterate_succ_apply]
    have hone : roundTrip c = ⟨false, c.raises + 1, c.resets + 1⟩ := rfl
    rw [hone, ih rfl]
    simp only [Counting.mk.injEq, true_and]
    omega

/-- Structured programs: while a region is alive every step sees the context privileged, every region and
block gives back the level it found, and the context makes one round trip for each outermost region, or none
if it was privileged from the start. -/
theorem structured_regions (program : Program) (hs : program.isStructured = true) :
    (∀ (σ : Type) [PrivilegeContext σ] [LawfulPrivilegeContext σ] (g : Gate σ),
      (∀ s ∈ program.account 0 .empty ⟨g, []⟩, s.before = (g.isPrivileged || decide (0 < s.live))) ∧
      (∀ s ∈ program.account 0 .empty ⟨g, []⟩, s.visit.isBlock = true → s.after = s.before) ∧
      (program.runOn g).2.gate.isPrivileged = g.isPrivileged ∧
      (program.runOn g).2.gate.context =
        if g.isPrivileged then g.context
        else roundTrip^[outermost (program.account 0 .empty ⟨g, []⟩)] g.context) ∧
    ∀ g : Gate Counting, (program.runOn g).2.gate.context =
      if g.isPrivileged then g.context
      else ⟨false, g.context.raises + outermost (program.account 0 .empty ⟨g, []⟩),
        g.context.resets + outermost (program.account 0 .empty ⟨g, []⟩)⟩ := by
  -- A whole program is a block that holds nothing, with no region around it.
  have hrun : ∀ (σ : Type) [PrivilegeContext σ] [LawfulPrivilegeContext σ] (g : Gate σ),
      Segment g.isPrivileged g.isPrivileged (program.account 0 .empty ⟨g, []⟩) g.context
          (program.runOn g).2.gate.context ∧ (program.runOn g).2.gate.isPrivileged = g.isPrivileged := by
    intro σ _ _ g
    simpa [Program.runOn] using Held.run (p := ⟨g, []⟩) program 0 (by simp) hs (Held.empty rfl)
  constructor
  · intro σ _ _ g
    obtain ⟨segment, hlevel⟩ := hrun σ g
    exact ⟨segment.before, segment.after, hlevel, segment.context⟩
  · intro g
    rw [(hrun Counting g).1.context]
    cases hg : g.isPrivileged with
    | true => rfl
    | false => exact counting_roundTrip _ hg

/-- Caught and uncaught panics that unwind guards and regions, and an empty region. -/
def threeRegions : Program :=
  .within
    (.step .guard
      (.catching (.step .guard (.step .guard (.within (.step .guard (.step .panic .done)) .done)))
        (.step (.drop false) .done)))
    (.within .done (.step .guard (.step .panic .done)))

theorem structured_threeRegions :
    threeRegions.isStructured = true ∧ (threeRegions.runOn (around (Counting.start false))).1 = some panicked ∧
      (threeRegions.runOn (around (Counting.start false))).2.gate.context = ⟨false, 3, 3⟩ ∧
      ∀ s ∈ threeRegions.account 0 .empty ⟨around Hart.boot, []⟩, s.before = decide (0 < s.live) := by
  obtain ⟨hall, hcounts⟩ := structured_regions threeRegions rfl
  have hcounting := hcounts (around (Counting.start false))
  have hn : outermost (threeRegions.account 0 .empty ⟨around (Counting.start false), []⟩) = 3 := by decide
  rw [hn] at hcounting
  exact ⟨rfl, by decide, hcounting, (hall Hart (around Hart.boot)).1⟩

end Sallyport.Gate
