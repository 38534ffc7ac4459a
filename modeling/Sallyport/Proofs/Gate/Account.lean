/-
An account of a run: every step, with the number of regions alive when it starts and the levels before
and after it. On it rests the first law of the gate: in a run of any program whatsoever, every region
that is entered at user level leaves the context at user level.
-/
import Sallyport.Gate.Program
import Sallyport.Proofs.Gate.Level

namespace Sallyport.Gate

variable {σ : Type} [PrivilegeContext σ]

/-! ## Regions as steps -/

/-- The progress right after a region has been entered. -/
def Progress.enter (p : Progress σ) : Progress σ := { p with gate := p.gate.raise.2 }.note .entered

/-- A body inside a region of its own. -/
def Program.region (body : Program) (p : Progress σ) : Option Fault × Progress σ :=
  let ((fault, log), gate) := p.gate.withPrivilege fun gate =>
    let (fault, q) := body.run .empty ({ p with gate }.note .entered)
    ((fault, q.log), q.gate)
  (fault, ⟨gate, log⟩)

theorem region_eq (body : Program) (p : Progress σ) :
    body.region p = ((body.run .empty p.enter).1,
      ⟨(body.run .empty p.enter).2.gate.reset p.gate.isPrivileged, (body.run .empty p.enter).2.log⟩) := by
  rw [Program.region, withPrivilege_eq]
  rfl

theorem run_within (body next : Program) (f : Frame) (p : Progress σ) :
    (Program.within body next).run f p =
      match body.region p with
      | (none, q) => next.run f (q.note (.left body.length))
      | (some fault, q) => (some fault, q.dropAll f.guards.reverse) := by
  rw [Program.run, region_eq, withPrivilege_eq, Progress.enter]
  generalize body.run .empty (Progress.note .entered ⟨p.gate.raise.2, p.log⟩) = left
  obtain ⟨fault, q⟩ := left
  cases fault <;> rfl

/-! ## The account -/

/-- A step of a run: one operation, or a whole inner block. -/
inductive Visit where
  | action (action : Action)
  | region
  | catching
  deriving DecidableEq, Repr

/-- Whether a step takes a region: a guard does until it is dropped, a region until it has ended. -/
def Visit.opens : Visit → Bool
  | .action .guard => true
  | .region => true
  | _ => false

/-- Whether a step is a block of its own. -/
def Visit.isBlock : Visit → Bool
  | .action _ => false
  | .region => true
  | .catching => true

/-- A step as it was made. -/
structure Sighting where
  visit : Visit
  /-- How many regions were alive when the step started. -/
  live : Nat
  /-- The level when the step started. -/
  before : Bool
  /-- The level when the step was over; for a block, once it had ended, normally or by a panic. -/
  after : Bool
  deriving DecidableEq, Repr

/-- The steps of a block in the order they start, inner blocks included, with `outer` regions around it. -/
def Program.account (outer : Nat) : Program → Frame → Progress σ → List Sighting
  | .done, _, _ => []
  | .step action next, f, p =>
    let live := outer + f.guards.length
    match action.perform f p with
    | some (f', q) =>
      ⟨.action action, live, p.gate.isPrivileged, q.gate.isPrivileged⟩ :: next.account outer f' q
    | none => [⟨.action action, live, p.gate.isPrivileged, p.gate.isPrivileged⟩]
  | .within body next, f, p =>
    let live := outer + f.guards.length
    ⟨.region, live, p.gate.isPrivileged, (body.region p).2.gate.isPrivileged⟩ ::
      (body.account (live + 1) .empty p.enter ++
        match body.region p with
        | (none, q) => next.account outer f (q.note (.left body.length))
        | (some _, _) => [])
  | .catching body next, f, p =>
    let live := outer + f.guards.length
    let (fault, q) := body.run .empty p
    ⟨.catching, live, p.gate.isPrivileged, q.gate.isPrivileged⟩ ::
      (body.account live .empty p ++ next.account outer f (q.note (.caught fault)))

/-- Every step sees the regions around the block, and every region is a body that was run inside one. -/
theorem mem_account (program : Program) : ∀ (outer : Nat) (f : Frame) (p : Progress σ),
    ∀ s ∈ program.account outer f p, outer ≤ s.live ∧
      (s.visit = .region → ∃ (body : Program) (q : Progress σ), s.before = q.gate.isPrivileged ∧
        s.after = (body.region q).2.gate.isPrivileged) := by
  induction program with
  | done => intro outer f p s hs; cases hs
  | step action next ih =>
    intro outer f p s hs
    rw [Program.account] at hs
    cases ha : action.perform f p with
    | none =>
      rw [ha, List.mem_singleton] at hs
      subst hs
      exact ⟨Nat.le_add_right .., nofun⟩
    | some fq =>
      obtain ⟨f', q⟩ := fq
      rw [ha] at hs
      rcases List.mem_cons.1 hs with rfl | hs
      · exact ⟨Nat.le_add_right .., nofun⟩
      · exact ih outer f' q s hs
  | within body next ihb ihn =>
    intro outer f p s hs
    rw [Program.account] at hs
    -- The region comes first, then the steps of its body, and then what follows if that returned.
    rcases List.mem_cons.1 hs with rfl | hs
    · exact ⟨Nat.le_add_right .., fun _ => ⟨body, p, rfl, rfl⟩⟩
    rcases List.mem_append.1 hs with hs | hs
    · obtain ⟨h1, h2⟩ := ihb _ _ _ s hs
      exact ⟨by omega, h2⟩
    · split at hs
      · exact ihn outer f _ s hs
      · cases hs
  | catching body next ihb ihn =>
    intro outer f p s hs
    rw [Program.account] at hs
    rcases List.mem_cons.1 hs with rfl | hs
    · exact ⟨Nat.le_add_right .., nofun⟩
    rcases List.mem_append.1 hs with hs | hs
    · obtain ⟨h1, h2⟩ := ihb _ _ _ s hs
      exact ⟨by omega, h2⟩
    · exact ihn outer f _ s hs

/-! ## No privilege leaks -/

variable [LawfulPrivilegeContext σ]

theorem isPrivileged_region_of_user (body : Program) {p : Progress σ} (h : p.gate.isPrivileged = false) :
    (body.region p).2.gate.isPrivileged = false := by
  let inside : Gate σ → (Option Fault × List Entry) × Gate σ := fun gate =>
    let (fault, q) := body.run .empty ({ p with gate }.note .entered)
    ((fault, q.log), q.gate)
  exact isPrivileged_withPrivilege_of_user inside h

/-- No privilege leaks: a region entered at user level leaves the context at user level, whatever its body is
and however it ended, and so does every region inside it. -/
theorem region_leaves_user_level (body : Program) (p : Progress σ) (h : p.gate.isPrivileged = false) :
    (body.region p).2.gate.isPrivileged = false ∧
      ∀ s ∈ body.account 1 .empty p.enter, s.visit = .region → s.before = false → s.after = false := by
  refine ⟨isPrivileged_region_of_user body h, fun s hs hv hb => ?_⟩
  obtain ⟨inner, q, hq, ha⟩ := (mem_account body 1 .empty p.enter s hs).2 hv
  rw [ha]
  exact isPrivileged_region_of_user inner (hq ▸ hb)

/-- A body that raises for good, drops guards out of order, sets the level, and panics inside and out. -/
def reckless : Program :=
  .step .raise (.step (.set false) (.step .guard (.step .guard (.step (.drop true)
    (.catching (.step (.set false) (.within (.step (.set true) (.step .panic .done)) .done))
      (.step (.set true) (.step .panic .done)))))))

theorem reckless_leaves_user_level :
    (around Hart.boot).isPrivileged = false ∧ (reckless.region ⟨around Hart.boot, []⟩).1 = some panicked ∧
      (reckless.region ⟨around Hart.boot, []⟩).2.gate.isPrivileged = false ∧
      ∀ s ∈ reckless.account 1 .empty (Progress.enter ⟨around Hart.boot, []⟩),
        s.visit = .region → s.before = false → s.after = false := by
  have h : (around Hart.boot).isPrivileged = false := rfl
  obtain ⟨hend, hinner⟩ := region_leaves_user_level reckless ⟨around Hart.boot, []⟩ h
  exact ⟨h, by decide, hend, hinner⟩

end Sallyport.Gate
