/-
Regions that overlap in any way: each raises once and later resets with the flag its own raise returned.
At any time at most one region alive holds a false flag, and it does exactly while the context is above
the level it started at (`Stands`).
-/
import Mathlib.Data.List.Induction
import Sallyport.Proofs.Gate.Structured

namespace Sallyport.Gate

variable {σ : Type}

/-! ## Calls on behalf of regions -/

/-- A call of the gate for one of many regions, which are told apart by numbers. -/
inductive RegionCall where
  | raise (region : Nat)
  | reset (region : Nat)
  deriving DecidableEq, Repr

namespace RegionCall

def region : RegionCall → Nat
  | .raise n => n
  | .reset n => n

/-- The calls made for one region. -/
def only (n : Nat) (calls : List RegionCall) : List RegionCall := calls.filter fun c => c.region = n

theorem only_concat_raise (n : Nat) (calls : List RegionCall) :
    only n (calls ++ [.raise n]) = only n calls ++ [.raise n] := by
  simp [only, region]

theorem only_concat_reset (n : Nat) (calls : List RegionCall) :
    only n (calls ++ [.reset n]) = only n calls ++ [.reset n] := by
  simp [only, region]

theorem only_concat_of_ne {n : Nat} (calls : List RegionCall) {c : RegionCall} (h : n ≠ c.region) :
    only n (calls ++ [c]) = only n calls := by
  simp [only, Ne.symm h]

/-- Every region that is named raises, and resets once after that. -/
def Paired (calls : List RegionCall) : Prop := ∀ n, only n calls = [] ∨ only n calls = [.raise n, .reset n]

/-- So far every region has done the first part of that, or all of it. -/
def Started (calls : List RegionCall) : Prop := ∀ n, only n calls <+: [.raise n, .reset n]

/-- A region that has raised and not yet reset. -/
def Alive (calls : List RegionCall) (n : Nat) : Prop := only n calls = [.raise n]

theorem Paired.started {calls : List RegionCall} (h : Paired calls) : Started calls := by
  intro n
  rcases h n with hn | hn
  · simp [hn]
  · simp [hn]

theorem Paired.not_alive {calls : List RegionCall} (h : Paired calls) (n : Nat) : ¬ Alive calls n := by
  intro hn
  unfold Alive at hn
  rcases h n with h | h
  · rw [h] at hn
    cases hn
  · rw [h] at hn
    cases hn

variable {past : List RegionCall} {c : RegionCall} {n : Nat}

theorem Started.of_concat (h : Started (past ++ [c])) : Started past := by
  intro n
  refine List.IsPrefix.trans ?_ (h n)
  rw [only, only, List.filter_append]
  exact List.prefix_append ..

theorem Started.only_of_raise (h : Started (past ++ [.raise n])) : only n past = [] := by
  obtain ⟨rest, hrest⟩ := h n
  rw [only_concat_raise] at hrest
  rcases hp : only n past with _ | ⟨a, _ | ⟨b, l⟩⟩
  · rfl
  · simp [hp] at hrest
  · simp [hp] at hrest

theorem Started.alive_of_reset (h : Started (past ++ [.reset n])) : Alive past n := by
  obtain ⟨rest, hrest⟩ := h n
  rw [only_concat_reset] at hrest
  unfold Alive
  rcases hp : only n past with _ | ⟨a, _ | ⟨b, l⟩⟩
  · simp [hp] at hrest
  · simp only [hp, List.cons_append, List.nil_append, List.cons.injEq] at hrest
    rw [hrest.1]
  · simp [hp] at hrest

theorem alive_concat_of_ne (h : n ≠ c.region) : Alive (past ++ [c]) n ↔ Alive past n := by
  unfold Alive
  rw [only_concat_of_ne past h]

theorem Started.alive_raise_iff (h : Started (past ++ [.raise n])) (m : Nat) :
    Alive (past ++ [.raise n]) m ↔ m = n ∨ Alive past m := by
  by_cases hmn : m = n
  · subst hmn
    simp [Alive, only_concat_raise, h.only_of_raise]
  · simp [alive_concat_of_ne (c := .raise n) hmn, hmn]

theorem alive_reset_iff (n m : Nat) : Alive (past ++ [.reset n]) m ↔ m ≠ n ∧ Alive past m := by
  by_cases hmn : m = n
  · subst hmn
    simp [Alive, only_concat_reset, List.append_eq_singleton_iff]
  · simp [alive_concat_of_ne (c := .reset n) hmn, hmn]

end RegionCall

open RegionCall

/-! ## Running the calls -/

/-- The gate, and what the raise of each region returned, newest first. -/
structure Ledger (σ : Type) where
  gate : Gate σ
  returned : List (Nat × Bool)

namespace Ledger

/-- How many raises found user level. -/
def userRaises (s : Ledger σ) : Nat := s.returned.countP fun r => !r.2

variable [PrivilegeContext σ]

/-- Makes a call; a reset is handed what the raise of its region returned. -/
def call (s : Ledger σ) : RegionCall → Ledger σ
  | .raise n => ⟨s.gate.raise.2, (n, s.gate.raise.1) :: s.returned⟩
  | .reset n => { s with gate := s.gate.reset ((s.returned.lookup n).getD false) }

/-- Makes calls one after another, from a gate at which no region is alive. -/
def run (calls : List RegionCall) (start : Gate σ) : Ledger σ := calls.foldl call ⟨start, []⟩

theorem run_concat (calls : List RegionCall) (c : RegionCall) (start : Gate σ) :
    run (calls ++ [c]) start = (run calls start).call c := by
  rw [run, List.foldl_append]
  rfl

theorem lookup_call_raise (s : Ledger σ) (n m : Nat) :
    (s.call (.raise n)).returned.lookup m = if m = n then some s.gate.isPrivileged else s.returned.lookup m := by
  rw [call, List.lookup_cons, raise_fst]
  by_cases hmn : m = n
  · simp [hmn]
  · simp [hmn, beq_false_of_ne hmn]

theorem userRaises_call_raise (s : Ledger σ) (n : Nat) :
    (s.call (.raise n)).userRaises = s.userRaises + if s.gate.isPrivileged then 0 else 1 := by
  rw [userRaises, call, List.countP_cons, raise_fst]
  cases s.gate.isPrivileged <;> rfl

/-- A reset that is handed a true flag is none. -/
theorem call_reset_of_true {s : Ledger σ} {n : Nat} (h : s.returned.lookup n = some true) : s.call (.reset n) = s := by
  rw [call, h]
  rfl

theorem call_reset_of_false {s : Ledger σ} {n : Nat} (h : s.returned.lookup n = some false) :
    s.call (.reset n) = { s with gate := s.gate.reset false } := by
  rw [call, h]
  rfl

/-! ## At most one false flag is alive -/

/-- The state after some calls. `low` is the region alive with a false flag, and there is one exactly while
the level is above that of the start. -/
structure Stands (start : Gate σ) (past : List RegionCall) (low : Option Nat) (s : Ledger σ) : Prop where
  level_eq : s.gate.isPrivileged = (start.isPrivileged || low.isSome)
  flag_eq : ∀ n, Alive past n → s.returned.lookup n = some (decide (low ≠ some n))
  alive : ∀ n, low = some n → Alive past n
  context_eq : (if low.isSome then PrivilegeContext.setPrivileged false s.gate.context else s.gate.context) =
    roundTrip^[s.userRaises] start.context
  privileged : start.isPrivileged = true → low = none ∧ s.userRaises = 0

variable {start : Gate σ} {past : List RegionCall} {low : Option Nat} {s : Ledger σ} {n : Nat}

theorem Stands.finish {calls : List RegionCall} (h : Stands start calls low s) (hp : Paired calls) :
    s.gate.isPrivileged = start.isPrivileged ∧ s.gate.context = roundTrip^[s.userRaises] start.context := by
  cases low with
  | some n => exact absurd (h.alive n rfl) (hp.not_alive n)
  | none => exact ⟨h.level_eq.trans (Bool.or_false _), h.context_eq⟩

variable [LawfulPrivilegeContext σ]

theorem Stands.raise_privileged (h : Stands start past low s) (hs : Started (past ++ [.raise n]))
    (hlevel : s.gate.isPrivileged = true) : Stands start (past ++ [.raise n]) low (s.call (.raise n)) := by
  have hcontext : (s.call (.raise n)).gate.context = s.gate.context := by
    rw [call, context_raise, hlevel, if_pos rfl]
  have hcount : (s.call (.raise n)).userRaises = s.userRaises := by
    rw [userRaises_call_raise, hlevel, if_pos rfl, Nat.add_zero]
  -- The region has done nothing so far, so it cannot be the one alive with a false flag.
  have hfresh : low ≠ some n := by
    intro hlow
    cases hs.only_of_raise.symm.trans (h.alive n hlow)
  refine ⟨?_, ?_, ?_, ?_, ?_⟩
  · rw [← h.level_eq, hlevel]
    exact isPrivileged_raise s.gate
  · intro m hm
    rw [lookup_call_raise]
    by_cases hmn : m = n
    · simp [hmn, hlevel, hfresh]
    · rw [if_neg hmn]
      exact h.flag_eq m ((alive_concat_of_ne (c := .raise n) hmn).1 hm)
  · intro m hm
    exact (hs.alive_raise_iff m).2 (.inr (h.alive m hm))
  · rw [hcontext, hcount]
    exact h.context_eq
  · rw [hcount]
    exact h.privileged

/-- After a raise that finds user level, its region is the one with the false flag. -/
theorem Stands.raise_user (h : Stands start past low s) (hs : Started (past ++ [.raise n]))
    (hlevel : s.gate.isPrivileged = false) : Stands start (past ++ [.raise n]) (some n) (s.call (.raise n)) := by
  -- User level leaves no room for another false flag, nor for a privileged start.
  obtain ⟨hstart, hlow⟩ : start.isPrivileged = false ∧ low.isSome = false := by
    rw [← Bool.or_eq_false_iff, ← h.level_eq, hlevel]
  obtain rfl : low = none := by simpa using hlow
  have hcontext : (s.call (.raise n)).gate.context = PrivilegeContext.setPrivileged true s.gate.context := by
    rw [call, context_raise, hlevel]
    rfl
  have hcount : (s.call (.raise n)).userRaises = s.userRaises + 1 := by
    rw [userRaises_call_raise, hlevel]
    rfl
  refine ⟨?_, ?_, ?_, ?_, ?_⟩
  · rw [hstart]
    exact isPrivileged_raise s.gate
  · intro m hm
    rw [lookup_call_raise]
    by_cases hmn : m = n
    · simp [hmn, hlevel]
    · rw [if_neg hmn, h.flag_eq m ((alive_concat_of_ne (c := .raise n) hmn).1 hm)]
      simp [Ne.symm hmn]
  · intro m hm
    exact (hs.alive_raise_iff m).2 (.inl (Option.some.inj hm).symm)
  · have hbefore : s.gate.context = roundTrip^[s.userRaises] start.context := h.context_eq
    rw [hcount, Function.iterate_succ_apply', ← hbefore, hcontext]
    rfl
  · intro hpriv
    cases hstart.symm.trans hpriv

/-- A reset takes the context down exactly if its region holds the false flag; then nobody does. -/
theorem Stands.reset (h : Stands start past low s) (hs : Started (past ++ [.reset n])) :
    Stands start (past ++ [.reset n]) (if low = some n then none else low) (s.call (.reset n)) := by
  have hflag := h.flag_eq n hs.alive_of_reset
  by_cases hlow : low = some n
  · subst hlow
    have hstart : start.isPrivileged = false := by
      cases hpriv : start.isPrivileged with
      | false => rfl
      | true => cases (h.privileged hpriv).1
    rw [if_pos rfl, call_reset_of_false (by simpa using hflag)]
    refine ⟨?_, ?_, nofun, ?_, ?_⟩
    · rw [isPrivileged_reset, hstart]
      rfl
    · intro m hm
      obtain ⟨hmn, hm⟩ := (alive_reset_iff n m).1 hm
      rw [h.flag_eq m hm]
      simp [Ne.symm hmn]
    · rw [context_reset]
      exact h.context_eq
    · intro hpriv
      cases hstart.symm.trans hpriv
  · rw [if_neg hlow, call_reset_of_true (by simpa [hlow] using hflag)]
    refine ⟨h.level_eq, ?_, ?_, h.context_eq, h.privileged⟩
    · intro m hm
      exact h.flag_eq m ((alive_reset_iff n m).1 hm).2
    · intro m hm
      refine (alive_reset_iff n m).2 ⟨?_, h.alive m hm⟩
      rintro rfl
      exact hlow hm

theorem stands_run (start : Gate σ) (calls : List RegionCall) (h : Started calls) :
    ∃ low, Stands start calls low (run calls start) := by
  induction calls using List.reverseRecOn with
  | nil =>
    refine ⟨none, (Bool.or_false _).symm, ?_, nofun, rfl, fun _ => ⟨rfl, rfl⟩⟩
    intro n hn
    cases hn
  | append_singleton calls c ih =>
    obtain ⟨low, hstands⟩ := ih h.of_concat
    rw [run_concat]
    cases c with
    | raise n =>
      cases hlevel : (run calls start).gate.isPrivileged with
      | true => exact ⟨low, hstands.raise_privileged h hlevel⟩
      | false => exact ⟨some n, hstands.raise_user h hlevel⟩
    | reset n => exact ⟨_, hstands.reset h⟩

end Ledger

/-! ## Overlapping regions -/

/-- Regions that overlap in any way restore the level. If every region raises once and then resets with the
flag of its own raise, the level at the end is that of the start, after one round trip for each raise that
returned false. -/
theorem overlapping_regions_restore_level (calls : List RegionCall) (h : Paired calls) :
    (∀ (σ : Type) [PrivilegeContext σ] [LawfulPrivilegeContext σ] (g : Gate σ),
      (Ledger.run calls g).gate.isPrivileged = g.isPrivileged ∧
      (Ledger.run calls g).gate.context = roundTrip^[(Ledger.run calls g).userRaises] g.context ∧
      (g.isPrivileged = true →
        (Ledger.run calls g).userRaises = 0 ∧ (Ledger.run calls g).gate.context = g.context)) ∧
    ∀ g : Gate Counting, (Ledger.run calls g).gate.context =
      ⟨g.context.level, g.context.raises + (Ledger.run calls g).userRaises,
        g.context.resets + (Ledger.run calls g).userRaises⟩ := by
  have hrun : ∀ (σ : Type) [PrivilegeContext σ] [LawfulPrivilegeContext σ] (g : Gate σ),
      (Ledger.run calls g).gate.isPrivileged = g.isPrivileged ∧
      (Ledger.run calls g).gate.context = roundTrip^[(Ledger.run calls g).userRaises] g.context ∧
      (g.isPrivileged = true → (Ledger.run calls g).userRaises = 0) := by
    intro σ _ _ g
    obtain ⟨low, hstands⟩ := Ledger.stands_run g calls h.started
    obtain ⟨hlevel, hcontext⟩ := hstands.finish h
    exact ⟨hlevel, hcontext, fun hpriv => (hstands.privileged hpriv).2⟩
  constructor
  · intro σ _ _ g
    obtain ⟨hlevel, hcontext, hnone⟩ := hrun σ g
    refine ⟨hlevel, hcontext, fun hpriv => ⟨hnone hpriv, ?_⟩⟩
    rw [hcontext, hnone hpriv]
    rfl
  · intro g
    obtain ⟨-, hcontext, hnone⟩ := hrun Counting g
    -- A round trip ends at user level, so it leaves the level of the start only where that is the start.
    cases hlevel : g.context.level with
    | true =>
      rw [hcontext, hnone hlevel, ← hlevel]
      rfl
    | false => rw [hcontext, counting_roundTrip _ hlevel]

/-- No two of these regions nest, and the third finds user level while the second is alive. -/
def threeOverlapping : List RegionCall :=
  [.raise 0, .raise 1, .reset 0, .raise 2, .reset 1, .reset 2]

theorem overlapping_threeOverlapping :
    Paired threeOverlapping ∧
      (Ledger.run threeOverlapping (around (Counting.start false))).returned = [(2, false), (1, true), (0, false)] ∧
      (Ledger.run threeOverlapping (around (Counting.start false))).gate.context = ⟨false, 2, 2⟩ ∧
      (Ledger.run threeOverlapping (around Hart.boot)).gate.isPrivileged = false := by
  have hp : Paired threeOverlapping := by
    intro n
    match n with
    | 0 => exact .inr rfl
    | 1 => exact .inr rfl
    | 2 => exact .inr rfl
    | n + 3 => exact .inl (by simp [threeOverlapping, only, region])
  obtain ⟨hall, hcounts⟩ := overlapping_regions_restore_level threeOverlapping hp
  have hcounting := hcounts (around (Counting.start false))
  have htwo : (Ledger.run threeOverlapping (around (Counting.start false))).userRaises = 2 := by decide
  rw [htwo] at hcounting
  exact ⟨hp, by decide, hcounting, (hall Hart (around Hart.boot)).1⟩

end Sallyport.Gate
