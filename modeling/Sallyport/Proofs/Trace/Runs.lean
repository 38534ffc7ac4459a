/-
Runs of equal events, cut where they have become as long as a count can say. Being the runs of a list is
stated without a computation (`Groups`); the runs are then computed event by event, and every list has
exactly one such grouping.
-/
import Sallyport.Trace.Ring
import Mathlib.Data.List.Chain
import Mathlib.Data.List.Induction

namespace Sallyport.Trace

variable {α : Type}

/-- Equal events in a row: the event, as its line and payload, and how many there are. -/
structure EventRun (α : Type) where
  event : UInt16 × α
  length : ℕ
  deriving DecidableEq, Repr

namespace EventRun

/-- The most events a run has, which is the largest count of a slot. -/
def limit : ℕ := 0xffffffff

/-- The events of a run. -/
def events (r : EventRun α) : List (UInt16 × α) := List.replicate r.length r.event

/-- Whether an event that comes next belongs to the run. -/
def Takes (r : EventRun α) (e : UInt16 × α) : Prop := r.event = e ∧ r.length < limit

instance [DecidableEq α] (r : EventRun α) (e : UInt16 × α) : Decidable (r.Takes e) := by
  unfold Takes; infer_instance

end EventRun

/-- The runs of a list of events: they make up the list, none is empty or too long, and where one
ends the next has another event, unless the one that ends is full. -/
structure Groups (events : List (UInt16 × α)) (runs : List (EventRun α)) : Prop where
  events_eq : runs.flatMap EventRun.events = events
  bounded : ∀ r ∈ runs, 0 < r.length ∧ r.length ≤ EventRun.limit
  maximal : runs.IsChain fun r s => r.event ≠ s.event ∨ r.length = EventRun.limit

variable [DecidableEq α]

/-! ## Event by event -/

/-- The runs after one more event. -/
def extend (runs : List (EventRun α)) (e : UInt16 × α) : List (EventRun α) :=
  match runs.getLast? with
  | none => [⟨e, 1⟩]
  | some r => if r.Takes e then runs.dropLast ++ [{ r with length := r.length + 1 }] else runs ++ [⟨e, 1⟩]

/-- The runs of a list of events. -/
def runs (events : List (UInt16 × α)) : List (EventRun α) := events.foldl extend []

theorem extend_of_takes {r : EventRun α} {e : UInt16 × α} (h : r.Takes e) (rs : List (EventRun α)) :
    extend (rs ++ [r]) e = rs ++ [⟨e, r.length + 1⟩] := by
  unfold extend
  rw [List.getLast?_concat]
  dsimp only
  rw [if_pos h, List.dropLast_concat, h.1]

theorem extend_of_not_takes {r : EventRun α} {e : UInt16 × α} (h : ¬ r.Takes e) (rs : List (EventRun α)) :
    extend (rs ++ [r]) e = rs ++ [r] ++ [⟨e, 1⟩] := by
  unfold extend
  rw [List.getLast?_concat]
  dsimp only
  rw [if_neg h]

theorem runs_concat (events : List (UInt16 × α)) (e : UInt16 × α) : runs (events ++ [e]) = extend (runs events) e := by
  unfold runs
  rw [List.foldl_append]
  rfl

/-! ## The one grouping -/

omit [DecidableEq α] in
theorem Groups.nil : Groups ([] : List (UInt16 × α)) [] := ⟨rfl, by simp, List.isChain_nil⟩

omit [DecidableEq α] in
theorem Groups.start {events : List (UInt16 × α)} {rs : List (EventRun α)} (h : Groups events rs) {e : UInt16 × α}
    (hlast : ∀ r ∈ rs.getLast?, ¬ r.Takes e) : Groups (events ++ [e]) (rs ++ [⟨e, 1⟩]) := by
  obtain ⟨hevents, hbounded, hmaximal⟩ := h
  refine ⟨?_, ?_, ?_⟩
  · rw [List.flatMap_append, hevents]
    rfl
  · intro r hr
    rcases List.mem_append.1 hr with hr | hr
    · exact hbounded r hr
    · obtain rfl := List.mem_singleton.1 hr
      exact ⟨Nat.one_pos, by simp [EventRun.limit]⟩
  · refine List.isChain_append.2 ⟨hmaximal, List.isChain_singleton _, ?_⟩
    intro r hr s hs
    obtain rfl : s = ⟨e, 1⟩ := by simpa using hs.symm
    have hr' := hbounded r (List.mem_of_getLast? hr)
    have := hlast r hr
    by_cases he : r.event = e
    · have hfull : ¬ r.length < EventRun.limit := fun hlt => this ⟨he, hlt⟩
      exact Or.inr (by omega)
    · exact Or.inl he

omit [DecidableEq α] in
theorem Groups.grow {events : List (UInt16 × α)} {rs : List (EventRun α)} {r : EventRun α}
    (h : Groups events (rs ++ [r])) {e : UInt16 × α} (hr : r.Takes e) :
    Groups (events ++ [e]) (rs ++ [⟨e, r.length + 1⟩]) := by
  obtain ⟨hevents, hbounded, hmaximal⟩ := h
  obtain ⟨rfl, hlt⟩ := hr
  refine ⟨?_, ?_, ?_⟩
  · rw [← hevents, List.flatMap_append, List.flatMap_append, List.append_assoc]
    congr 1
    simp [EventRun.events, List.replicate_succ']
  · intro s hs
    rcases List.mem_append.1 hs with hs | hs
    · exact hbounded s (List.mem_append_left _ hs)
    · obtain rfl := List.mem_singleton.1 hs
      exact ⟨Nat.succ_pos _, hlt⟩
  · obtain ⟨hchain, -, hjoint⟩ := List.isChain_append.1 hmaximal
    refine List.isChain_append.2 ⟨hchain, List.isChain_singleton _, ?_⟩
    intro s hs t ht
    obtain rfl : t = ⟨r.event, r.length + 1⟩ := by simpa using ht.symm
    exact hjoint s hs r (by simp)

theorem Groups.extend {events : List (UInt16 × α)} {rs : List (EventRun α)} (h : Groups events rs) (e : UInt16 × α) :
    Groups (events ++ [e]) (extend rs e) := by
  rcases List.eq_nil_or_concat' rs with rfl | ⟨rs, r, rfl⟩
  · exact h.start (by simp)
  · by_cases hr : r.Takes e
    · rw [extend_of_takes hr]
      exact h.grow hr
    · rw [extend_of_not_takes hr]
      exact h.start (by simpa using hr)

/-- The runs of a list that has one more event come from runs of the list, by that event. -/
theorem Groups.of_concat {events : List (UInt16 × α)} {e : UInt16 × α} {rs : List (EventRun α)}
    (h : Groups (events ++ [e]) rs) : ∃ rs', Groups events rs' ∧ rs = Trace.extend rs' e := by
  obtain ⟨hevents, hbounded, hmaximal⟩ := h
  rcases List.eq_nil_or_concat' rs with rfl | ⟨rs, ⟨event, length⟩, rfl⟩
  · simp at hevents
  obtain ⟨hpos, hle⟩ : 0 < length ∧ length ≤ EventRun.limit := hbounded ⟨event, length⟩ (by simp)
  obtain ⟨n, rfl⟩ : ∃ n, length = n + 1 := ⟨length - 1, by omega⟩
  obtain ⟨hchain, -, hjoint⟩ := List.isChain_append.1 hmaximal
  -- The last event of the list is the last one of the last run.
  have hsplit : rs.flatMap EventRun.events ++ List.replicate n event = events ∧ event = e := by
    rw [List.flatMap_append, List.flatMap_singleton, EventRun.events, List.replicate_succ', ← List.append_assoc] at hevents
    exact List.concat_inj.1 (by simpa using hevents)
  obtain ⟨hbefore, rfl⟩ := hsplit
  have hrest : ∀ r ∈ rs, 0 < r.length ∧ r.length ≤ EventRun.limit := fun r hr =>
    hbounded r (List.mem_append_left _ hr)
  cases n with
  | zero =>
    refine ⟨rs, ⟨by simpa using hbefore, hrest, hchain⟩, ?_⟩
    rcases List.eq_nil_or_concat' rs with rfl | ⟨rs, r, rfl⟩
    · rfl
    · have hr : ¬ r.Takes event := by
        rintro ⟨he, hlt⟩
        rcases hjoint r (by simp) ⟨event, 1⟩ (by simp) with h | h
        · exact h he
        · omega
      rw [extend_of_not_takes hr]
  | succ n =>
    refine ⟨rs ++ [⟨event, n + 1⟩], ⟨?_, ?_, ?_⟩, ?_⟩
    · rw [← hbefore, List.flatMap_append, List.flatMap_singleton]
      rfl
    · intro r hr
      rcases List.mem_append.1 hr with hr | hr
      · exact hrest r hr
      · obtain rfl := List.mem_singleton.1 hr
        exact ⟨Nat.succ_pos _, by show n + 1 ≤ _; omega⟩
    · refine List.isChain_append.2 ⟨hchain, List.isChain_singleton _, ?_⟩
      intro r hr s hs
      obtain rfl : s = ⟨event, n + 1⟩ := by simpa using hs.symm
      exact hjoint r hr ⟨event, n + 1 + 1⟩ (by simp)
    · have hr : EventRun.Takes ⟨event, n + 1⟩ event := ⟨rfl, by show n + 1 < _; omega⟩
      rw [extend_of_takes hr]

/-- Every list of events has exactly one grouping into runs. -/
theorem groups_iff {events : List (UInt16 × α)} {rs : List (EventRun α)} : Groups events rs ↔ rs = runs events := by
  induction events using List.reverseRecOn generalizing rs with
  | nil =>
    refine ⟨fun h => ?_, fun h => h ▸ Groups.nil⟩
    obtain ⟨hevents, hbounded, -⟩ := h
    cases rs with
    | nil => rfl
    | cons r rs =>
      have hpos := (hbounded r (List.mem_cons_self ..)).1
      have hnil : r.events = [] := (List.append_eq_nil_iff.1 hevents).1
      rw [EventRun.events, List.replicate_eq_nil_iff] at hnil
      omega
  | append_singleton events e ih =>
    rw [runs_concat]
    constructor
    · intro h
      obtain ⟨rs', h', rfl⟩ := h.of_concat
      rw [ih.1 h']
    · rintro rfl
      exact (ih.2 rfl).extend e

end Sallyport.Trace
