/-
A ring is a bounded log of runs: it shows the last runs of any events, as many as it has slots, run `j` in
slot `j` modulo the capacity. The invariant (`Logs`) ties a ring to the runs so far; an event lengthens
the last run, in its slot, or starts another in the slot after it.
-/
import Sallyport.Proofs.Trace.Runs
import Mathlib.Data.List.Rotate
import Mathlib.Data.Nat.Count

namespace Sallyport.Trace

variable {α : Type}

/-! ## Reading a ring -/

/-- The run a slot shows. -/
def Slot.run (s : Slot α) : EventRun α := ⟨(s.line, s.payload), s.count.toNat⟩

/-- A slot nothing has been recorded in. -/
def Slot.blank (init : α) : Slot α := ⟨0, 0, 0, init⟩

namespace Ring

/-- The slots from the one after the newest to the newest. -/
def oldestFirst (r : Ring α) : List (Slot α) :=
  match r.last with
  | none => r.slots
  | some i => r.slots.drop (i + 1) ++ r.slots.take (i + 1)

/-- From the oldest slot to the newest, each event as often as it was counted. -/
def replay (r : Ring α) : List (UInt16 × α) :=
  r.oldestFirst.flatMap fun s => List.replicate s.count.toNat (s.line, s.payload)

/-- Records events one after another. -/
def record [DecidableEq α] (events : List (UInt16 × α)) (r : Ring α) : Ring α :=
  events.foldl (fun r e => r.entry e.1 e.2) r

theorem record_append [DecidableEq α] (events more : List (UInt16 × α)) (r : Ring α) :
    r.record (events ++ more) = (r.record events).record more := List.foldl_append

end Ring

/-! ## Slots in a circle -/

theorem succ_mod_eq {n capacity : ℕ} (h : 0 < capacity) :
    (n + 1) % capacity = if n % capacity + 1 < capacity then n % capacity + 1 else 0 := by
  have hlt := Nat.mod_lt n h
  rw [← Nat.mod_add_mod]
  split
  · exact Nat.mod_eq_of_lt ‹_›
  · have : n % capacity + 1 = capacity := by omega
    rw [this, Nat.mod_self]

/-- Less than a whole turn apart, two runs lie in different slots. -/
theorem mod_ne_mod {j n capacity : ℕ} (hj : j < n) (hn : n < j + capacity) : j % capacity ≠ n % capacity := by
  intro h
  have hz := Nat.sub_mod_eq_zero_of_mod_eq h.symm
  rw [Nat.mod_eq_of_lt (by omega)] at hz
  omega

/-- How many of the first runs went through a slot. -/
def passes (capacity i n : ℕ) : ℕ := Nat.count (fun j => j % capacity = i) n

theorem passes_succ (capacity i n : ℕ) :
    passes capacity i (n + 1) = passes capacity i n + if n % capacity = i then 1 else 0 := Nat.count_succ _ _

/-! ## The invariant -/

/-- A ring after the given runs. -/
structure Logs (capacity : ℕ) (init : α) (rs : List (EventRun α)) (r : Ring α) : Prop where
  length_eq : r.slots.length = capacity
  last_eq : r.last = if rs = [] ∨ capacity = 0 then none else some ((rs.length - 1) % capacity)
  stored : ∀ j run, rs[j]? = some run → rs.length ≤ j + capacity → r.slots[j % capacity]?.map Slot.run = some run
  generation_eq : ∀ i slot, r.slots[i]? = some slot → slot.generation = UInt16.ofNat (passes capacity i rs.length)
  blank : ∀ i, rs.length ≤ i → i < capacity → r.slots[i]? = some (Slot.blank init)

theorem Logs.new (capacity : ℕ) (init : α) : Logs capacity init [] (Ring.new capacity init) := by
  refine ⟨List.length_replicate .., by simp [Ring.new], by simp, ?_, ?_⟩
  · intro i slot hi
    obtain rfl := List.eq_of_mem_replicate (List.mem_of_getElem? hi)
    simp [passes]
  · intro i _ hi
    exact List.getElem?_replicate_of_lt hi

variable {capacity : ℕ} {init : α} {rs : List (EventRun α)} {r : Ring α}

/-! ## Writing the slot of the next run -/

/-- What a ring keeps when the slot of the run after the given ones is written. -/
structure Kept (capacity : ℕ) (init : α) (rs : List (EventRun α)) (r : Ring α) : Prop where
  length_eq : r.slots.length = capacity
  stored : ∀ j run, rs[j]? = some run → rs.length < j + capacity → r.slots[j % capacity]?.map Slot.run = some run
  generation_eq : ∀ i slot, i ≠ rs.length % capacity → r.slots[i]? = some slot →
    slot.generation = UInt16.ofNat (passes capacity i rs.length)
  blank : ∀ i, rs.length < i → i < capacity → r.slots[i]? = some (Slot.blank init)

theorem Logs.kept (h : Logs capacity init rs r) : Kept capacity init rs r where
  length_eq := h.length_eq
  stored j run hj hfresh := h.stored j run hj (Nat.le_of_lt hfresh)
  generation_eq i slot _ hi := h.generation_eq i slot hi
  blank i hi hic := h.blank i (Nat.le_of_lt hi) hic

theorem Logs.kept_of_concat {run : EventRun α} (h : Logs capacity init (rs ++ [run]) r) : Kept capacity init rs r := by
  have hlen : (rs ++ [run]).length = rs.length + 1 := by simp
  refine ⟨h.length_eq, ?_, ?_, ?_⟩
  · intro j run' hj hfresh
    obtain ⟨hlt, -⟩ := List.getElem?_eq_some_iff.1 hj
    exact h.stored j run' (by rw [List.getElem?_append_left hlt, hj]) (by omega)
  · intro i slot hne hi
    rw [h.generation_eq i slot hi, hlen, passes_succ, if_neg (Ne.symm hne), Nat.add_zero]
  · intro i hi hic
    exact h.blank i (by omega) hic

theorem Kept.put (h : Kept capacity init rs r) (hc : 0 < capacity) {s : Slot α}
    (hs : s.generation = UInt16.ofNat (passes capacity (rs.length % capacity) (rs.length + 1))) :
    Logs capacity init (rs ++ [s.run]) ⟨some (rs.length % capacity), r.slots.set (rs.length % capacity) s⟩ := by
  have hlen : (rs ++ [s.run]).length = rs.length + 1 := by simp
  have hin : rs.length % capacity < r.slots.length := by rw [h.length_eq]; exact Nat.mod_lt _ hc
  refine ⟨?_, ?_, ?_, ?_, ?_⟩
  · rw [List.length_set, h.length_eq]
  · have hne : ¬ (rs ++ [s.run] = [] ∨ capacity = 0) := by simp; omega
    rw [if_neg hne, hlen, Nat.add_sub_cancel]
  · intro j run hj hfresh
    rw [hlen] at hfresh
    rcases Nat.lt_trichotomy j rs.length with hlt | rfl | hgt
    · -- A run before this one that is still shown lies in another slot.
      rw [List.getElem?_append_left hlt] at hj
      have hne := mod_ne_mod hlt hfresh
      rw [List.getElem?_set_ne (Ne.symm hne)]
      exact h.stored j run hj hfresh
    · rw [List.getElem?_concat_length] at hj
      rw [List.getElem?_set_self hin]
      exact hj
    · rw [List.getElem?_eq_none (by omega)] at hj
      cases hj
  · intro i slot hi
    rw [hlen]
    by_cases he : rs.length % capacity = i
    · subst he
      rw [List.getElem?_set_self hin] at hi
      obtain rfl := Option.some.inj hi
      exact hs
    · rw [List.getElem?_set_ne he] at hi
      rw [passes_succ, if_neg he, Nat.add_zero]
      exact h.generation_eq i slot (Ne.symm he) hi
  · intro i hi hic
    rw [hlen] at hi
    have hne : rs.length % capacity ≠ i := Nat.ne_of_lt (Nat.lt_of_le_of_lt (Nat.mod_le _ _) hi)
    rw [List.getElem?_set_ne hne]
    exact h.blank i hi hic

/-! ## One event -/

theorem Logs.next_eq (h : Logs capacity init rs r) (hc : 0 < capacity) : r.next = rs.length % capacity := by
  unfold Ring.next
  rw [h.last_eq, h.length_eq]
  rcases List.eq_nil_or_concat' rs with rfl | ⟨rs, run, rfl⟩
  · simp
  · have hne : ¬ (rs ++ [run] = [] ∨ capacity = 0) := by simp; omega
    rw [if_neg hne, List.length_append, List.length_singleton, Nat.add_sub_cancel, succ_mod_eq hc]

/-- A new run takes the slot after the newest; the run that lay there is a whole turn old. -/
theorem Logs.advance (h : Logs capacity init rs r) (hc : 0 < capacity) (e : UInt16 × α) :
    Logs capacity init (rs ++ [⟨e, 1⟩]) (r.advance e.1 e.2) := by
  have hlt : rs.length % capacity < r.slots.length := by rw [h.length_eq]; exact Nat.mod_lt _ hc
  obtain ⟨old, hold⟩ : ∃ old, r.slots[rs.length % capacity]? = some old := ⟨_, List.getElem?_eq_getElem hlt⟩
  have hgeneration : old.generation + 1 =
      UInt16.ofNat (passes capacity (rs.length % capacity) (rs.length + 1)) := by
    rw [passes_succ, if_pos rfl, UInt16.ofNat_add, ← h.generation_eq _ old hold]
    rfl
  unfold Ring.advance
  rw [h.next_eq hc, hold]
  exact h.kept.put (s := ⟨e.1, old.generation + 1, 1, e.2⟩) hc hgeneration

theorem Logs.lastSlot {run : EventRun α} (h : Logs capacity init (rs ++ [run]) r) (hc : 0 < capacity) :
    r.last = some (rs.length % capacity) ∧
      ∃ slot, r.slots[rs.length % capacity]? = some slot ∧ slot.run = run := by
  have hne : ¬ (rs ++ [run] = [] ∨ capacity = 0) := by simp; omega
  have hlast := h.last_eq
  rw [if_neg hne, List.length_append, List.length_singleton, Nat.add_sub_cancel] at hlast
  have hstored := h.stored rs.length run (by simp) (by simp; omega)
  exact ⟨hlast, Option.map_eq_some_iff.1 hstored⟩

theorem takes_run_iff {slot : Slot α} {e : UInt16 × α} :
    slot.run.Takes e ↔ slot.line = e.1 ∧ slot.payload = e.2 ∧ slot.count ≠ 0xffffffff := by
  have hlt := slot.count.toNat_lt
  have hfull : slot.count.toNat < EventRun.limit ↔ slot.count ≠ 0xffffffff := by
    rw [ne_eq, ← UInt32.toNat_inj]
    show slot.count.toNat < 0xffffffff ↔ ¬ slot.count.toNat = 0xffffffff
    omega
  unfold EventRun.Takes Slot.run
  rw [hfull, Prod.ext_iff, and_assoc]

theorem toNat_count_add_one {slot : Slot α} {e : UInt16 × α} (h : slot.run.Takes e) :
    (slot.count + 1).toNat = slot.count.toNat + 1 := by
  rw [UInt32.toNat_add]
  exact Nat.mod_eq_of_lt (Nat.add_lt_of_lt_sub h.2)

variable [DecidableEq α]

theorem Ring.entry_of_takes {i : ℕ} {slot : Slot α} (hlast : r.last = some i) (hslot : r.slots[i]? = some slot)
    {e : UInt16 × α} (he : slot.run.Takes e) :
    r.entry e.1 e.2 = ⟨some i, r.slots.set i { slot with count := slot.count + 1 }⟩ := by
  unfold Ring.entry Ring.merge?
  simp only [hlast, hslot, if_pos (takes_run_iff.1 he)]

theorem Ring.entry_of_not_takes {e : UInt16 × α}
    (h : ∀ i slot, r.last = some i → r.slots[i]? = some slot → ¬ slot.run.Takes e) :
    r.entry e.1 e.2 = r.advance e.1 e.2 := by
  have hmerge : r.merge? e.1 e.2 = none := by
    unfold Ring.merge?
    cases hlast : r.last with
    | none => rfl
    | some i =>
      cases hslot : r.slots[i]? with
      | none => simp only [hslot]
      | some slot => simp only [hslot, if_neg (fun hm => h i slot hlast hslot (takes_run_iff.2 hm))]
  unfold Ring.entry
  rw [hmerge]

theorem Logs.entry_of_takes {run : EventRun α} (h : Logs capacity init (rs ++ [run]) r) (hc : 0 < capacity)
    {e : UInt16 × α} (he : run.Takes e) : Logs capacity init (rs ++ [⟨e, run.length + 1⟩]) (r.entry e.1 e.2) := by
  obtain ⟨hlast, slot, hslot, rfl⟩ := h.lastSlot hc
  have hrun : ({ slot with count := slot.count + 1 } : Slot α).run = ⟨e, slot.run.length + 1⟩ := by
    rw [← he.1]
    show EventRun.mk _ (slot.count + 1).toNat = _
    rw [toNat_count_add_one he]
    rfl
  rw [Ring.entry_of_takes hlast hslot he, ← hrun]
  refine h.kept_of_concat.put hc ?_
  have := h.generation_eq _ slot hslot
  rwa [List.length_append, List.length_singleton] at this

theorem Logs.entry_of_not_takes {run : EventRun α} (h : Logs capacity init (rs ++ [run]) r) (hc : 0 < capacity)
    {e : UInt16 × α} (he : ¬ run.Takes e) :
    Logs capacity init (rs ++ [run] ++ [⟨e, 1⟩]) (r.entry e.1 e.2) := by
  obtain ⟨hlast, slot, hslot, rfl⟩ := h.lastSlot hc
  rw [Ring.entry_of_not_takes]
  · exact h.advance hc e
  · intro i other hi hother
    obtain rfl := Option.some.inj (hlast.symm.trans hi)
    obtain rfl := Option.some.inj (hslot.symm.trans hother)
    exact he

theorem Logs.entry_of_no_slots (h : Logs 0 init rs r) (rs' : List (EventRun α)) (e : UInt16 × α) :
    Logs 0 init rs' (r.entry e.1 e.2) := by
  have hslots : r.slots = [] := List.eq_nil_of_length_eq_zero h.length_eq
  have hlast : r.last = none := by rw [h.last_eq, if_pos (Or.inr rfl)]
  have hentry : r.entry e.1 e.2 = r := by
    simp [Ring.entry, Ring.merge?, Ring.advance, hlast, hslots]
  rw [hentry]
  refine ⟨h.length_eq, ?_, ?_, ?_, ?_⟩
  · rw [hlast, if_pos (Or.inr rfl)]
  · intro j run hj hfresh
    obtain ⟨hlt, -⟩ := List.getElem?_eq_some_iff.1 hj
    omega
  · simp [hslots]
  · intro i _ hi
    cases hi

theorem Logs.entry (h : Logs capacity init rs r) (e : UInt16 × α) :
    Logs capacity init (extend rs e) (r.entry e.1 e.2) := by
  rcases Nat.eq_zero_or_pos capacity with rfl | hc
  · exact h.entry_of_no_slots _ e
  rcases List.eq_nil_or_concat' rs with rfl | ⟨rs, run, rfl⟩
  · have hlast := h.last_eq
    rw [if_pos (Or.inl rfl)] at hlast
    rw [Ring.entry_of_not_takes (by simp [hlast])]
    exact h.advance hc e
  · by_cases he : run.Takes e
    · rw [extend_of_takes he]
      exact h.entry_of_takes hc he
    · rw [extend_of_not_takes he]
      exact h.entry_of_not_takes hc he

/-- Any events leave the ring a log of their runs. -/
theorem Logs.record (events : List (UInt16 × α)) : ∀ {rs : List (EventRun α)} {r : Ring α},
    Logs capacity init rs r → Logs capacity init (events.foldl extend rs) (r.record events) := by
  induction events with
  | nil => intro rs r h; exact h
  | cons e events ih => intro rs r h; exact ih (h.entry e)

/-! ## Reading the ring back -/

omit [DecidableEq α] in
/-- The oldest slot is the one the next new run would take. -/
theorem Logs.oldestFirst_eq (h : Logs capacity init rs r) : r.oldestFirst = r.slots.rotate rs.length := by
  unfold Ring.oldestFirst
  rcases Nat.eq_zero_or_pos capacity with rfl | hc
  · have hslots : r.slots = [] := List.eq_nil_of_length_eq_zero h.length_eq
    rw [h.last_eq, if_pos (Or.inr rfl), hslots, List.rotate_nil]
  rcases List.eq_nil_or_concat' rs with rfl | ⟨rs, run, rfl⟩
  · rw [h.last_eq, if_pos (Or.inl rfl), List.length_nil, List.rotate_zero]
  · have hle : rs.length % capacity + 1 ≤ r.slots.length := by rw [h.length_eq]; exact Nat.mod_lt _ hc
    rw [(h.lastSlot hc).1, List.length_append, List.length_singleton]
    dsimp only
    rw [← List.rotate_eq_drop_append_take hle, ← List.rotate_mod, h.length_eq, Nat.mod_add_mod]
    conv_rhs => rw [← List.rotate_mod, h.length_eq]

omit [DecidableEq α] in
/-- From the oldest to the newest, the slots are blank where no run has come yet, and show the last runs. -/
theorem Logs.map_run_rotate (h : Logs capacity init rs r) : (r.slots.rotate rs.length).map Slot.run =
    List.replicate (capacity - rs.length) (Slot.blank init).run ++ rs.drop (rs.length - capacity) := by
  refine List.ext_getElem? fun k => ?_
  rw [List.getElem?_map, List.getElem?_append, List.length_replicate, List.getElem?_drop]
  rcases Nat.lt_or_ge k capacity with hk | hk
  · rw [List.getElem?_rotate (by rw [h.length_eq]; exact hk), h.length_eq]
    by_cases hblank : k < capacity - rs.length
    · rw [if_pos hblank, Nat.mod_eq_of_lt (by omega), h.blank _ (by omega) (by omega), List.getElem?_replicate_of_lt hblank]
      rfl
    · rw [if_neg hblank]
      -- Slot `k` from the oldest on holds the run that is a whole turn before run `k + rs.length`.
      obtain ⟨j, hj⟩ : ∃ j, k + rs.length = j + capacity := ⟨k + rs.length - capacity, by omega⟩
      have hindex : rs.length - capacity + (k - (capacity - rs.length)) = j := by omega
      have hlt : j < rs.length := by omega
      rw [hindex, hj, Nat.add_mod_right, List.getElem?_eq_getElem hlt]
      exact h.stored j _ (List.getElem?_eq_getElem hlt) (by omega)
  · rw [List.getElem?_eq_none (by rw [List.length_rotate, h.length_eq]; exact hk), if_neg (by omega)]
    rw [List.getElem?_eq_none (by omega)]
    rfl

omit [DecidableEq α] in
theorem Logs.replay_eq (h : Logs capacity init rs r) :
    r.replay = (rs.drop (rs.length - capacity)).flatMap EventRun.events := by
  have hruns : r.replay = (r.oldestFirst.map Slot.run).flatMap EventRun.events := by
    rw [List.flatMap_map]
    rfl
  have hblank : (List.replicate (capacity - rs.length) (Slot.blank init).run).flatMap EventRun.events = [] := by
    rw [List.flatMap_eq_nil_iff]
    intro run hrun
    obtain rfl := List.eq_of_mem_replicate hrun
    rfl
  rw [hruns, h.oldestFirst_eq, h.map_run_rotate, List.flatMap_append, hblank, List.nil_append]

/-! ## The ring as a log -/

theorem runs_eq_nil_iff {events : List (UInt16 × α)} : runs events = [] ↔ events = [] := by
  constructor
  · intro h
    rw [← (groups_iff.2 rfl : Groups events (runs events)).events_eq, h]
    rfl
  · rintro rfl
    rfl

/-- A ring is a bounded log of runs: each of the last runs lies in the slot its number names, with its event
and its length, the generation of a slot counts the runs that went through it, and from the oldest slot to the
newest the ring gives back the last events. -/
theorem ring_logs_last_runs (capacity : ℕ) (init : α) (events : List (UInt16 × α)) :
    let rs := runs events
    let ring := (Ring.new capacity init).record events
    (∀ rs', Groups events rs' ↔ rs' = rs) ∧ ring.slots.length = capacity ∧
      (∀ j run, rs[j]? = some run → rs.length ≤ j + capacity → ∃ slot, ring.slots[j % capacity]? = some slot ∧
        slot.line = run.event.1 ∧ slot.payload = run.event.2 ∧ slot.count.toNat = run.length) ∧
      (∀ i slot, ring.slots[i]? = some slot →
        slot.generation.toNat = Nat.count (fun j => j % capacity = i) rs.length % 2 ^ 16) ∧
      (∀ i, rs.length ≤ i → i < capacity → ring.slots[i]? = some ⟨0, 0, 0, init⟩) ∧
      ring.last = (if events = [] ∨ capacity = 0 then none else some ((rs.length - 1) % capacity)) ∧
      ring.replay = (rs.drop (rs.length - capacity)).flatMap EventRun.events ∧ ring.replay <:+ events := by
  intro rs ring
  have hgroups : Groups events rs := groups_iff.2 rfl
  have hlogs : Logs capacity init rs ring := (Logs.new capacity init).record events
  refine ⟨fun rs' => groups_iff, hlogs.length_eq, ?_, ?_, hlogs.blank, ?_, hlogs.replay_eq, ?_⟩
  · intro j run hj hfresh
    obtain ⟨slot, hslot, rfl⟩ := Option.map_eq_some_iff.1 (hlogs.stored j run hj hfresh)
    exact ⟨slot, hslot, rfl, rfl, rfl⟩
  · intro i slot hi
    rw [hlogs.generation_eq i slot hi]
    exact UInt16.toNat_ofNat'
  · rw [hlogs.last_eq]
    simp only [rs, runs_eq_nil_iff]
  · rw [hlogs.replay_eq, ← hgroups.events_eq]
    refine ⟨(rs.take (rs.length - capacity)).flatMap EventRun.events, ?_⟩
    rw [← List.flatMap_append, List.take_append_drop]

/-- Two slots, three runs: the first run is gone. -/
example : ((Ring.new 2 0).record [(1, 7), (1, 8), (1, 8), (2, 8)]).replay = [(1, 8), (1, 8), (2, 8)] := by decide

end Sallyport.Trace
