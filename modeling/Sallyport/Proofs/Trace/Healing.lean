/-
A log heals from any state, since anybody can write its slots, counts and index. One event recorded changes
one slot: the newest, if it takes the event, and otherwise the slot after it. The log on words does the
same; its sum goes round only where the log starts over anyway.
-/
import Sallyport.Proofs.Trace.Log
import Sallyport.Trace.Indexed

namespace Sallyport.Trace

variable {α : Type}

/-! ## What an event changes -/

namespace Ring

/-- The event equals the newest run, and the count of that run can be raised. -/
def Continues (line : UInt16) (payload : α) (r : Ring α) : Prop :=
  ∃ i slot, r.last = some i ∧ r.slots[i]? = some slot ∧
    slot.line = line ∧ slot.payload = payload ∧ slot.count.toNat < 2 ^ 32 - 1

/-- The index after the newest one; the first where nothing comes after it and where there is none. -/
def Successor (r : Ring α) (i : ℕ) : Prop :=
  (∀ k, r.last = some k → k + 1 < r.slots.length → i = k + 1) ∧
    ((∀ k, r.last = some k → r.slots.length ≤ k + 1) → i = 0)

/-- One slot becomes another one, all others stay, and it is the newest afterwards. -/
structure Writes (r r' : Ring α) (i : ℕ) (old new : Slot α) : Prop where
  before : r.slots[i]? = some old
  slots_eq : r'.slots = r.slots.set i new
  changed_iff : ∀ j, r'.slots[j]? ≠ r.slots[j]? ↔ j = i
  last_eq : r'.last = some i
  in_range : i < r'.slots.length
  newest : r'.lastSlot? = some new

theorem Writes.of_ne {r : Ring α} {i : ℕ} {old new : Slot α} (hold : r.slots[i]? = some old) (hne : new ≠ old) :
    Writes r ⟨some i, r.slots.set i new⟩ i old new := by
  obtain ⟨hi, -⟩ := List.getElem?_eq_some_iff.1 hold
  have hnew : (r.slots.set i new)[i]? = some new := List.getElem?_set_self hi
  refine ⟨hold, rfl, fun j => ⟨fun hj => ?_, ?_⟩, rfl, by simpa using hi, hnew⟩
  · by_contra hji
    exact hj (List.getElem?_set_ne (Ne.symm hji))
  · rintro rfl
    rw [hnew, hold]
    exact fun h => hne (Option.some.inj h)

theorem successor_next (r : Ring α) : r.Successor r.next := by
  unfold Successor next
  constructor
  · intro k hk hlt
    simp only [hk, if_pos hlt]
  · intro hend
    cases hlast : r.last with
    | none => rfl
    | some k => exact if_neg (Nat.not_lt.2 (hend k hlast))

theorem next_lt {r : Ring α} (h : r.slots ≠ []) : r.next < r.slots.length := by
  have hpos := List.length_pos_of_ne_nil h
  unfold next
  split
  · exact hpos
  · split
    · assumption
    · exact hpos

theorem takes_iff {slot : Slot α} {line : UInt16} {payload : α} :
    slot.run.Takes (line, payload) ↔
      slot.line = line ∧ slot.payload = payload ∧ slot.count.toNat < 2 ^ 32 - 1 := by
  unfold EventRun.Takes
  rw [Prod.ext_iff, and_assoc]
  rfl

variable {r : Ring α} {line : UInt16} {payload : α}

theorem advance_writes (h : r.slots ≠ []) : ∃ old, Writes r (r.advance line payload) r.next old
    ⟨line, old.generation + 1, 1, payload⟩ := by
  obtain ⟨old, hold⟩ : ∃ old, r.slots[r.next]? = some old := ⟨_, List.getElem?_eq_getElem (next_lt h)⟩
  have hne : (⟨line, old.generation + 1, 1, payload⟩ : Slot α) ≠ old := by
    intro he
    have hgeneration : old.generation + 1 = old.generation := congrArg Slot.generation he
    simp at hgeneration
  refine ⟨old, ?_⟩
  unfold advance
  rw [hold]
  exact .of_ne hold hne

variable [DecidableEq α]

theorem entry_of_not_continues (h : ¬ r.Continues line payload) : r.entry line payload = r.advance line payload :=
  entry_of_not_takes (e := (line, payload)) fun i slot hi hslot htakes =>
    h ⟨i, slot, hi, hslot, takes_iff.1 htakes⟩

theorem entry_of_no_slots (h : r.slots = []) : r.entry line payload = r := by
  have hnot : ¬ r.Continues line payload := by
    rintro ⟨i, slot, -, hslot, -⟩
    rw [h] at hslot
    cases hslot
  rw [entry_of_not_continues hnot]
  unfold advance
  rw [h]
  rfl

theorem entry_writes_of_continues (h : r.Continues line payload) : ∃ i old,
    Writes r (r.entry line payload) i old { old with count := old.count + 1 } ∧ r.last = some i ∧
      old.line = line ∧ old.payload = payload ∧ (old.count + 1).toNat = old.count.toNat + 1 := by
  obtain ⟨i, old, hlast, hold, hrun⟩ := h
  have htakes : old.run.Takes (line, payload) := takes_iff.2 hrun
  have hcount := toNat_count_add_one htakes
  have hne : { old with count := old.count + 1 } ≠ old := by
    intro he
    have : (old.count + 1).toNat = old.count.toNat := congrArg (fun s => s.count.toNat) he
    omega
  refine ⟨i, old, ?_, hlast, hrun.1, hrun.2.1, hcount⟩
  have hentry := entry_of_takes hlast hold htakes
  rw [hentry]
  exact .of_ne hold hne

end Ring

/-! ## The log on words -/

namespace WordRing

variable {w : ℕ} {r : WordRing w α}

theorem toNat_newest_of_none (h : r.last = none) : r.newest.toNat = 2 ^ w - 1 := by
  unfold newest
  rw [h, Option.getD_none, BitVec.toNat_allOnes]

theorem toNat_add_one (i : BitVec w) : (i + 1#w).toNat = if i.toNat + 1 < 2 ^ w then i.toNat + 1 else 0 := by
  have hi := i.isLt
  rw [BitVec.toNat_add, BitVec.toNat_ofNat, Nat.add_mod_mod]
  split
  · exact Nat.mod_eq_of_lt ‹_›
  · rw [show i.toNat + 1 = 2 ^ w by omega, Nat.mod_self]

theorem toNat_next (h : r.slots.length < 2 ^ w) : r.next.toNat = r.toRing.next := by
  have hsum := toNat_add_one r.newest
  unfold next Ring.next toRing
  cases hlast : r.last with
  | none =>
    rw [toNat_newest_of_none hlast, if_neg (by omega)] at hsum
    simp only [apply_ite BitVec.toNat, BitVec.toNat_zero, hsum, ite_self, Option.map_none]
  | some i =>
    have hnewest : r.newest = i := by unfold newest; rw [hlast, Option.getD_some]
    rw [hnewest] at hsum ⊢
    simp only [apply_ite BitVec.toNat, BitVec.toNat_zero, hsum, Option.map_some]
    -- Where the sum goes round, the log has no slot behind the newest either.
    split_ifs <;> omega

theorem raise?_eq (count : UInt32) : raise? count = if count ≠ 0xffffffff then some (count + 1) else none := by
  have hlt := count.toNat_lt
  have hfull : count.toNat + 1 < 0x100000000 ↔ count ≠ 0xffffffff := by
    rw [ne_eq, ← UInt32.toNat_inj]
    show count.toNat + 1 < 0x100000000 ↔ ¬ count.toNat = 0xffffffff
    omega
  unfold raise?
  simp only [hfull]

theorem toRing_advance (h : r.slots.length < 2 ^ w) (line : UInt16) (payload : α) :
    (r.advance line payload).toRing = r.toRing.advance line payload := by
  have hslots : r.toRing.slots = r.slots := rfl
  unfold advance Ring.advance
  rw [toNat_next h, hslots]
  cases r.slots[r.toRing.next]? with
  | none => rfl
  | some old => simp only [toRing, Option.map_some, toNat_next h]

variable [DecidableEq α]

theorem map_toRing_merge? (h : r.slots.length < 2 ^ w) (line : UInt16) (payload : α) :
    (r.merge? line payload).map toRing = r.toRing.merge? line payload := by
  unfold merge? Ring.merge?
  cases hlast : r.last with
  | none =>
    -- Where the newest slot is looked for, no log has one.
    rw [List.getElem?_eq_none (by rw [toNat_newest_of_none hlast]; omega)]
    simp only [toRing, hlast, Option.map_none]
  | some i =>
    have hnewest : r.newest = i := by unfold newest; rw [hlast, Option.getD_some]
    simp only [toRing, hlast, hnewest, Option.map_some]
    cases r.slots[i.toNat]? with
    | none => rfl
    | some slot =>
      by_cases heq : slot.line = line ∧ slot.payload = payload
      · by_cases hfull : slot.count = 0xffffffff
        · simp [raise?_eq, heq, hfull]
        · simp [raise?_eq, heq, hfull, toRing]
      · simp [heq, ← and_assoc]

theorem toRing_entry (h : r.slots.length < 2 ^ w) (line : UInt16) (payload : α) :
    (r.entry line payload).toRing = r.toRing.entry line payload := by
  unfold entry Ring.entry
  rw [← map_toRing_merge? h]
  cases r.merge? line payload with
  | none => exact toRing_advance h line payload
  | some merged => rfl

end WordRing

namespace Ring

variable [DecidableEq α]

/-- A log heals from any state: one event writes one slot that is there, the newest with one more in its count
or the slot after it with a count of one, and that slot has the event and is the newest. The log on words that
can number its slots does the same. -/
theorem entry_heals (r : Ring α) (line : UInt16) (payload : α) :
    (r.slots = [] → r.entry line payload = r) ∧
    (r.slots ≠ [] → ∃ i old new, Writes r (r.entry line payload) i old new ∧
      new.line = line ∧ new.payload = payload ∧ 1 ≤ new.count.toNat ∧
      (r.Continues line payload ∧ r.last = some i ∧ new = { old with count := new.count } ∧
          new.count.toNat = old.count.toNat + 1 ∨
        ¬ r.Continues line payload ∧ r.Successor i ∧ new.count = 1 ∧
          new.generation.toNat = (old.generation.toNat + 1) % 2 ^ 16)) ∧
    ∀ w (words : WordRing w α), words.toRing = r → r.slots.length < 2 ^ w →
      (words.entry line payload).toRing = r.entry line payload := by
  refine ⟨entry_of_no_slots, fun hslots => ?_, ?_⟩
  · by_cases h : r.Continues line payload
    · obtain ⟨i, old, hwrites, hlast, hline, hpayload, hcount⟩ := entry_writes_of_continues h
      exact ⟨i, old, _, hwrites, hline, hpayload, by simp only [hcount]; omega, .inl ⟨h, hlast, rfl, hcount⟩⟩
    · obtain ⟨old, hwrites⟩ := advance_writes hslots
      rw [entry_of_not_continues h]
      exact ⟨r.next, old, _, hwrites, rfl, rfl, Nat.le_refl 1,
        .inr ⟨h, successor_next r, rfl, UInt16.toNat_add ..⟩⟩
  · rintro w words rfl hlt
    exact words.toRing_entry hlt line payload

/-- The index is the largest word and the generation the largest one: both start over. -/
example : (⟨some (BitVec.allOnes 64), [⟨3, 0xffff, 5, 'x'⟩, ⟨3, 0, 2, 'x'⟩]⟩ : WordRing 64 Char).entry 3 'x' =
    ⟨some 0, [⟨3, 0, 1, 'x'⟩, ⟨3, 0, 2, 'x'⟩]⟩ := by decide

end Ring

end Sallyport.Trace
