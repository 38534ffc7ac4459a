/-
Words of bits as the finite sets they stand for: number `i` is in the set iff bit `i mod 32` of word
`i / 32` is set. Every operation on the words is the operation of its name on the set, and the scan for
the lowest set bit finds the minimum.
-/
import Sallyport.Dma.Bitmap
import Mathlib.Data.Finset.Image
import Mathlib.Data.Finset.Card
import Mathlib.Data.Nat.Bitwise

namespace Sallyport.Dma

/-! ## One word -/

namespace Word

/-- The numbers of the bits that are set. -/
def bits (w : UInt32) : Finset ℕ := (Finset.range 32).filter fun i => w.toNat.testBit i

theorem mem_bits {w : UInt32} {i : ℕ} : i ∈ bits w ↔ w.toNat.testBit i = true := by
  rw [bits, Finset.mem_filter, Finset.mem_range]
  refine ⟨And.right, fun h => ⟨?_, h⟩⟩
  by_contra hi
  have hw : w.toNat < 2 ^ i := Nat.lt_of_lt_of_le w.toNat_lt (Nat.pow_le_pow_right (by decide) (by omega))
  rw [Nat.testBit_lt_two_pow hw] at h
  cases h

theorem lt_of_mem_bits {w : UInt32} {i : ℕ} (h : i ∈ bits w) : i < 32 :=
  Finset.mem_range.1 (Finset.mem_filter.1 h).1

theorem bits_injective : Function.Injective bits := by
  intro w v h
  rw [← UInt32.toNat_inj]
  refine Nat.eq_of_testBit_eq fun i => Bool.eq_iff_iff.2 ?_
  rw [← mem_bits, ← mem_bits, h]

theorem bits_or (v w : UInt32) : bits (v ||| w) = bits v ∪ bits w := by
  ext i
  rw [Finset.mem_union, mem_bits, mem_bits, mem_bits, UInt32.toNat_or, Nat.testBit_or, Bool.or_eq_true]

theorem bits_and (v w : UInt32) : bits (v &&& w) = bits v ∩ bits w := by
  ext i
  rw [Finset.mem_inter, mem_bits, mem_bits, mem_bits, UInt32.toNat_and, Nat.testBit_and, Bool.and_eq_true]

theorem and_eq_right_iff {v w : UInt32} : v &&& w = w ↔ bits w ⊆ bits v := by
  rw [← bits_injective.eq_iff, bits_and, Finset.inter_eq_right]

theorem mem_bits_not {w : UInt32} {i : ℕ} : i ∈ bits (~~~w) ↔ i < 32 ∧ i ∉ bits w := by
  rw [mem_bits, mem_bits]
  show (~~~w.toBitVec).toNat.testBit i = true ↔ i < 32 ∧ ¬ w.toBitVec.toNat.testBit i = true
  rw [BitVec.testBit_toNat, BitVec.testBit_toNat, BitVec.getLsbD_not]
  simp

theorem bits_and_not (v w : UInt32) : bits (v &&& ~~~w) = bits v \ bits w := by
  ext i
  rw [bits_and, Finset.mem_inter, mem_bits_not, Finset.mem_sdiff]
  constructor
  · rintro ⟨hv, -, hw⟩
    exact ⟨hv, hw⟩
  · rintro ⟨hv, hw⟩
    exact ⟨hv, lt_of_mem_bits hv, hw⟩

theorem toNat_bit {i : UInt32} (h : i.toNat < 32) : (bit i).toNat = 2 ^ i.toNat := by
  have hlt : 2 ^ i.toNat < 2 ^ 32 := Nat.pow_lt_pow_right (by decide) h
  simp only [bit, UInt32.toNat_shiftLeft, UInt32.toNat_one, Nat.mod_eq_of_lt h, Nat.one_shiftLeft]
  exact Nat.mod_eq_of_lt hlt

theorem has_iff {w i : UInt32} (h : i.toNat < 32) : has w i = true ↔ i.toNat ∈ bits w := by
  have hz : w &&& bit i = 0 ↔ w.toNat.testBit i.toNat = false := by
    rw [← UInt32.toNat_inj, UInt32.toNat_and, toNat_bit h, Nat.and_two_pow]
    cases w.toNat.testBit i.toNat <;> simp
  rw [mem_bits, has, decide_eq_true_iff, ne_eq, hz, Bool.not_eq_false]

theorem bits_bit {i : UInt32} (h : i.toNat < 32) : bits (bit i) = {i.toNat} := by
  ext j
  rw [mem_bits, toNat_bit h, Nat.testBit_two_pow, Finset.mem_singleton, decide_eq_true_iff, eq_comm]

theorem bits_or_bit (w : UInt32) {i : UInt32} (h : i.toNat < 32) :
    bits (w ||| bit i) = insert i.toNat (bits w) := by
  rw [bits_or, bits_bit h, Finset.union_comm, ← Finset.insert_eq]

theorem bits_and_not_bit (w : UInt32) {i : UInt32} (h : i.toNat < 32) :
    bits (w &&& ~~~bit i) = (bits w).erase i.toNat := by
  rw [bits_and_not, bits_bit h, Finset.sdiff_singleton_eq_erase]

theorem toNat_ofNat_of_lt {i : ℕ} (h : i < 32) : (UInt32.ofNat i).toNat = i :=
  UInt32.toNat_ofNat_of_lt' (Nat.lt_of_lt_of_le h (by decide))

theorem has_ofNat {w : UInt32} {i : ℕ} (h : i < 32) : has w (UInt32.ofNat i) = true ↔ i ∈ bits w := by
  have hi := toNat_ofNat_of_lt h
  rw [has_iff (by omega), hi]

theorem count_eq_card (w : UInt32) : count w = (bits w).card := by
  have hcard : (bits w).card = (List.range 32).countP fun i => decide (w.toNat.testBit i = true) := by
    rw [bits, Finset.card_def, Finset.filter_val, Finset.range_val, ← Multiset.countP_eq_card_filter]
    rfl
  rw [hcard, count, places, List.countP_map]
  refine List.countP_congr fun i hi => ?_
  rw [decide_eq_true_iff, ← mem_bits]
  exact has_ofNat (List.mem_range.1 hi)

theorem lowest?_eq_some {w i : UInt32} (h : lowest? w = some i) :
    i.toNat ∈ bits w ∧ ∀ j ∈ bits w, i.toNat ≤ j := by
  rw [lowest?, places, List.find?_map, Option.map_eq_some_iff] at h
  obtain ⟨n, hn, rfl⟩ := h
  obtain ⟨hhas, hmem, hbefore⟩ := List.find?_range_eq_some.1 hn
  have hlt : n < 32 := List.mem_range.1 hmem
  rw [toNat_ofNat_of_lt hlt]
  refine ⟨(has_ofNat hlt).1 hhas, fun j hj => ?_⟩
  by_contra hjn
  have := hbefore j (by omega)
  rw [Function.comp_apply, (has_ofNat (lt_of_mem_bits hj)).2 hj] at this
  cases this

theorem lowest?_eq_none {w : UInt32} (h : lowest? w = none) : bits w = ∅ := by
  rw [lowest?, List.find?_eq_none] at h
  refine Finset.eq_empty_of_forall_notMem fun i hi => ?_
  have hlt := lt_of_mem_bits hi
  exact h (UInt32.ofNat i) (List.mem_map.2 ⟨i, List.mem_range.2 hlt, rfl⟩) ((has_ofNat hlt).2 hi)

@[simp] theorem bits_zero : bits 0 = ∅ := by
  unfold bits; simp

theorem bits_full : bits 0xffffffff = Finset.range 32 := by decide

theorem bits_bit_sub_one {n : ℕ} (h : n < 32) : bits (bit (UInt32.ofNat n) - 1) = Finset.range n := by
  have hn : (bit (UInt32.ofNat n) - 1).toNat = 2 ^ n - 1 := by
    have hbit : (bit (UInt32.ofNat n)).toNat = 2 ^ n := by
      have hi := toNat_ofNat_of_lt h
      rw [toNat_bit (by omega), hi]
    have hpos := Nat.one_le_two_pow (n := n)
    rw [UInt32.toNat_sub_of_le, hbit]
    · rfl
    · rw [UInt32.le_iff_toNat_le, hbit]
      exact hpos
  ext i
  rw [mem_bits, hn, Nat.testBit_two_pow_sub_one, Finset.mem_range, decide_eq_true_iff]

end Word

/-! ## Words in a row -/

namespace Bitmap

/-- The numbers in the set. -/
def ids (b : Bitmap) : Finset ℕ :=
  (Finset.range (32 * b.length)).filter fun i => i % 32 ∈ Word.bits (b.getD (i / 32) 0)

theorem lt_of_mem_ids {b : Bitmap} {i : ℕ} (h : i ∈ ids b) : i < 32 * b.length :=
  Finset.mem_range.1 (Finset.mem_filter.1 h).1

/-- A number is in the set iff its bit in its word is set; past the last word there is none. -/
theorem mem_ids {b : Bitmap} {i : ℕ} : i ∈ ids b ↔ i % 32 ∈ Word.bits (b.getD (i / 32) 0) := by
  rw [ids, Finset.mem_filter, Finset.mem_range]
  refine ⟨And.right, fun h => ⟨?_, h⟩⟩
  by_contra hi
  rw [List.getD_eq_default _ _ (by omega), Word.bits_zero] at h
  cases h

theorem toNat_wordOf (id : UInt32) : wordOf id = id.toNat / 32 := UInt32.toNat_div ..

theorem toNat_bitOf (id : UInt32) : (bitOf id).toNat = id.toNat % 32 := UInt32.toNat_mod ..

theorem toNat_bitOf_lt (id : UInt32) : (bitOf id).toNat < 32 := by
  rw [toNat_bitOf]; omega

theorem contains_iff {b : Bitmap} {id : UInt32} : b.contains id = true ↔ id.toNat ∈ ids b := by
  rw [contains, Word.has_iff (toNat_bitOf_lt id), mem_ids, toNat_bitOf, toNat_wordOf]

theorem getD_modify (b : Bitmap) (k i : ℕ) (f : UInt32 → UInt32) :
    (b.modify k f).getD i 0 = if k = i ∧ i < b.length then f (b.getD i 0) else b.getD i 0 := by
  rw [List.getD_eq_getElem?_getD, List.getD_eq_getElem?_getD, List.getElem?_modify]
  by_cases hi : i < b.length
  · by_cases hk : k = i <;> simp [hi, hk]
  · simp [hi]

theorem eq_iff_split (i j : ℕ) : i = j ↔ i / 32 = j / 32 ∧ i % 32 = j % 32 := by omega

@[simp] theorem length_insert (b : Bitmap) (id : UInt32) : (b.insert id).length = b.length := List.length_modify ..

@[simp] theorem length_erase (b : Bitmap) (id : UInt32) : (b.erase id).length = b.length := List.length_modify ..

theorem ids_insert (b : Bitmap) {id : UInt32} (h : id.toNat < 32 * b.length) :
    ids (b.insert id) = Insert.insert id.toNat (ids b) := by
  ext i
  rw [mem_ids, Bitmap.insert, getD_modify, toNat_wordOf, Finset.mem_insert, mem_ids, eq_iff_split i]
  by_cases hw : id.toNat / 32 = i / 32
  · rw [if_pos ⟨hw, by omega⟩, Word.bits_or_bit _ (toNat_bitOf_lt id), Finset.mem_insert, toNat_bitOf]
    simp [hw]
  · rw [if_neg fun e => hw e.1]
    simp [Ne.symm hw]

theorem ids_erase (b : Bitmap) (id : UInt32) : ids (b.erase id) = (ids b).erase id.toNat := by
  ext i
  rw [mem_ids, Bitmap.erase, getD_modify, toNat_wordOf, Finset.mem_erase, mem_ids, ne_eq, eq_iff_split i]
  by_cases hw : id.toNat / 32 = i / 32
  · by_cases hi : i < 32 * b.length
    · rw [if_pos ⟨hw, by omega⟩, Word.bits_and_not_bit _ (toNat_bitOf_lt id), Finset.mem_erase, toNat_bitOf]
      simp [hw]
    · rw [if_neg (by omega), List.getD_eq_default _ _ (by omega), Word.bits_zero]
      simp
  · rw [if_neg fun e => hw e.1]
    simp [Ne.symm hw]

/-! ## The first word and the others -/

theorem add_injective : Function.Injective fun i : ℕ => 32 + i := fun _ _ h => Nat.add_left_cancel h

theorem ids_cons (w : UInt32) (ws : Bitmap) : ids (w :: ws) = Word.bits w ∪ (ids ws).image (32 + ·) := by
  ext i
  rw [Finset.mem_union, Finset.mem_image, mem_ids]
  by_cases hi : i < 32
  · have hw : i / 32 = 0 := by omega
    rw [hw, List.getD_cons_zero, Nat.mod_eq_of_lt hi]
    refine ⟨Or.inl, ?_⟩
    rintro (h | ⟨j, _, rfl⟩)
    · exact h
    · omega
  · obtain ⟨j, rfl⟩ := Nat.exists_eq_add_of_le (Nat.le_of_not_lt hi)
    have hw : (32 + j) / 32 = j / 32 + 1 := by omega
    have hb : (32 + j) % 32 = j % 32 := by omega
    rw [hw, hb, List.getD_cons_succ]
    constructor
    · exact fun h => Or.inr ⟨j, mem_ids.2 h, rfl⟩
    · rintro (h | ⟨k, hk, hjk⟩)
      · exact absurd (Word.lt_of_mem_bits h) hi
      · obtain rfl := Nat.add_left_cancel hjk
        exact mem_ids.1 hk

theorem disjoint_cons (w : UInt32) (ws : Bitmap) : Disjoint (Word.bits w) ((ids ws).image (32 + ·)) := by
  rw [Finset.disjoint_left]
  intro i hi h
  obtain ⟨j, _, rfl⟩ := Finset.mem_image.1 h
  have := Word.lt_of_mem_bits hi
  omega

theorem size_eq_card (b : Bitmap) : size b = (ids b).card := by
  induction b with
  | nil => rfl
  | cons w ws ih =>
    show Word.count w + size ws = _
    rw [ids_cons, Finset.card_union_of_disjoint (disjoint_cons w ws), Finset.card_image_of_injective _ add_injective,
      ih, Word.count_eq_card]

theorem takeLowest?_eq_none {b : Bitmap} (h : takeLowest? b = none) : ids b = ∅ := by
  induction b with
  | nil => rfl
  | cons w ws ih =>
    rw [takeLowest?] at h
    cases hw : Word.lowest? w with
    | some i => rw [hw] at h; cases h
    | none =>
      rw [hw] at h
      rw [ids_cons, Word.lowest?_eq_none hw, ih (Option.map_eq_none_iff.1 h)]
      rfl

/-- The scan finds the minimum and takes out exactly that. -/
theorem takeLowest?_eq_some {b : Bitmap} : ∀ {i : UInt32} {b' : Bitmap}, 32 * b.length ≤ 2 ^ 32 →
    takeLowest? b = some (i, b') →
      i.toNat ∈ ids b ∧ (∀ j ∈ ids b, i.toNat ≤ j) ∧ ids b' = (ids b).erase i.toNat ∧ b'.length = b.length := by
  induction b with
  | nil => intro i b' _ h; cases h
  | cons w ws ih =>
    intro i b' hb h
    rw [List.length_cons] at hb
    rw [takeLowest?] at h
    cases hw : Word.lowest? w with
    | some j =>
      rw [hw] at h
      obtain ⟨rfl, rfl⟩ := Prod.mk.inj (Option.some.inj h)
      obtain ⟨hmem, hmin⟩ := Word.lowest?_eq_some hw
      have hlt := Word.lt_of_mem_bits hmem
      rw [ids_cons, ids_cons, Word.bits_and_not_bit w hlt]
      refine ⟨Finset.mem_union_left _ hmem, fun k hk => ?_, ?_, rfl⟩
      · rcases Finset.mem_union.1 hk with hk | hk
        · exact hmin k hk
        · obtain ⟨n, _, rfl⟩ := Finset.mem_image.1 hk
          omega
      · rw [Finset.erase_union_distrib,
          Finset.erase_eq_of_notMem (Finset.disjoint_left.1 (disjoint_cons w ws) hmem)]
    | none =>
      -- The first word is empty, and `32 + j` does not wrap: `j` lies in the words after it.
      rw [hw] at h
      obtain ⟨⟨j, ws'⟩, hws, heq⟩ := Option.map_eq_some_iff.1 h
      obtain ⟨rfl, rfl⟩ := Prod.mk.inj heq
      obtain ⟨hmem, hmin, hids, hlen⟩ := ih (by omega) hws
      have hj := lt_of_mem_ids hmem
      have hsum : (32 + j).toNat = 32 + j.toNat := by
        rw [UInt32.toNat_add]
        exact Nat.mod_eq_of_lt (by show 32 + j.toNat < 2 ^ 32; omega)
      rw [ids_cons, ids_cons, Word.lowest?_eq_none hw, Finset.empty_union, Finset.empty_union, hsum, hids]
      refine ⟨Finset.mem_image_of_mem _ hmem, fun k hk => ?_, Finset.image_erase add_injective _ _, by simp [hlen]⟩
      obtain ⟨n, hn, rfl⟩ := Finset.mem_image.1 hk
      exact Nat.add_le_add_left (hmin n hn) 32

/-! ## The first numbers -/

@[simp] theorem length_below (words count : ℕ) : (below words count).length = words := by simp [below]

/-- As many numbers as fit, from zero on. -/
theorem ids_below (words count : ℕ) : ids (below words count) = Finset.range (min count (32 * words)) := by
  ext i
  rw [mem_ids, Finset.mem_range]
  by_cases hw : i / 32 < words
  · have hget : (below words count).getD (i / 32) 0 =
        if 32 * (i / 32) + 32 ≤ count then 0xffffffff
        else if 32 * (i / 32) < count then Word.bit (UInt32.ofNat (count - 32 * (i / 32))) - 1 else 0 := by
      rw [List.getD_eq_getElem?_getD, below, List.getElem?_map, List.getElem?_range hw]
      rfl
    rw [hget]
    by_cases hfull : 32 * (i / 32) + 32 ≤ count
    · rw [if_pos hfull, Word.bits_full, Finset.mem_range]
      omega
    rw [if_neg hfull]
    by_cases hsome : 32 * (i / 32) < count
    · rw [if_pos hsome, Word.bits_bit_sub_one (by omega), Finset.mem_range]
      omega
    · rw [if_neg hsome, Word.bits_zero]
      simp
      omega
  · rw [List.getD_eq_default _ _ (by rw [length_below]; omega), Word.bits_zero]
    simp
    omega

end Bitmap

end Sallyport.Dma
