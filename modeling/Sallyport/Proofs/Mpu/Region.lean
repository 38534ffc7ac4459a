/-
The rule of a range of addresses says exactly what was asked for iff base and size are whole granules and
fit their fields. It then covers the bytes of the range and no others, so ranges of one area that do not
meet get rules that do not meet.
-/
import Mathlib.Data.Set.Lattice
import Mathlib.Order.CompletePartialOrder
import Sallyport.Mpu.Region
import Sallyport.Proofs.Mpu.Rule

namespace Sallyport.Mpu

variable {area : Area} {start stop baseOffset : UInt32}

/-! ## Base and size -/

theorem toNat_base_regionRule (area : Area) (start stop baseOffset : UInt32) :
    (regionRule area start stop baseOffset).base.toNat = (start - baseOffset).toNat % 2 ^ 20 / 64 * 64 := by
  rw [regionRule, Rule.toNat_base_encode]
  omega

theorem toNat_sizeCode_regionRule (area : Area) (start stop baseOffset : UInt32) :
    (regionRule area start stop baseOffset).sizeCode.toNat = (stop - start).toNat / 64 % 2 ^ 16 := by
  have hgranules : ((stop - start) >>> granuleShift).toNat = (stop - start).toNat / 64 := by
    rw [granuleShift, UInt32.toNat_shiftRight, Nat.shiftRight_eq_div_pow]
    rfl
  rw [regionRule, Rule.toNat_sizeCode_encode, hgranules]

theorem toNat_sizeInBytes_regionRule (area : Area) (start stop baseOffset : UInt32) :
    (regionRule area start stop baseOffset).sizeInBytes.toNat = (stop - start).toNat % 2 ^ 22 / 64 * 64 := by
  rw [Rule.toNat_sizeInBytes, toNat_sizeCode_regionRule]
  omega

/-! ## Ranges a rule can express -/

/-- A base and a size in whole granules, the base within a mebibyte and the size below four. -/
structure Expressible (start stop baseOffset : UInt32) : Prop where
  base_dvd : 64 ∣ (start - baseOffset).toNat
  base_lt : (start - baseOffset).toNat < 2 ^ 20
  size_dvd : 64 ∣ (stop - start).toNat
  size_lt : (stop - start).toNat < 2 ^ 22

theorem expressible_iff (area : Area) : Expressible start stop baseOffset ↔
    (regionRule area start stop baseOffset).base = start - baseOffset ∧
      (regionRule area start stop baseOffset).sizeInBytes = stop - start := by
  rw [← UInt32.toNat_inj, ← UInt32.toNat_inj, toNat_base_regionRule, toNat_sizeInBytes_regionRule]
  constructor
  · rintro ⟨hbase, hbaselt, hsize, hsizelt⟩
    constructor <;> omega
  · rintro ⟨hbase, hsize⟩
    constructor <;> omega

/-! ## What is covered -/

/-- The addresses from `start` up to `stop`. -/
def addresses (start stop : UInt32) : Set UInt32 := {a | start ≤ a ∧ a < stop}

/-- The bytes a rule covers: places counted from the start of an area. -/
def Rule.covered (r : Rule) : Set (Area × Nat) :=
  {p | r.area = .ok p.1 ∧ r.base.toNat ≤ p.2 ∧ p.2 < r.base.toNat + r.sizeInBytes.toNat}

/-- The byte at a place is covered iff its address, which wraps past the largest word, lies in the range. -/
theorem mem_covered_iff (h : Expressible start stop baseOffset) (hle : start ≤ stop) {a : Area} {place : Nat} :
    (a, place) ∈ (regionRule area start stop baseOffset).covered ↔
      a = area ∧ place < 2 ^ 32 ∧ baseOffset + UInt32.ofNat place ∈ addresses start stop := by
  obtain ⟨hbase, hsize⟩ := (expressible_iff area).1 h
  have harea : (regionRule area start stop baseOffset).area = .ok area := Rule.area_encode ..
  have hbaselt := h.base_lt
  have hsizelt := h.size_lt
  have hlen : (stop - start).toNat = stop.toNat - start.toNat := UInt32.toNat_sub_of_le _ _ hle
  have hd : (start - baseOffset).toNat = (2 ^ 32 - baseOffset.toNat + start.toNat) % 2 ^ 32 :=
    UInt32.toNat_sub ..
  have haddress : (baseOffset + UInt32.ofNat place).toNat = (baseOffset.toNat + place) % 2 ^ 32 := by
    rw [UInt32.toNat_add, UInt32.toNat_ofNat']
    omega
  simp only [Rule.covered, addresses, Set.mem_ofPred_eq, harea, hbase, hsize, UInt32.le_iff_toNat_le,
    UInt32.lt_iff_toNat_lt, haddress] at hle ⊢
  -- Base and size stay so far below the words that a place wraps at most once; the rest is linear.
  have hb := baseOffset.toNat_lt
  have hs := start.toNat_lt
  have he := stop.toNat_lt
  constructor
  · rintro ⟨hok, hlo, hhi⟩
    obtain rfl := Except.ok.inj hok
    refine ⟨rfl, ?_, ?_, ?_⟩ <;> omega
  · rintro ⟨rfl, hplace, hlo, hhi⟩
    refine ⟨rfl, ?_, ?_⟩ <;> omega

theorem disjoint_covered {start' stop' : UInt32} (h : Expressible start stop baseOffset) (hle : start ≤ stop)
    (h' : Expressible start' stop' baseOffset) (hle' : start' ≤ stop')
    (hdisjoint : Disjoint (addresses start stop) (addresses start' stop')) :
    Disjoint (regionRule area start stop baseOffset).covered (regionRule area start' stop' baseOffset).covered := by
  rw [Set.disjoint_left]
  rintro ⟨a, place⟩ hp hp'
  obtain ⟨-, -, hmem⟩ := (mem_covered_iff h hle).1 hp
  obtain ⟨-, -, hmem'⟩ := (mem_covered_iff h' hle').1 hp'
  exact Set.disjoint_left.1 hdisjoint hmem hmem'

/-- A rule protects exactly the range asked for, precisely when a rule can express it: when base and size are
whole granules and in reach. Two such ranges of one area that do not meet get rules that cover disjoint
memory. -/
theorem rule_covers_range_asked_for (area : Area) (start stop baseOffset : UInt32) :
    let base := start - baseOffset
    let size := stop - start
    let r := regionRule area start stop baseOffset
    r.area = .ok area ∧
      (r.base = base ∧ r.sizeInBytes = size ↔ Expressible start stop baseOffset) ∧
      r.base.toNat = base.toNat % 2 ^ 20 / 64 * 64 ∧ r.sizeInBytes.toNat = size.toNat % 2 ^ 22 / 64 * 64 ∧
      (Expressible start stop baseOffset → start ≤ stop →
        (∀ a place, (a, place) ∈ r.covered ↔
          a = area ∧ place < 2 ^ 32 ∧ baseOffset + UInt32.ofNat place ∈ addresses start stop) ∧
        ∀ start' stop', Expressible start' stop' baseOffset → start' ≤ stop' →
          Disjoint (addresses start stop) (addresses start' stop') →
          Disjoint r.covered (regionRule area start' stop' baseOffset).covered) := by
  intro base size r
  refine ⟨Rule.area_encode .., (expressible_iff area).symm, toNat_base_regionRule .., toNat_sizeInBytes_regionRule ..,
    fun h hle => ⟨?_, ?_⟩⟩
  · intro a place
    exact mem_covered_iff h hle
  · intro start' stop' h' hle' hdisjoint
    exact disjoint_covered h hle h' hle' hdisjoint

/-- An area that goes on behind the largest address, with a range on either side of the wrap. -/
theorem rules_on_both_sides_of_the_wrap :
    Expressible 0xffffff80 0xffffffc0 0xffffff80 ∧ (0xffffff80 : UInt32) ≤ 0xffffffc0 ∧
      Expressible 0 0x1000 0xffffff80 ∧
      (regionRule .l2 0 0x1000 0xffffff80).base = 0x80 ∧ (regionRule .l2 0 0x1000 0xffffff80).sizeInBytes = 0x1000 ∧
      Disjoint (regionRule .l2 0xffffff80 0xffffffc0 0xffffff80).covered
        (regionRule .l2 0 0x1000 0xffffff80).covered := by
  have hlow : Expressible 0xffffff80 0xffffffc0 0xffffff80 := by constructor <;> decide
  have hhigh : Expressible 0 0x1000 0xffffff80 := by constructor <;> decide
  have hle : (0xffffff80 : UInt32) ≤ 0xffffffc0 := by decide
  have hdisjoint : Disjoint (addresses 0xffffff80 0xffffffc0) (addresses 0 0x1000) := by
    rw [Set.disjoint_left]
    rintro a ⟨hlo, -⟩ ⟨-, hhi⟩
    exact absurd (UInt32.lt_of_le_of_lt hlo hhi) (by decide)
  obtain ⟨-, hexact, -, -, -⟩ := rule_covers_range_asked_for .l2 0 0x1000 0xffffff80
  obtain ⟨hbase, hsize⟩ := hexact.2 hhigh
  obtain ⟨-, -, -, -, hcovered⟩ := rule_covers_range_asked_for .l2 0xffffff80 0xffffffc0 0xffffff80
  exact ⟨hlow, hle, hhigh, hbase, hsize, (hcovered hlow hle).2 0 0x1000 hhigh (by decide) hdisjoint⟩

end Sallyport.Mpu
