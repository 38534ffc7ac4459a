/-
A region descriptor and its rule never disagree. The length of a descriptor is a difference that is cut to
a word, its rule is computed from addresses that were cut before, and cutting respects differences.
-/
import Sallyport.Proofs.Mpu.Region

namespace Sallyport.Mpu

variable (start stop : UInt64) (memoryStart : UInt32)

theorem length_l2Region : (l2Region start stop memoryStart).length = stop.toUInt32 - start.toUInt32 :=
  UInt64.toUInt32_sub stop start

theorem toNat_length_l2Region : ((l2Region start stop memoryStart).length.toNat : Int) =
    ((stop.toNat : Int) - start.toNat) % 2 ^ 32 := by
  rw [length_l2Region, UInt32.toNat_sub, UInt64.toNat_toUInt32, UInt64.toNat_toUInt32]
  omega

theorem toNat_sizeCode_l2Region : (l2Region start stop memoryStart).rule.sizeCode.toNat =
    (l2Region start stop memoryStart).length.toNat / 64 % 2 ^ 16 := by
  rw [length_l2Region, l2Region, regionRuleForSymbols, toNat_sizeCode_regionRule]

theorem toNat_base_l2Region : ((l2Region start stop memoryStart).rule.base.toNat : Int) =
    ((start.toNat : Int) - memoryStart.toNat) % 2 ^ 20 / 64 * 64 := by
  rw [l2Region, regionRuleForSymbols, toNat_base_regionRule, UInt32.toNat_sub, UInt64.toNat_toUInt32]
  have := memoryStart.toNat_lt
  omega

theorem toUInt32_add_high (a k : UInt64) : (a + k * 0x100000000).toUInt32 = a.toUInt32 := by
  have hhigh : (k * 0x100000000).toNat % 2 ^ 32 = 0 := by
    rw [UInt64.toNat_mul, show (0x100000000 : UInt64).toNat = 2 ^ 32 from rfl]
    omega
  rw [← UInt32.toNat_inj, UInt64.toNat_toUInt32, UInt64.toNat_toUInt32, UInt64.toNat_add]
  omega

theorem l2Region_add_high (k : UInt64) :
    l2Region (start + k * 0x100000000) (stop + k * 0x100000000) memoryStart =
      { l2Region start stop memoryStart with baseAddress := start + k * 0x100000000 } := by
  simp only [l2Region, regionRuleForSymbols, UInt64.toUInt32_sub, toUInt32_add_high]

theorem sizeInBytes_eq_length_iff :
    (l2Region start stop memoryStart).rule.sizeInBytes = (l2Region start stop memoryStart).length ↔
      64 ∣ (l2Region start stop memoryStart).length.toNat ∧ (l2Region start stop memoryStart).length.toNat < 2 ^ 22 := by
  rw [← UInt32.toNat_inj, length_l2Region, l2Region, regionRuleForSymbols, toNat_sizeInBytes_regionRule]
  constructor
  · intro h
    constructor <;> omega
  · rintro ⟨hdvd, hlt⟩
    omega

/-- A descriptor and its rule that say the same of the range between two addresses. -/
structure Region.Describes (r : Region) (start stop : UInt64) (memoryStart : UInt32) : Prop where
  baseAddress : r.baseAddress = start
  length : (r.length.toNat : Int) = ((stop.toNat : Int) - start.toNat) % 2 ^ 32
  area : r.rule.area = .ok .l2
  sizeCode : r.rule.sizeCode.toNat = r.length.toNat / 64 % 2 ^ 16
  base : (r.rule.base.toNat : Int) = ((start.toNat : Int) - memoryStart.toNat) % 2 ^ 20 / 64 * 64
  sizeInBytes_iff : r.rule.sizeInBytes = r.length ↔ 64 ∣ r.length.toNat ∧ r.length.toNat < 2 ^ 22

theorem describes_l2Region : (l2Region start stop memoryStart).Describes start stop memoryStart where
  baseAddress := rfl
  length := toNat_length_l2Region start stop memoryStart
  area := Rule.area_encode ..
  sizeCode := toNat_sizeCode_l2Region start stop memoryStart
  base := toNat_base_l2Region start stop memoryStart
  sizeInBytes_iff := sizeInBytes_eq_length_iff start stop memoryStart

/-- The length of a range between multiples of a granule below four mebibytes is exact in both places. -/
theorem Region.Describes.exact {r : Region} (h : r.Describes start stop memoryStart) (hle : start ≤ stop)
    (hstart : 64 ∣ start.toNat) (hstop : 64 ∣ stop.toNat) (hlt : stop.toNat - start.toNat < 2 ^ 22) :
    r.length.toNat = stop.toNat - start.toNat ∧ r.rule.sizeInBytes = r.length := by
  rw [UInt64.le_iff_toNat_le] at hle
  have hlength : r.length.toNat = stop.toNat - start.toNat := by
    have := h.length
    omega
  refine ⟨hlength, h.sizeInBytes_iff.2 ⟨?_, ?_⟩⟩
  · rw [hlength]
    exact Nat.dvd_sub hstop hstart
  · rwa [hlength]

/-- Whatever two addresses are given, a descriptor and its rule say the same of them, each as far as its field
goes, and a multiple of four gibibytes shows in the address alone. Both lengths are equal iff they are a
number of granules below four mebibytes. -/
theorem descriptor_agrees_with_rule :
    (l2Region start stop memoryStart).Describes start stop memoryStart ∧
      (∀ k : UInt64, l2Region (start + k * 0x100000000) (stop + k * 0x100000000) memoryStart =
        { l2Region start stop memoryStart with baseAddress := start + k * 0x100000000 }) ∧
      (start ≤ stop → 64 ∣ start.toNat → 64 ∣ stop.toNat → stop.toNat - start.toNat < 2 ^ 22 →
        (l2Region start stop memoryStart).length.toNat = stop.toNat - start.toNat ∧
          (l2Region start stop memoryStart).rule.sizeInBytes = (l2Region start stop memoryStart).length) := by
  have hdescribes := describes_l2Region start stop memoryStart
  exact ⟨hdescribes, l2Region_add_high start stop memoryStart, hdescribes.exact⟩

/-- A page that lies above four gibibytes, and one that starts below and ends above. -/
theorem descriptor_agrees_with_rule_of_high_page :
    let page := l2Region 0x51c001000 0x51c002000
    let across := l2Region 0xffffffc0 0x100000fc0
    page.length = 0x1000 ∧ page.rule.sizeInBytes = page.length ∧ page.rule.base = 0x1000 ∧
      across.length = 0x1000 ∧ across.rule.sizeInBytes = across.length := by
  intro page across
  obtain ⟨-, -, hpage⟩ := descriptor_agrees_with_rule 0x51c001000 0x51c002000 l2Base
  obtain ⟨-, hsize⟩ := hpage (by decide) (by decide) (by decide) (by decide)
  obtain ⟨-, -, hacross⟩ := descriptor_agrees_with_rule 0xffffffc0 0x100000fc0 l2Base
  obtain ⟨-, hsize'⟩ := hacross (by decide) (by decide) (by decide) (by decide)
  exact ⟨by decide, hsize, by decide, by decide, hsize'⟩

end Sallyport.Mpu
