/-
The rule word is a faithful format. As a number it has three digits in mixed radix: the tag of the area
(below 4), the base in granules (below 2 ^ 14) and the size in granules (below 2 ^ 16); decoding takes
the digits apart again.
-/
import Mathlib.Data.Nat.Bitwise
import Sallyport.Mpu.Rule

namespace Sallyport.Mpu

/-! ## Tags -/

namespace Area

theorem toNat_tag_lt (a : Area) : a.tag.toNat < 3 := by cases a <;> decide

theorem tag_injective {a b : Area} (h : a.tag.toNat = b.tag.toNat) : a = b := by
  have h := UInt32.toNat.inj h
  have hok : (Except.ok a : Except UInt32 Area) = .ok b := by rw [← ofTag_tag a, ← ofTag_tag b, h]
  exact Except.ok.inj hok

theorem ofTag_cases {n : UInt32} (h : n.toNat < 4) :
    n.toNat = 3 ∧ ofTag n = .error 3 ∨ n.toNat ≠ 3 ∧ ∃ a, ofTag n = .ok a ∧ a.tag = n := by
  obtain hn | hn | hn | hn : n = 0 ∨ n = 1 ∨ n = 2 ∨ n = 3 := by
    simp only [← UInt32.toNat_inj, UInt32.reduceToNat]
    omega
  · subst hn; exact .inr ⟨by decide, .fcTcdm, rfl, rfl⟩
  · subst hn; exact .inr ⟨by decide, .l2, rfl, rfl⟩
  · subst hn; exact .inr ⟨by decide, .apb, rfl, rfl⟩
  · subst hn; exact .inl ⟨rfl, rfl⟩

end Area

namespace Rule

/-! ## Words as numbers -/

theorem eq_of_toNat {r s : Rule} (h : r.word.toNat = s.word.toNat) : r = s :=
  congrArg Rule.mk (UInt32.toNat.inj h)

theorem toNat_encode (a : Area) (base sizeCode : UInt32) :
    (encode a base sizeCode).word.toNat =
      a.tag.toNat + 4 * (base.toNat / 64 % 2 ^ 14) + 2 ^ 16 * (sizeCode.toNat % 2 ^ 16) := by
  have ha := a.toNat_tag_lt
  have htag : a.tag.toNat &&& 3 = a.tag.toNat := by
    rw [Nat.and_two_pow_sub_one_eq_mod _ 2]
    omega
  have hbase : (base.toNat >>> 6 &&& 16383) <<< 2 % 4294967296 = (base.toNat / 64 % 2 ^ 14) <<< 2 := by
    rw [Nat.and_two_pow_sub_one_eq_mod _ 14, Nat.shiftRight_eq_div_pow, Nat.shiftLeft_eq]
    omega
  have hsize : (sizeCode.toNat &&& 65535) <<< 16 % 4294967296 = (sizeCode.toNat % 2 ^ 16) <<< 16 := by
    rw [Nat.and_two_pow_sub_one_eq_mod _ 16, Nat.shiftLeft_eq]
    omega
  simp only [encode, granuleShift, UInt32.toNat_or, UInt32.toNat_and, UInt32.toNat_shiftLeft,
    UInt32.toNat_shiftRight, UInt32.reduceToNat, Nat.reducePow, Nat.reduceMod]
  rw [htag, hbase, hsize]
  -- Each field lies above the ones before it, so putting them together adds them up.
  have hlow : a.tag.toNat ||| (base.toNat / 64 % 2 ^ 14) <<< 2 = a.tag.toNat + 4 * (base.toNat / 64 % 2 ^ 14) := by
    rw [Nat.or_comm, ← Nat.shiftLeft_add_eq_or_of_lt (by omega), Nat.shiftLeft_eq]
    omega
  rw [hlow, Nat.or_comm, ← Nat.shiftLeft_add_eq_or_of_lt (by omega), Nat.shiftLeft_eq]
  omega

theorem toNat_tagField (r : Rule) : (r.word &&& 3).toNat = r.word.toNat % 4 :=
  Nat.and_two_pow_sub_one_eq_mod _ 2

theorem toNat_base (r : Rule) : r.base.toNat = 64 * (r.word.toNat / 4 % 2 ^ 14) := by
  simp only [base, granuleShift, UInt32.toNat_and, UInt32.toNat_shiftLeft, UInt32.toNat_shiftRight,
    UInt32.reduceToNat, Nat.reducePow, Nat.reduceMod]
  rw [Nat.and_two_pow_sub_one_eq_mod _ 14, Nat.shiftRight_eq_div_pow, Nat.shiftLeft_eq]
  omega

theorem toNat_sizeCode (r : Rule) : r.sizeCode.toNat = r.word.toNat / 2 ^ 16 := by
  have := r.word.toNat_lt
  simp only [sizeCode, UInt32.toNat_and, UInt32.toNat_shiftRight, UInt32.reduceToNat, Nat.reduceMod]
  rw [Nat.and_two_pow_sub_one_eq_mod _ 16, Nat.shiftRight_eq_div_pow]
  omega

/-- The size in bytes always fits: the largest one is 64 bytes short of four mebibytes. -/
theorem toNat_sizeInBytes (r : Rule) : r.sizeInBytes.toNat = 64 * r.sizeCode.toNat := by
  have := r.word.toNat_lt
  have := r.toNat_sizeCode
  simp only [sizeInBytes, granuleShift, UInt32.toNat_shiftLeft, UInt32.reduceToNat, Nat.reduceMod]
  rw [Nat.shiftLeft_eq]
  omega

/-! ## Decoding what was encoded -/

theorem area_encode (a : Area) (base sizeCode : UInt32) : (encode a base sizeCode).area = .ok a := by
  have ha := a.toNat_tag_lt
  have htag : (encode a base sizeCode).word &&& 3 = a.tag := by
    apply UInt32.toNat.inj
    rw [toNat_tagField, toNat_encode]
    omega
  rw [area, htag, Area.ofTag_tag]

theorem toNat_base_encode (a : Area) (base sizeCode : UInt32) :
    (encode a base sizeCode).base.toNat = 64 * (base.toNat / 64 % 2 ^ 14) := by
  have ha := a.toNat_tag_lt
  rw [toNat_base, toNat_encode]
  omega

theorem toNat_sizeCode_encode (a : Area) (base sizeCode : UInt32) :
    (encode a base sizeCode).sizeCode.toNat = sizeCode.toNat % 2 ^ 16 := by
  have ha := a.toNat_tag_lt
  rw [toNat_sizeCode, toNat_encode]
  omega

theorem testBit_granules (n i : Nat) :
    (64 * (n / 64 % 2 ^ 14)).testBit i = (decide (6 ≤ i ∧ i < 20) && n.testBit i) := by
  rw [show 64 = 2 ^ 6 from rfl, Nat.testBit_two_pow_mul, Nat.testBit_mod_two_pow,
    Nat.testBit_div_two_pow]
  by_cases h : 6 ≤ i
  · simp [h, show i - 6 < 14 ↔ i < 20 by omega]
  · simp [h]

theorem granules_eq_iff (m n : Nat) :
    m / 64 % 2 ^ 14 = n / 64 % 2 ^ 14 ↔ ∀ i, 6 ≤ i → i < 20 → m.testBit i = n.testBit i := by
  constructor
  · intro h i hlo hhi
    have hbit : (64 * (m / 64 % 2 ^ 14)).testBit i = (64 * (n / 64 % 2 ^ 14)).testBit i := by rw [h]
    rw [testBit_granules, testBit_granules] at hbit
    simpa [hlo, hhi] using hbit
  · intro h
    have hbits : 64 * (m / 64 % 2 ^ 14) = 64 * (n / 64 % 2 ^ 14) := by
      apply Nat.eq_of_testBit_eq
      intro i
      rw [testBit_granules, testBit_granules]
      by_cases hi : 6 ≤ i ∧ i < 20
      · rw [h i hi.1 hi.2]
      · simp [hi]
    omega

theorem encode_eq_encode_iff (a a' : Area) (base base' sizeCode sizeCode' : UInt32) :
    encode a base sizeCode = encode a' base' sizeCode' ↔
      a = a' ∧ base.toNat / 64 % 2 ^ 14 = base'.toNat / 64 % 2 ^ 14 ∧
        sizeCode.toNat % 2 ^ 16 = sizeCode'.toNat % 2 ^ 16 := by
  have ha := a.toNat_tag_lt
  have ha' := a'.toNat_tag_lt
  constructor
  · intro h
    have hword := congrArg (fun r => r.word.toNat) h
    simp only [toNat_encode] at hword
    refine ⟨Area.tag_injective ?_, ?_, ?_⟩ <;> omega
  · rintro ⟨rfl, hbase, hsize⟩
    apply eq_of_toNat
    rw [toNat_encode, toNat_encode, hbase, hsize]

/-! ## Encoding what was decoded -/

theorem area_cases (r : Rule) :
    r.word.toNat % 4 = 3 ∧ r.area = .error 3 ∨
      r.word.toNat % 4 ≠ 3 ∧ ∃ a, r.area = .ok a ∧ a.tag.toNat = r.word.toNat % 4 := by
  have hn := r.toNat_tagField
  have hcases := Area.ofTag_cases (n := r.word &&& 3) (by omega)
  rw [hn] at hcases
  rcases hcases with ⟨h, harea⟩ | ⟨h, a, harea, htag⟩
  · exact .inl ⟨h, harea⟩
  · exact .inr ⟨h, a, harea, by rw [htag, hn]⟩

theorem encode_decode {r : Rule} {a : Area} (htag : a.tag.toNat = r.word.toNat % 4) :
    encode a r.base r.sizeCode = r := by
  have := r.word.toNat_lt
  apply eq_of_toNat
  rw [toNat_encode, toNat_base, toNat_sizeCode, htag]
  omega

/-- Decoding an encoded rule gives the area, bits 6 to 19 of the base, and the size code cut to 16 bits; two
encodings are one word exactly if these agree. A word whose two lowest bits are set names no area, and any
other is what its decoded fields are encoded as. -/
theorem fields_faithful :
    (∀ (a : Area) (base sizeCode : UInt32),
      (encode a base sizeCode).area = .ok a ∧
      (∀ i, (encode a base sizeCode).base.toNat.testBit i =
        (decide (6 ≤ i ∧ i < 20) && base.toNat.testBit i)) ∧
      (encode a base sizeCode).sizeCode.toNat = sizeCode.toNat % 2 ^ 16 ∧
      (encode a base sizeCode).sizeInBytes.toNat = 64 * (encode a base sizeCode).sizeCode.toNat) ∧
    (∀ (a a' : Area) (base base' sizeCode sizeCode' : UInt32),
      encode a base sizeCode = encode a' base' sizeCode' ↔
        a = a' ∧ (∀ i, 6 ≤ i → i < 20 → base.toNat.testBit i = base'.toNat.testBit i) ∧
          sizeCode.toNat % 2 ^ 16 = sizeCode'.toNat % 2 ^ 16) ∧
    (∀ r : Rule, (r.area = .error 3 ↔ r.word &&& 3 = 3) ∧
      (r.word &&& 3 ≠ 3 → ∃ a, r.area = .ok a ∧ encode a r.base r.sizeCode = r)) := by
  refine ⟨fun a base sizeCode => ?_, fun a a' base base' sizeCode sizeCode' => ?_, fun r => ?_⟩
  · refine ⟨area_encode a base sizeCode, fun i => ?_, toNat_sizeCode_encode a base sizeCode,
      toNat_sizeInBytes _⟩
    rw [toNat_base_encode, testBit_granules]
  · rw [encode_eq_encode_iff, granules_eq_iff]
  · rw [ne_eq, ← UInt32.toNat_inj, toNat_tagField]
    rcases r.area_cases with ⟨h, harea⟩ | ⟨h, a, harea, htag⟩
    · exact ⟨⟨fun _ => h, fun _ => harea⟩, fun h3 => absurd h h3⟩
    · refine ⟨⟨fun he => ?_, fun h3 => absurd h3 h⟩, fun _ => ⟨a, harea, encode_decode htag⟩⟩
      rw [harea] at he
      cases he

end Rule

end Sallyport.Mpu
