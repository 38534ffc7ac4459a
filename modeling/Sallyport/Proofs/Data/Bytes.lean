/-
The bytes of texts: they add up, a text is read back from its bytes, and the first so many bytes of a
text are a text only if they end where a character ends.
-/
import Sallyport.Data.Bytes

namespace Sallyport.Bytes

/-- The bytes from a place on, collected behind those already seen. -/
theorem toList_loop (bytes : ByteArray) (place : Nat) (seen : List UInt8) :
    ByteArray.toList.loop bytes place seen = seen.reverse ++ bytes.data.toList.drop place := by
  induction place, seen using ByteArray.toList.loop.induct bytes with
  | case1 place seen hlt ih =>
    have hplace : place < bytes.data.toList.length := hlt
    have hbyte : bytes.get! place = bytes.data.toList[place] := getElem!_pos bytes.data place hlt
    rw [ByteArray.toList.loop, if_pos hlt, ih, List.drop_eq_getElem_cons hplace, hbyte, List.reverse_cons,
      List.append_assoc]
    rfl
  | case2 place seen hge =>
    have hdrop : bytes.data.toList.drop place = [] := List.drop_eq_nil_of_le (Nat.le_of_not_lt hge)
    rw [ByteArray.toList.loop, if_neg hge, hdrop, List.append_nil]

theorem ofText_eq (s : String) : ofText s = s.toByteArray.data.toList := by
  rw [ofText, String.toUTF8_eq_toByteArray, ByteArray.toList, toList_loop]
  rfl

@[simp] theorem ofText_empty : ofText "" = [] := by
  rw [ofText_eq]
  rfl

@[simp] theorem ofText_append (s t : String) : ofText (s ++ t) = ofText s ++ ofText t := by
  rw [ofText_eq, ofText_eq, ofText_eq, String.toByteArray_append, ByteArray.toList_data_append]

/-! ## Reading texts -/

/-- The text that bytes in utf-8 are. -/
def toText? (bytes : List UInt8) : Option String := String.fromUTF8? ⟨bytes.toArray⟩

@[simp] theorem toText?_ofText (s : String) : toText? (ofText s) = some s := by
  have hbytes : (⟨(ofText s).toArray⟩ : ByteArray) = s.toByteArray := by rw [ofText_eq]
  rw [toText?, hbytes, String.fromUTF8?, dif_pos s.isValidUTF8]
  rfl

theorem ofText_injective : Function.Injective ofText := by
  intro s t h
  have htext : some s = some t := by rw [← toText?_ofText s, h, toText?_ofText]
  exact Option.some.inj htext

theorem utf8Encode_of_ascii {cs : List Char} (h : ∀ c ∈ cs, c.toNat < 128) :
    cs.utf8Encode = (cs.map Char.toUInt8).toByteArray := by
  induction cs with
  | nil => rfl
  | cons c cs ih =>
    rw [List.forall_mem_cons] at h
    have hsize : c.utf8Size = 1 := by
      rw [Char.utf8Size_eq_one_iff, UInt32.le_iff_toNat_le]
      exact Nat.le_of_lt_succ h.1
    rw [List.utf8Encode_cons, List.utf8Encode_singleton, String.utf8EncodeChar_eq_singleton hsize, ih h.2,
      ← List.toByteArray_append]
    rfl

theorem ofText_of_ascii {s : String} (h : ∀ c ∈ s.toList, c.toNat < 128) :
    ofText s = s.toList.map Char.toUInt8 := by
  rw [ofText_eq, ← String.utf8Encode_toList, utf8Encode_of_ascii h, List.toList_data_toByteArray]

theorem toNat_toUInt8_of_ascii {c : Char} (h : c.toNat < 128) : c.toUInt8.toNat = c.toNat := by
  have hmod : c.toUInt8.toNat = c.toNat % 256 := UInt32.toNat_toUInt8 c.val
  omega

/-! ## Texts cut short -/

theorem toText?_eq_some_iff {bytes : List UInt8} {t : String} : toText? bytes = some t ↔ bytes = ofText t := by
  constructor
  · intro h
    unfold toText? String.fromUTF8? at h
    split at h
    · obtain rfl := Option.some.inj h
      rw [ofText_eq]
      rfl
    · cases h
  · rintro rfl
    exact toText?_ofText t

theorem ofText_eq_flatMap (s : String) : ofText s = s.toList.flatMap String.utf8EncodeChar := by
  rw [ofText_eq, ← String.utf8Encode_toList, List.utf8Encode, List.toList_data_toByteArray]

/-- Where the bytes of two characters begin the same bytes, the characters are the same. -/
theorem utf8EncodeChar_append_inj {c d : Char} {cs ds : List UInt8}
    (h : String.utf8EncodeChar c ++ cs = String.utf8EncodeChar d ++ ds) : c = d ∧ cs = ds := by
  have hdecode : ∀ (c : Char) (cs : List UInt8),
      (String.utf8EncodeChar c ++ cs).toByteArray.utf8DecodeChar? 0 = some c := fun c cs => by
    rw [List.toByteArray_append, ByteArray.utf8DecodeChar?_utf8EncodeChar_append]
  have hchar : c = d := by
    have hc := hdecode c cs
    rw [h, hdecode d ds] at hc
    exact (Option.some.inj hc).symm
  subst hchar
  exact ⟨rfl, List.append_cancel_left h⟩

theorem prefix_of_utf8Encode_prefix {ts : List Char} : ∀ {cs : List Char},
    ts.flatMap String.utf8EncodeChar <+: cs.flatMap String.utf8EncodeChar → ts <+: cs := by
  induction ts with
  | nil => exact fun _ => List.nil_prefix
  | cons t ts ih =>
    rintro cs ⟨tail, h⟩
    rw [List.flatMap_cons, List.append_assoc] at h
    cases cs with
    | nil => exact absurd (List.append_eq_nil_iff.1 h).1 String.utf8EncodeChar_ne_nil
    | cons c cs =>
      rw [List.flatMap_cons] at h
      obtain ⟨rfl, htail⟩ := utf8EncodeChar_append_inj h
      exact List.cons_prefix_cons.2 ⟨rfl, ih ⟨tail, htail⟩⟩

theorem ofText_prefix_iff {s t : String} : ofText t <+: ofText s ↔ ∃ rest, s = t ++ rest := by
  constructor
  · intro h
    rw [ofText_eq_flatMap, ofText_eq_flatMap] at h
    obtain ⟨rest, hrest⟩ := prefix_of_utf8Encode_prefix h
    exact ⟨String.ofList rest, by rw [← String.toList_inj, String.toList_append, String.toList_ofList, hrest]⟩
  · rintro ⟨rest, rfl⟩
    exact ⟨ofText rest, (ofText_append t rest).symm⟩

/-- The first bytes of a text are a text iff they are all the bytes of a beginning of it. -/
theorem toText?_take_iff {s t : String} {n : Nat} :
    toText? ((ofText s).take n) = some t ↔ (∃ rest, s = t ++ rest) ∧ (ofText t).length = min n (ofText s).length := by
  rw [toText?_eq_some_iff, ← ofText_prefix_iff]
  constructor
  · intro h
    rw [← h]
    exact ⟨List.take_prefix .., List.length_take⟩
  · rintro ⟨hbegins, hlength⟩
    rw [List.prefix_iff_eq_take.1 hbegins, hlength, ← List.take_eq_take_min]

/-- Nothing, or a beginning of the next character that is not all of it. -/
def BrokenOff (rest : List Char) (fragment : List UInt8) : Prop :=
  fragment = [] ∨ ∃ c cs, rest = c :: cs ∧ fragment <+: String.utf8EncodeChar c ∧ fragment.length < c.utf8Size

theorem exists_take_utf8Encode (cs : List Char) : ∀ n, ∃ front rest fragment, cs = front ++ rest ∧
    (cs.flatMap String.utf8EncodeChar).take n = front.flatMap String.utf8EncodeChar ++ fragment ∧
      BrokenOff rest fragment := by
  induction cs with
  | nil => exact fun n => ⟨[], [], [], rfl, List.take_nil, .inl rfl⟩
  | cons c cs ih =>
    intro n
    by_cases hn : c.utf8Size ≤ n
    · -- The whole character is among the bytes.
      obtain ⟨front, rest, fragment, rfl, htake, hfragment⟩ := ih (n - c.utf8Size)
      refine ⟨c :: front, rest, fragment, rfl, ?_, hfragment⟩
      rw [List.flatMap_cons, List.take_append, String.length_utf8EncodeChar, htake,
        List.take_of_length_le (by rwa [String.length_utf8EncodeChar]), List.flatMap_cons, List.append_assoc]
    · have hlt : n < c.utf8Size := Nat.lt_of_not_le hn
      have hle : n ≤ (String.utf8EncodeChar c).length := by
        rw [String.length_utf8EncodeChar]
        exact Nat.le_of_lt hlt
      refine ⟨[], c :: cs, (String.utf8EncodeChar c).take n, rfl, ?_, .inr ⟨c, cs, rfl, List.take_prefix .., ?_⟩⟩
      · rw [List.flatMap_cons, List.take_append_of_le_length hle]
        rfl
      · rw [List.length_take]
        exact Nat.lt_of_le_of_lt (Nat.min_le_left ..) hlt

/-- The first bytes of a text are whole characters, and behind them maybe a beginning of the next one. -/
theorem exists_take_ofText (s : String) (n : Nat) : ∃ front rest fragment, s = front ++ rest ∧
    (ofText s).take n = ofText front ++ fragment ∧ BrokenOff rest.toList fragment := by
  obtain ⟨front, rest, fragment, hs, htake, hfragment⟩ := exists_take_utf8Encode s.toList n
  refine ⟨String.ofList front, String.ofList rest, fragment, ?_, ?_, ?_⟩
  · rw [← String.toList_inj, hs, String.toList_append, String.toList_ofList, String.toList_ofList]
  · rw [ofText_eq_flatMap, ofText_eq_flatMap, htake, String.toList_ofList]
  · rwa [String.toList_ofList]

theorem BrokenOff.eq_nil {rest : List Char} {t : String} (h : BrokenOff rest (ofText t)) : ofText t = [] := by
  obtain h | ⟨c, cs, -, ⟨tail, htail⟩, hlt⟩ := h
  · exact h
  rw [ofText_eq_flatMap] at htail hlt ⊢
  cases ht : t.toList with
  | nil => rfl
  | cons d ds =>
    rw [ht, List.flatMap_cons] at htail hlt
    rw [List.append_assoc, ← List.append_nil (String.utf8EncodeChar c)] at htail
    obtain ⟨rfl, -⟩ := utf8EncodeChar_append_inj htail
    rw [List.length_append, String.length_utf8EncodeChar] at hlt
    omega

theorem toText?_append_brokenOff {rest : List Char} {fragment : List UInt8} (h : BrokenOff rest fragment)
    (front : String) : toText? (ofText front ++ fragment) = if fragment = [] then some front else none := by
  split
  · next hnil => rw [hnil, List.append_nil, toText?_ofText]
  · next hne =>
    rw [Option.eq_none_iff_forall_ne_some]
    intro t ht
    rw [toText?_eq_some_iff] at ht
    obtain ⟨back, rfl⟩ := ofText_prefix_iff.1 ⟨fragment, ht⟩
    rw [ofText_append, List.append_cancel_left_eq] at ht
    subst ht
    exact hne h.eq_nil

theorem zero_notMem_ofText {s : String} (h : '\x00' ∉ s.toList) : 0 ∉ ofText s := by
  rw [ofText_eq_flatMap, List.mem_flatMap]
  rintro ⟨c, hc, hzero⟩
  -- A byte of a longer character has its highest bit set.
  have hor : ∀ x y : UInt8, y ≠ 0 → 0 ≠ x ||| y := fun x y hy e => hy (UInt8.or_eq_zero_iff.1 e.symm).2
  rcases c.utf8Size_eq with hs | hs | hs | hs
  · rw [String.utf8EncodeChar_eq_singleton hs, List.mem_singleton] at hzero
    rw [Char.utf8Size_eq_one_iff, UInt32.le_iff_toNat_le] at hs
    have hbyte : c.toUInt8.toNat = c.toNat := toNat_toUInt8_of_ascii (Nat.lt_succ_of_le hs)
    have hnull : c = '\x00' := Char.toNat_inj.1 (hbyte.symm.trans (congrArg UInt8.toNat hzero.symm))
    exact h (hnull ▸ hc)
  · rw [String.utf8EncodeChar_eq_cons_cons hs] at hzero
    simp [hor] at hzero
  · rw [String.utf8EncodeChar_eq_cons_cons_cons hs] at hzero
    simp [hor] at hzero
  · rw [String.utf8EncodeChar_eq_cons_cons_cons_cons hs] at hzero
    simp [hor] at hzero

end Sallyport.Bytes
