/-
Reading hexadecimal numbers back: the number written last in a text is what stands behind its last `0x`,
whatever the text before it is.
-/
import Mathlib.Data.List.DropRight
import Mathlib.Tactic.IntervalCases
import Sallyport.Text.Hex

namespace Sallyport.Text

/-! ## Digits -/

/-- What a lower-case hexadecimal digit stands for. -/
def hexDigit? (c : Char) : Option Nat :=
  if '0' ≤ c ∧ c ≤ '9' then some (c.toNat - '0'.toNat)
  else if 'a' ≤ c ∧ c ≤ 'f' then some (c.toNat - 'a'.toNat + 10)
  else none

/-- Reads digits behind a number already read, the most significant first. -/
def readDigits? : Nat → List Char → Option Nat
  | n, [] => some n
  | n, c :: cs => (hexDigit? c).bind fun d => readDigits? (16 * n + d) cs

/-- The number that a text consists of: there must be a digit. -/
def readHex? (cs : List Char) : Option Nat := if cs = [] then none else readDigits? 0 cs

theorem hexDigit?_digitChar {d : Nat} (h : d < 16) : hexDigit? d.digitChar = some d := by
  interval_cases d <;> rfl

theorem readDigits?_append (n : Nat) (cs ds : List Char) :
    readDigits? n (cs ++ ds) = (readDigits? n cs).bind fun m => readDigits? m ds := by
  induction cs generalizing n with
  | nil => rfl
  | cons c cs ih =>
    rw [List.cons_append, readDigits?, readDigits?]
    cases hexDigit? c with
    | none => rfl
    | some d => exact ih _

theorem readDigits?_toDigits (n : Nat) : readDigits? 0 (Nat.toDigits 16 n) = some n := by
  induction n using Nat.strong_induction_on with
  | _ n ih =>
    have hlast : hexDigit? (n % 16).digitChar = some (n % 16) := hexDigit?_digitChar (by omega)
    by_cases hn : n < 16
    · rw [Nat.mod_eq_of_lt hn] at hlast
      rw [Nat.toDigits_of_lt_base hn, readDigits?, hlast]
      simp [readDigits?]
    · rw [Nat.toDigits_of_base_le (by decide) (by omega), readDigits?_append, ih (n / 16) (by omega),
        Option.bind_some, readDigits?, hlast]
      simp only [Option.bind_some, readDigits?, Option.some.injEq]
      omega

theorem mem_toDigits {n : Nat} : ∀ c ∈ Nat.toDigits 16 n, ∃ d, d < 16 ∧ c = d.digitChar := by
  induction n using Nat.strong_induction_on with
  | _ n ih =>
    intro c hc
    by_cases hn : n < 16
    · rw [Nat.toDigits_of_lt_base hn, List.mem_singleton] at hc
      exact ⟨n, hn, hc⟩
    · rw [Nat.toDigits_of_base_le (by decide) (by omega), List.mem_append, List.mem_singleton] at hc
      rcases hc with hc | hc
      · exact ih (n / 16) (by omega) c hc
      · exact ⟨n % 16, by omega, hc⟩

/-! ## The last mark -/

/-- What stands behind the last `mark` of a text. -/
def behindLast? (mark : List Char) : List Char → Option (List Char)
  | [] => none
  | c :: cs => (behindLast? mark cs).or ((c :: cs).dropPrefix? mark)

/-- The number behind the last `0x` of a text, written to the end of the text. -/
def lastHex? (s : String) : Option Nat := (behindLast? ['0', 'x'] s.toList).bind readHex?

theorem behindLast?_append {mark cs rest : List Char} (h : behindLast? mark cs = some rest) (before : List Char) :
    behindLast? mark (before ++ cs) = some rest := by
  induction before with
  | nil => exact h
  | cons c before ih => rw [List.cons_append, behindLast?, ih, Option.some_or]

theorem behindLast?_eq_none {cs : List Char} (h : 'x' ∉ cs) : behindLast? ['0', 'x'] cs = none := by
  induction cs with
  | nil => rfl
  | cons c cs ih =>
    rw [List.mem_cons, not_or] at h
    rw [behindLast?, ih h.2, Option.none_or, Option.eq_none_iff_forall_ne_some]
    intro rest hrest
    obtain ⟨mark, hmark, hbeq⟩ := List.dropPrefix?_eq_some_iff.1 hrest
    obtain rfl : mark = ['0', 'x'] := by simpa using hbeq
    have hmem : 'x' ∈ c :: cs := by simp [hmark]
    exact absurd hmem (by simp [h.1, h.2])

theorem behindLast?_mark {digits : List Char} (h : 'x' ∉ digits) :
    behindLast? ['0', 'x'] ('0' :: 'x' :: digits) = some digits := by
  have hx : behindLast? ['0', 'x'] ('x' :: digits) = none := by
    rw [behindLast?, behindLast?_eq_none h]
    rfl
  rw [behindLast?, hx, Option.none_or]
  exact List.dropPrefix?_eq_some_iff.2 ⟨['0', 'x'], rfl, rfl⟩

theorem x_not_mem_toDigits (n : Nat) : 'x' ∉ Nat.toDigits 16 n := by
  intro h
  obtain ⟨d, hd, hx⟩ := mem_toDigits _ h
  interval_cases d <;> cases hx

theorem toList_hex (w : UInt32) : (hex w).toList = '0' :: 'x' :: Nat.toDigits 16 w.toNat := by
  simp [hex, hexDigits]

theorem lastHex?_append_hex (s : String) (w : UInt32) : lastHex? (s ++ hex w) = some w.toNat := by
  have hbehind : behindLast? ['0', 'x'] (s.toList ++ '0' :: 'x' :: Nat.toDigits 16 w.toNat) =
      some (Nat.toDigits 16 w.toNat) :=
    behindLast?_append (behindLast?_mark (x_not_mem_toDigits _)) _
  rw [lastHex?, String.toList_append, toList_hex, hbehind, Option.bind_some, readHex?, if_neg Nat.toDigits_ne_nil]
  exact readDigits?_toDigits _

theorem length_toDigits_le (w : UInt32) : (Nat.toDigits 16 w.toNat).length ≤ 8 :=
  (Nat.length_toDigits_le_iff (by decide) (by decide)).2 w.toNat_lt

end Sallyport.Text
