/-
Lower-case hexadecimal numbers, the way addresses are written in diagnostics and in generated
constants: always after `0x`, without a sign, as short as possible or padded to eight digits.
-/

namespace Sallyport.Text

/-- The digits of `n` in base sixteen, most significant first, in lower case. -/
def hexDigits (n : Nat) : String := String.ofList (Nat.toDigits 16 n)

/-- The shortest form: `0x` and no leading zero. -/
def hex (n : UInt32) : String := "0x" ++ hexDigits n.toNat

/-- The form of a whole word: `0x` and eight digits. -/
def hexWord (n : UInt32) : String :=
  let digits := hexDigits n.toNat
  "0x" ++ String.ofList (List.replicate (8 - digits.length) '0') ++ digits

end Sallyport.Text
