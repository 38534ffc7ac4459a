/-
Digits in bases up to sixteen, in either case.
-/

namespace Sallyport.Toml

/-- The value of a letter or figure as a digit. -/
def digit? (c : Char) : Option Nat :=
  if c.isDigit then some (c.toNat - '0'.toNat)
  else if 'a' ≤ c && c ≤ 'f' then some (c.toNat - 'a'.toNat + 10)
  else if 'A' ≤ c && c ≤ 'F' then some (c.toNat - 'A'.toNat + 10)
  else none

/-- The value of a digit in a base. -/
def digitOf? (base : Nat) (c : Char) : Option Nat := (digit? c).filter (· < base)

/-- The number with the given digits in a base. -/
def ofDigits (base : Nat) (ds : List Nat) : Nat := ds.foldl (fun n d => base * n + d) 0

/-- The number that a text of digits only stands for in a base. -/
def number? (base : Nat) (cs : List Char) : Option Nat :=
  (cs.mapM (digitOf? base)).map (ofDigits base)

end Sallyport.Toml
