/-
Numbers of a TOML document. Digits may be grouped by single underscores between them. A decimal
number has no leading zero; only a decimal number has a sign.
-/
import Sallyport.Toml.Digit
import Sallyport.Toml.Node

namespace Sallyport.Toml

/-! ## Digits -/

/-- The digits of a number in a base, without the underscores that group them. There is at least
one digit, and an underscore has a digit on each side. -/
def digits? (base : Nat) : List Char → Option (List Nat)
  | [] => none
  | [c] => (digitOf? base c).map ([·])
  | c :: '_' :: rest => (digitOf? base c).bind fun d => (digits? base rest).map (d :: ·)
  | c :: rest => (digitOf? base c).bind fun d => (digits? base rest).map (d :: ·)

/-- The digits of a decimal number without a leading zero. -/
def whole? (cs : List Char) : Option (List Nat) :=
  (digits? 10 cs).filter fun ds => ds.length = 1 || ds.head? ≠ some 0

/-- Splits off a sign: whether it is a minus, and what follows. -/
def sign : List Char → Bool × List Char
  | '-' :: rest => (true, rest)
  | '+' :: rest => (false, rest)
  | cs => (false, cs)

/-- A magnitude with a sign. -/
def signed (negative : Bool) (n : Nat) : Int := if negative then -(n : Int) else n

/-! ## Integers -/

def integer? : List Char → Option Int
  | '0' :: 'x' :: cs => (digits? 16 cs).map fun ds => (ofDigits 16 ds : Nat)
  | '0' :: 'o' :: cs => (digits? 8 cs).map fun ds => (ofDigits 8 ds : Nat)
  | '0' :: 'b' :: cs => (digits? 2 cs).map fun ds => (ofDigits 2 ds : Nat)
  | cs =>
    let (negative, body) := sign cs
    (whole? body).map fun ds => signed negative (ofDigits 10 ds)

/-! ## Floating-point numbers -/

/-- Whether a character belongs to the digits of a decimal number. -/
def isGrouped (c : Char) : Bool := c.isDigit || c = '_'

/-- Reads a power of ten, which may have leading zeros; nothing at all is the power zero. -/
def power? : List Char → Option Int
  | [] => some 0
  | e :: cs =>
    if e = 'e' || e = 'E' then
      let (negative, body) := sign cs
      (digits? 10 body).map fun ds => signed negative (ofDigits 10 ds)
    else none

/-- Reads a number with a point, a power of ten, or both. -/
def decimal? (negative : Bool) (body : List Char) : Option Floating :=
  match whole? (body.takeWhile isGrouped), body.dropWhile isGrouped with
  | none, _ => none
  | some _, [] => none
  | some whole, '.' :: rest =>
    match digits? 10 (rest.takeWhile isGrouped), power? (rest.dropWhile isGrouped) with
    | some places, some power =>
      some (.decimal negative (ofDigits 10 (whole ++ places)) (power - places.length))
    | _, _ => none
  | some whole, rest => (power? rest).map fun power => .decimal negative (ofDigits 10 whole) power

def floating? (cs : List Char) : Option Floating :=
  let (negative, body) := sign cs
  if body = ['i', 'n', 'f'] then some (.infinite negative)
  else if body = ['n', 'a', 'n'] then some .nan
  else decimal? negative body

namespace Floating

/-- The least magnitude that rounds to infinity: half a unit above the largest finite number. -/
def tooLarge : Nat := Nat.pow 2 1024 - Nat.pow 2 970

/-- Whether a decimal number is too large for a finite 64-bit number. A number of so many digits
and such a power of ten is below the power of ten of their sum. -/
def overflows : Floating → Bool
  | .decimal _ digits exponent =>
    if digits = 0 then false
    else if 400 < exponent then true
    else if 0 ≤ exponent then tooLarge ≤ digits * Nat.pow 10 exponent.toNat
    else
      let size : Int := (Nat.toDigits 10 digits).length
      if size + exponent < 300 then false
      else tooLarge * Nat.pow 10 (-exponent).toNat ≤ digits
  | .infinite _ => false
  | .nan => false

end Floating

end Sallyport.Toml
