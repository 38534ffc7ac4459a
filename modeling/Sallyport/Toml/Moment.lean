/-
Dates and times of a TOML document: a date, a time of day, or both with or without an offset. Every
field has a fixed number of digits and has to be in range, days by the length of their month. A time
of day may leave out its seconds, and a second may be the sixtieth.
-/
import Sallyport.Toml.Text

namespace Sallyport.Toml.Moment

/-- Reads a number of a fixed number of digits within bounds. -/
def field? (width low high : Nat) : Reader Nat := fun s =>
  match number? 10 (s.take width) with
  | some n => if width ≤ s.length && low ≤ n && n ≤ high then some (n, s.drop width) else none
  | none => none

/-- What follows a mark, if the text begins with it. -/
def after? (mark : Char) : List Char → Option (List Char)
  | c :: rest => if c = mark then some rest else none
  | [] => none

def isLeapYear (year : Nat) : Bool := year % 4 = 0 && (year % 100 ≠ 0 || year % 400 = 0)

/-- Number of days of a month. -/
def daysIn (year month : Nat) : Nat :=
  if month = 2 then if isLeapYear year then 29 else 28
  else if month = 4 || month = 6 || month = 9 || month = 11 then 30
  else 31

/-- What follows a date. -/
def afterDate? (s : List Char) : Option (List Char) := do
  let (year, s) ← field? 4 0 9999 s
  let s ← after? '-' s
  let (month, s) ← field? 2 1 12 s
  let s ← after? '-' s
  let (_, s) ← field? 2 1 (daysIn year month) s
  return s

/-- What follows a fraction of a second, which has any number of digits but none. -/
def afterFraction? : List Char → Option (List Char)
  | '.' :: c :: rest => if c.isDigit then some (rest.dropWhile Char.isDigit) else none
  | '.' :: [] => none
  | s => some s

/-- What follows the seconds of a time of day, if there are any. -/
def afterSeconds? (s : List Char) : Option (List Char) :=
  match after? ':' s with
  | none => some s
  | some s => (field? 2 0 60 s).bind fun (_, s) => afterFraction? s

/-- What follows a time of day. -/
def afterTime? (s : List Char) : Option (List Char) := do
  let (_, s) ← field? 2 0 23 s
  let s ← after? ':' s
  let (_, s) ← field? 2 0 59 s
  afterSeconds? s

/-- What follows an offset, if there is any. -/
def afterOffset? : List Char → Option (List Char)
  | [] => some []
  | c :: rest =>
    if c = 'Z' || c = 'z' then some rest
    else if c = '+' || c = '-' then do
      let (_, s) ← field? 2 0 23 rest
      let s ← after? ':' s
      let (_, s) ← field? 2 0 59 s
      return s
    else none

/-- Whether a text is a date. -/
def isDate (s : List Char) : Bool := afterDate? s = some []

/-- Whether a text is a time of day. -/
def isTime (s : List Char) : Bool := afterTime? s = some []

/-- Whether a text is a date and a time of day. -/
def isDateTime (s : List Char) : Bool :=
  match afterDate? s with
  | some (c :: rest) =>
    (c = 'T' || c = 't' || c = ' ') && (afterTime? rest).bind afterOffset? = some []
  | _ => false

/-- Whether a text is a moment of any form. -/
def isMoment (s : List Char) : Bool := isDate s || isTime s || isDateTime s

end Sallyport.Toml.Moment
