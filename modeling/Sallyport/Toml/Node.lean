/-
What a TOML document holds: scalars, arrays and tables. A table remembers how it came to be, because
that decides who may still add to it. Of a date or time only the text is kept.
-/

namespace Sallyport.Toml

/-- A floating-point number as written. -/
inductive Floating where
  /-- The digits without the point, to be scaled by a power of ten. -/
  | decimal (negative : Bool) (digits : Nat) (exponent : Int)
  | infinite (negative : Bool)
  | nan
  deriving DecidableEq, Repr

/-- How a table came to be. -/
inductive Origin where
  /-- Under a header of its own, or as the document itself. -/
  | header
  /-- As a step on the way to a header below it. -/
  | implied
  /-- As a step of a dotted key. -/
  | dotted
  /-- Between braces. -/
  | inline
  deriving DecidableEq, Repr

/-- A value. The entries of a table stand in the order they were defined. -/
inductive Node where
  | text (s : String)
  | integer (n : Int)
  | floating (x : Floating)
  | boolean (b : Bool)
  | moment (s : String)
  | array (items : List Node)
  /-- An array made of headers in double brackets, newest table last. -/
  | tables (items : List Node)
  | table (origin : Origin) (entries : List (String × Node))

/-- Entries of a table. -/
abbrev Entries : Type := List (String × Node)

namespace Entries

def get? (es : Entries) (k : String) : Option Node := (es.find? (·.1 = k)).map (·.2)

/-- Gives a key a value, in its place if it has one, else behind all others. -/
def put (k : String) (n : Node) : Entries → Entries
  | [] => [(k, n)]
  | (j, m) :: es => if j = k then (k, n) :: es else (j, m) :: put k n es

end Entries

end Sallyport.Toml
