/-
The text of a TOML document below the level of values: blanks, comments, line ends and the four
kinds of string. A reader takes what it can from the front of the text and gives what is left; a
carriage return counts only in front of a line feed.
-/
import Sallyport.Toml.Digit

namespace Sallyport.Toml

/-- Reads something from the front of a text, or finds that it is not there. -/
abbrev Reader (α : Type) : Type := List Char → Option (α × List Char)

/-! ## Layout -/

def isBlank (c : Char) : Bool := c = ' ' || c = '\t'

/-- Whether a character may stand for itself in comments and strings: every one but the control
characters, of which the tab is allowed. -/
def isPlain (c : Char) : Bool := c = '\t' || (' ' ≤ c && c ≠ '\x7f')

def skipBlanks (s : List Char) : List Char := s.dropWhile isBlank

/-- What follows a line end, if the text begins with one. -/
def afterNewline? : List Char → Option (List Char)
  | '\n' :: rest => some rest
  | '\r' :: '\n' :: rest => some rest
  | _ => none

/-- Skips blanks and line ends. -/
def skipLayout (s : List Char) : List Char :=
  match afterNewline? (skipBlanks s) with
  | some rest => if _h : rest.length < s.length then skipLayout rest else rest
  | none => skipBlanks s
termination_by s.length

/-- What follows the text of a comment, which is the line end or nothing. -/
def afterComment? : List Char → Option (List Char)
  | [] => some []
  | '\n' :: rest => some ('\n' :: rest)
  | '\r' :: '\n' :: rest => some ('\n' :: rest)
  | c :: rest => if isPlain c then afterComment? rest else none

/-- Skips blanks, line ends and comments. -/
def skipVoid (s : List Char) : Option (List Char) :=
  match skipLayout s with
  | '#' :: rest =>
    match afterComment? rest with
    | some rest => if _h : rest.length < s.length then skipVoid rest else none
    | none => none
  | rest => some rest
termination_by s.length

/-- Skips what may end a line: blanks, a comment, and the line end itself. At the end of the text
no line end is needed. -/
def afterLine? (s : List Char) : Option (List Char) :=
  match skipBlanks s with
  | [] => some []
  | '#' :: rest => (afterComment? rest).map fun rest => (afterNewline? rest).getD rest
  | rest => afterNewline? rest

/-! ## Escapes -/

/-- The character with a number in base sixteen. Surrogates are no characters. -/
def character? (digits : List Char) : Option Char :=
  match number? 16 digits with
  | some n => if n.isValidChar then some (Char.ofNat n) else none
  | none => none

/-- The character a one-letter escape stands for. -/
def letter? : Char → Option Char
  | 'b' => some '\x08'
  | 't' => some '\t'
  | 'n' => some '\n'
  | 'f' => some '\x0c'
  | 'r' => some '\r'
  | 'e' => some '\x1b'
  | '"' => some '"'
  | '\\' => some '\\'
  | _ => none

/-- Reads what follows a backslash. -/
def escape? : Reader Char
  | 'x' :: a :: b :: rest => (character? [a, b]).map (·, rest)
  | 'u' :: a :: b :: c :: d :: rest => (character? [a, b, c, d]).map (·, rest)
  | 'U' :: a :: b :: c :: d :: e :: f :: g :: h :: rest =>
    (character? [a, b, c, d, e, f, g, h]).map (·, rest)
  | c :: rest => (letter? c).map (·, rest)
  | [] => none

/-! ## Strings, after the mark they open with -/

/-- Puts characters in front of what is read from the rest. -/
def following (cs : List Char) (r : Option (List Char × List Char)) :
    Option (List Char × List Char) :=
  r.map fun (text, rest) => (cs ++ text, rest)

/-- A string with escapes, on one line. -/
def basic? : Reader (List Char)
  | [] => none
  | '"' :: rest => some ([], rest)
  | '\\' :: rest =>
    match escape? rest with
    | some (c, left) => if _h : left.length ≤ rest.length then following [c] (basic? left) else none
    | none => none
  | c :: rest => if isPlain c then following [c] (basic? rest) else none
termination_by s => s.length

/-- A string without escapes, on one line. -/
def literal? : Reader (List Char)
  | [] => none
  | '\'' :: rest => some ([], rest)
  | c :: rest => if isPlain c then following [c] (literal? rest) else none

/-- Reads a closing mark of three quotes, up to two more of which belong to the string. -/
def closing? (quote : Char) (s : List Char) : Option (List Char × List Char) :=
  let count := (s.takeWhile (· = quote)).length
  if count < 3 then none
  else
    let kept := min (count - 3) 2
    some (List.replicate kept quote, s.drop (3 + kept))

/-- What follows a line that ends in a backslash, without the blanks and line ends there. -/
def afterContinuation? (s : List Char) : Option (List Char) :=
  (afterNewline? (skipBlanks s)).map skipLayout

/-- A string with escapes, on many lines. -/
def multilineBasic? (s : List Char) : Option (List Char × List Char) :=
  match closing? '"' s with
  | some found => some found
  | none =>
    match s with
    | [] => none
    | '\\' :: rest =>
      match afterContinuation? rest with
      | some left => if _h : left.length ≤ rest.length then multilineBasic? left else none
      | none =>
        match escape? rest with
        | some (c, left) =>
          if _h : left.length ≤ rest.length then following [c] (multilineBasic? left) else none
        | none => none
    | '\r' :: '\n' :: rest => following ['\n'] (multilineBasic? rest)
    | c :: rest => if c = '\n' || isPlain c then following [c] (multilineBasic? rest) else none
termination_by s.length

/-- A string without escapes, on many lines. -/
def multilineLiteral? (s : List Char) : Option (List Char × List Char) :=
  match closing? '\'' s with
  | some found => some found
  | none =>
    match s with
    | [] => none
    | '\r' :: '\n' :: rest => following ['\n'] (multilineLiteral? rest)
    | c :: rest => if c = '\n' || isPlain c then following [c] (multilineLiteral? rest) else none
termination_by s.length

/-- A line end right after the opening mark does not count. -/
def skipFirstNewline (s : List Char) : List Char := (afterNewline? s).getD s

/-- Reads a string that may stand as a key: on one line, in either kind of quotes. -/
def line? : Reader String
  | '"' :: rest => (basic? rest).map fun (t, rest) => (String.ofList t, rest)
  | '\'' :: rest => (literal? rest).map fun (t, rest) => (String.ofList t, rest)
  | _ => none

/-- Reads a string of any kind. -/
def string? : Reader String
  | '"' :: '"' :: '"' :: rest =>
    (multilineBasic? (skipFirstNewline rest)).map fun (t, rest) => (String.ofList t, rest)
  | '\'' :: '\'' :: '\'' :: rest =>
    (multilineLiteral? (skipFirstNewline rest)).map fun (t, rest) => (String.ofList t, rest)
  | s => line? s

end Sallyport.Toml
