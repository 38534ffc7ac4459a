/-
Values and lines of a TOML document. Arrays and tables between braces may be nested up to a fixed
depth and spread over lines; whatever else is not text is a run of letters, figures and a few marks
that has to be a number, a truth value or a moment as a whole. A document is read as the list of its
headers and definitions; what they mean together is decided elsewhere.
-/
import Sallyport.Toml.Moment
import Sallyport.Toml.Number
import Sallyport.Toml.Table

namespace Sallyport.Toml

/-! ## Keys -/

def isBareKey (c : Char) : Bool := c.isAlphanum || c = '_' || c = '-'

/-- Reads one step of a key. -/
def step? : Reader String := fun s =>
  match line? s with
  | some found => some found
  | none =>
    match s.takeWhile isBareKey with
    | [] => none
    | name => some (String.ofList name, s.dropWhile isBareKey)

/-- How many steps a key may have. -/
def stepLimit : Nat := 80

/-- Reads a key, which is steps with points between. Blanks around the points do not count. -/
def steps? (s : List Char) : Option (List String × List Char) :=
  match step? s with
  | none => none
  | some (first, rest) =>
    match skipBlanks rest with
    | '.' :: more =>
      let next := skipBlanks more
      if _h : next.length < s.length then
        (steps? next).map fun (steps, rest) => (first :: steps, rest)
      else none
    | rest => some ([first], rest)
termination_by s.length

/-- Reads a key with a limited number of steps. -/
def key? : Reader (List String) := fun s =>
  (steps? s).filter fun (steps, _) => steps.length ≤ stepLimit

/-! ## Bare values -/

def isBare (c : Char) : Bool :=
  c.isAlphanum || c = '_' || c = '+' || c = '-' || c = '.' || c = ':'

/-- The value that a run of bare characters is. -/
def bare? (cs : List Char) : Option Node :=
  if cs = ['t', 'r', 'u', 'e'] then some (.boolean true)
  else if cs = ['f', 'a', 'l', 's', 'e'] then some (.boolean false)
  else if Moment.isMoment cs then some (.moment (String.ofList cs))
  else
    match integer? cs with
    | some n => some (.integer n)
    | none => (floating? cs).map .floating

/-- Splits off a run of bare characters. One blank after a date joins it to a time of day. -/
def splitBare (s : List Char) : List Char × List Char :=
  let run := s.takeWhile isBare
  match s.dropWhile isBare with
  | ' ' :: c :: rest =>
    if Moment.isDate run && c.isDigit then
      (run ++ ' ' :: (c :: rest).takeWhile isBare, (c :: rest).dropWhile isBare)
    else (run, ' ' :: c :: rest)
  | rest => (run, rest)

/-! ## Values -/

/-- Reads the items of an array, after its opening bracket. -/
def items? (value? : Reader Node) (s : List Char) : Option (List Node × List Char) :=
  match skipVoid s with
  | none => none
  | some (']' :: rest) => some ([], rest)
  | some start =>
    match value? start with
    | none => none
    | some (item, rest) =>
      match skipVoid rest with
      | some (']' :: rest) => some ([item], rest)
      | some (',' :: rest) =>
        if _h : rest.length < s.length then
          (items? value? rest).map fun (items, rest) => (item :: items, rest)
        else none
      | _ => none
termination_by s.length

/-- Reads one definition: a key, an equals sign and a value on the same line. -/
def definition? (value? : Reader Node) : Reader (List String × Node) := fun s => do
  let (key, s) ← key? s
  match skipBlanks s with
  | '=' :: s =>
    let (value, s) ← value? (skipBlanks s)
    return ((key, value), s)
  | _ => none

/-- Reads the definitions between braces, after the opening one. -/
def definitions? (value? : Reader Node) (s : List Char) :
    Option (List (List String × Node) × List Char) :=
  match skipVoid s with
  | none => none
  | some ('}' :: rest) => some ([], rest)
  | some start =>
    match definition? value? start with
    | none => none
    | some (first, rest) =>
      match skipVoid rest with
      | some ('}' :: rest) => some ([first], rest)
      | some (',' :: rest) =>
        if _h : rest.length < s.length then
          (definitions? value? rest).map fun (others, rest) => (first :: others, rest)
        else none
      | _ => none
termination_by s.length

/-- Reads a value in which arrays and tables are nested no deeper than `depth`. -/
def value? : Nat → Reader Node
  | 0, s =>
    match s with
    | '"' :: _ => (string? s).map fun (text, rest) => (.text text, rest)
    | '\'' :: _ => (string? s).map fun (text, rest) => (.text text, rest)
    | _ => (bare? (splitBare s).1).map (·, (splitBare s).2)
  | depth + 1, s =>
    match s with
    | '[' :: rest => (items? (value? depth) rest).map fun (items, rest) => (.array items, rest)
    | '{' :: rest => do
      let (entries, rest) ← definitions? (value? depth) rest
      let table ← Node.ofDefinitions entries
      return (table, rest)
    | s => value? 0 s

/-- How deep arrays and tables may be nested. -/
def depthLimit : Nat := 80

/-! ## Lines -/

/-- A line that says something. -/
inductive Line where
  /-- A header: what follows belongs to this table. -/
  | header (path : List String)
  /-- A header in double brackets: what follows belongs to a new table of this array. -/
  | item (path : List String)
  | definition (path : List String) (value : Node)

/-- Reads a header after its opening bracket. -/
def header? (s : List Char) : Option (Line × List Char) :=
  match s with
  | '[' :: s => do
    let (path, s) ← key? (skipBlanks s)
    match skipBlanks s with
    | ']' :: ']' :: s => return (.item path, s)
    | _ => none
  | s => do
    let (path, s) ← key? (skipBlanks s)
    match skipBlanks s with
    | ']' :: s => return (.header path, s)
    | _ => none

/-- Reads what a line says, up to what may end it. -/
def content? : Reader Line
  | '[' :: s => header? s
  | s => (definition? (value? depthLimit) s).map fun ((path, value), s) => (.definition path value, s)

/-- All lines of a text that say something. -/
def lines? (s : List Char) : Option (List Line) :=
  match skipVoid s with
  | none => none
  | some [] => some []
  | some start =>
    match content? start with
    | none => none
    | some (line, rest) =>
      match afterLine? rest with
      | none => none
      | some rest =>
        if _h : rest.length < s.length then (lines? rest).map (line :: ·) else none
termination_by s.length

end Sallyport.Toml
