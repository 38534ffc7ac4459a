/-
How the fields of a section are found in a document. A section is a table, whose other entries are
skipped, or an array that lists the fields in their order and whose further items are not looked at.
A field that is missing has its default; one that is there has to be of the right kind. Skipping an
entry still takes its numbers to be of a size that can be read.
-/
import Sallyport.Toml.Document

namespace Sallyport.Platform

open Toml

/-! ## Skipping -/

/-- Whether an integer fits into 128 bits, with or without a sign. -/
def isReadable (n : Int) : Bool :=
  -0x80000000000000000000000000000000 ≤ n && n < 0x100000000000000000000000000000000

mutual

/-- Whether all numbers in a value can be read. -/
def canSkip : Node → Bool
  | .text _ => true
  | .integer n => isReadable n
  | .floating x => !x.overflows
  | .boolean _ => true
  | .moment _ => true
  | .array items => canSkipItems items
  | .tables items => canSkipItems items
  | .table _ entries => canSkipEntries entries

def canSkipItems : List Node → Bool
  | [] => true
  | n :: ns => canSkip n && canSkipItems ns

def canSkipEntries : List (String × Node) → Bool
  | [] => true
  | (_, n) :: es => canSkip n && canSkipEntries es

end

/-! ## Finding -/

/-- Finds fields by name. -/
abbrev Fields : Type := String → Option Node

/-- The fields with the given names, as far as they are there. A moment reads as a table without
any of them. -/
def fields? (names : List String) : Node → Option Fields
  | .table _ entries =>
    if canSkipEntries (entries.filter fun e => !names.contains e.1) then some (Entries.get? entries)
    else none
  | .array items => some fun name => (names.idxOf? name).bind (items[·]?)
  | .tables items => some fun name => (names.idxOf? name).bind (items[·]?)
  | .moment _ => some fun _ => none
  | _ => none

/-- An integer below a bound. -/
def below? (bound : Nat) : Node → Option Nat
  | .integer n => if 0 ≤ n && n < bound then some n.toNat else none
  | _ => none

/-- A whole word. -/
def word? (n : Node) : Option UInt32 := (below? 0x100000000 n).map UInt32.ofNat

/-- A number of things in memory. -/
def count? (n : Node) : Option Nat := below? 0x10000000000000000 n

/-- A field, or its default if it is missing. -/
def fieldOr {α : Type} (default : α) (read? : Node → Option α) (fields : Fields) (name : String) :
    Option α :=
  match fields name with
  | none => some default
  | some n => read? n

/-- The section of a document with the given name and fields. A section that is missing has no
fields. -/
def section? (document : Node) (name : String) (names : List String) : Option Fields := do
  let found ← fields? [name] document
  match found name with
  | none => return fun _ => none
  | some n => fields? names n

end Sallyport.Platform
