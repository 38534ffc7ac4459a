/-
Finite sets of small numbers kept as words of 32 bits: number `i` is in the set iff bit `i mod 32`
of word `i / 32` is set. Numbers past the last word are never in the set, and adding or removing
one changes nothing.
-/

namespace Sallyport.Dma

namespace Word

/-- The word in which only bit `i` is set. -/
def bit (i : UInt32) : UInt32 := 1 <<< i

/-- Whether bit `i` is set. -/
def has (w i : UInt32) : Bool := w &&& bit i ≠ 0

/-- The bit numbers of a word. -/
def places : List UInt32 := (List.range 32).map UInt32.ofNat

/-- The lowest bit that is set. -/
def lowest? (w : UInt32) : Option UInt32 := places.find? (has w)

/-- How many bits are set. -/
def count (w : UInt32) : Nat := places.countP (has w)

end Word

/-- A set of numbers below 32 times the number of words. -/
abbrev Bitmap : Type := List UInt32

namespace Bitmap

/-- The word a number is in. -/
def wordOf (id : UInt32) : Nat := (id / 32).toNat

/-- The bit of a number within its word. -/
def bitOf (id : UInt32) : UInt32 := id % 32

def contains (b : Bitmap) (id : UInt32) : Bool := Word.has (b.getD (wordOf id) 0) (bitOf id)

def insert (b : Bitmap) (id : UInt32) : Bitmap := b.modify (wordOf id) (· ||| Word.bit (bitOf id))

def erase (b : Bitmap) (id : UInt32) : Bitmap := b.modify (wordOf id) (· &&& ~~~Word.bit (bitOf id))

/-- Takes out the lowest number. -/
def takeLowest? : Bitmap → Option (UInt32 × Bitmap)
  | [] => none
  | w :: ws =>
    match Word.lowest? w with
    | some i => some (i, (w &&& ~~~Word.bit i) :: ws)
    | none => (takeLowest? ws).map fun (id, ws) => (32 + id, w :: ws)

/-- How many numbers are in the set. -/
def size (b : Bitmap) : Nat := b.foldr (fun w n => Word.count w + n) 0

/-- The numbers below `count`, as far as the words reach. -/
def below (words count : Nat) : Bitmap :=
  (List.range words).map fun w =>
    if 32 * w + 32 ≤ count then 0xffffffff
    else if 32 * w < count then Word.bit (UInt32.ofNat (count - 32 * w)) - 1
    else 0

end Bitmap

end Sallyport.Dma
