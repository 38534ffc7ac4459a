/-
The channels computed the way the image does it: every number is a word, and a product, a sum, a
difference or a shift that is no word ends the computation without a result. Where nothing overflows
these are the pools and channels themselves.
-/
import Sallyport.Dma.Channels

namespace Sallyport.Dma

namespace Word

/-- The product, if it is a word. -/
def mul? (a b : UInt32) : Option UInt32 := if a.toNat * b.toNat < 0x100000000 then some (a * b) else none

def add? (a b : UInt32) : Option UInt32 := if a.toNat + b.toNat < 0x100000000 then some (a + b) else none

def sub? (a b : UInt32) : Option UInt32 := if b ≤ a then some (a - b) else none

/-- The word in which only bit `i` is set, if a word has that bit. -/
def bit? (i : UInt32) : Option UInt32 := if i < 32 then some (bit i) else none

end Word

namespace Bitmap

/-- The word with index `w` of the numbers below `count`. -/
def wordBelow? (count : UInt32) (w : Nat) : Option UInt32 := do
  let start ← Word.mul? (UInt32.ofNat w) 32
  let stop ← Word.add? start 32
  if stop ≤ count then return 0xffffffff
  else if start < count then
    let bit ← Word.bit? (← Word.sub? count start)
    Word.sub? bit 1
  else return 0

def below? (words : Nat) (count : UInt32) : Option Bitmap := (List.range words).mapM (wordBelow? count)

end Bitmap

namespace Pool

def new? (words : Nat) (count : UInt32) : Option Pool := do
  let present ← Bitmap.below? words count
  return ⟨present, present⟩

end Pool

def Layout.pool? (l : Layout) (k : Kind) : Option Pool := do
  let pool ← Pool.new? (l.words k) (l.count k)
  return if reservesFirst k then pool.reserve 0 else pool

namespace Channels

def new? (l : Layout) : Option Channels := do
  let linear ← l.pool? .linear
  let twoD ← l.pool? .twoD
  let fifo ← l.pool? .fifo
  return ⟨l, linear, twoD, fifo⟩

end Channels

end Sallyport.Dma
