/-
A pool of transfer channels numbered from zero. The lowest free channel is handed out first. A
channel the pool does not own, because it is out of range or reserved, can never become free.
-/
import Sallyport.Dma.Bitmap

namespace Sallyport.Dma

/-- The channels that can be handed out and the channels that exist. -/
structure Pool where
  free : Bitmap
  present : Bitmap
  deriving DecidableEq, Repr

namespace Pool

/-- A pool of `count` channels, all free, as far as `words` words can hold them. -/
def new (words : Nat) (count : UInt32) : Pool :=
  ⟨Bitmap.below words count.toNat, Bitmap.below words count.toNat⟩

/-- The most channels the pool could have. -/
def capacity (p : Pool) : Nat := 32 * p.free.length

/-- Removes a channel for good. -/
def reserve (p : Pool) (id : UInt32) : Pool := ⟨p.free.erase id, p.present.erase id⟩

/-- Hands out the lowest free channel. -/
def alloc (p : Pool) : Option UInt32 × Pool :=
  match p.free.takeLowest? with
  | some (id, free) => (some id, { p with free })
  | none => (none, p)

/-- Takes a channel back, if the pool owns it. -/
def release (p : Pool) (id : UInt32) : Pool :=
  if p.present.contains id then { p with free := p.free.insert id } else p

def isFree (p : Pool) (id : UInt32) : Bool := p.free.contains id

/-- How many channels can still be handed out. -/
def available (p : Pool) : Nat := p.free.size

/-! ## Uses in a row -/

/-- One use of a pool. -/
inductive Use where
  | alloc
  /-- Hands out channels until there is none. -/
  | drain
  | release (id : UInt32)
  | reserve (id : UInt32)
  | isFree (id : UInt32)
  | available
  deriving DecidableEq, Repr

/-- What a use shows. -/
inductive Seen where
  | channel (id : Option UInt32)
  | channels (ids : List UInt32)
  | truth (b : Bool)
  | count (n : Nat)
  | nothing
  deriving DecidableEq, Repr

/-- Hands out channels until there is none, at most `fuel` of them. -/
def drainAux : Nat → Pool → List UInt32 × Pool
  | 0, p => ([], p)
  | fuel + 1, p =>
    match p.alloc with
    | (none, p) => ([], p)
    | (some id, p) =>
      let (ids, p) := drainAux fuel p
      (id :: ids, p)

/-- Hands out every channel that is free. -/
def drain (p : Pool) : List UInt32 × Pool := drainAux (p.capacity + 1) p

def step (p : Pool) : Use → Seen × Pool
  | .alloc => let (id, p) := p.alloc; (.channel id, p)
  | .drain => let (ids, p) := p.drain; (.channels ids, p)
  | .release id => (.nothing, p.release id)
  | .reserve id => (.nothing, p.reserve id)
  | .isFree id => (.truth (p.isFree id), p)
  | .available => (.count p.available, p)

end Pool

end Sallyport.Dma
