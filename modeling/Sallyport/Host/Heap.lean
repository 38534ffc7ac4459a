/-
The heap of the host kernel. Blocks handed out and not yet freed sum to at most the size of the
heap. A block is told apart by its address, which the memory of the host decides on.
-/
import Sallyport.Host.Basic

namespace Sallyport.Host

/-- A block that is in use. -/
structure Block where
  address : Address
  size : Nat
  deriving DecidableEq, Repr

structure Heap where
  blocks : List Block
  /-- How many blocks have ever been handed out. -/
  handedOut : Nat
  sites : Sites

namespace Heap

def boot (sites : Sites) : Heap := ⟨[], 0, sites⟩

/-- Size of the heap in bytes. -/
def capacity : Nat := 4096

/-- Bytes in use. -/
def used (h : Heap) : Nat := h.blocks.foldr (fun b n => b.size + n) 0

/-- Address of the block that is handed out next. -/
def nextAddress (h : Heap) : Address := h.sites.addressOf h.handedOut

/-- Bytes that are left. -/
def room (h : Heap) : Except Fault Nat := minus capacity h.used

/-- Hands out a block, or the null address if it is empty or does not fit. -/
def malloc (size : UInt64) : Attempt Heap Address := fun h =>
  if size = 0 then (.ok 0, h)
  else
    match h.room with
    | .ok room =>
      if room < size.toNat then (.ok 0, h)
      else
        let block : Block := ⟨h.nextAddress, size.toNat⟩
        (.ok block.address, { h with blocks := h.blocks ++ [block], handedOut := h.handedOut + 1 })
    | .error f => (.error f, h)

/-- Takes a block back. An address that is no block in use changes nothing. -/
def free (address : Address) (h : Heap) : Heap :=
  { h with blocks := h.blocks.filter (·.address ≠ address) }

def step : HeapCall → Attempt Heap Reply
  | .malloc size, h =>
    let (address, h) := malloc size h
    (address.map .address, h)
  | .free block, h => (.ok .nothing, h.free block)
  | .initialiseBlocks, h => (.ok .nothing, h)
  | .freeSize, h => (h.room.map fun n => .size (UInt64.ofNat n), h)

end Heap

end Sallyport.Host
