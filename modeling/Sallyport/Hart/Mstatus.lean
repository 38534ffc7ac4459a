/-
The bits of the machine status register that privilege transitions care about. The transitions
write one of two whole patterns; no single bit is ever set or cleared.
-/

namespace Sallyport

/-- Contents of the machine status register. -/
structure Mstatus where
  bits : UInt32
  deriving DecidableEq, Repr

namespace Mstatus

def uie : Mstatus := ⟨1⟩
def mie : Mstatus := ⟨8⟩
def upie : Mstatus := ⟨16⟩
def mpie : Mstatus := ⟨128⟩

/-- Both previous-privilege bits: the trap was taken from machine mode. -/
def mppMachine : Mstatus := ⟨0x1800⟩

/-- No bit at all: the trap was taken from user mode. -/
def empty : Mstatus := ⟨0⟩

instance : OrOp Mstatus := ⟨fun a b => ⟨a.bits ||| b.bits⟩⟩
instance : AndOp Mstatus := ⟨fun a b => ⟨a.bits &&& b.bits⟩⟩

/-- Return to machine mode, with interrupts masked until then. -/
def raised : Mstatus := mppMachine ||| mpie

/-- Return to user mode, with interrupts on again. -/
def user : Mstatus := mpie ||| upie

/-- Every bit that has a name here. -/
def all : Mstatus := uie ||| mie ||| upie ||| mpie ||| mppMachine

/-- Whether `m` has all bits of `flags`. -/
def contains (m flags : Mstatus) : Bool := (m &&& flags) = flags

/-- Whether `m` has some bit of `flags`. -/
def intersects (m flags : Mstatus) : Bool := (m &&& flags) ≠ empty

/-- The register value, if every bit set in it has a name. -/
def ofBits? (bits : UInt32) : Option Mstatus :=
  if bits &&& ~~~all.bits = 0 then some ⟨bits⟩ else none

/-- The named bits of a register value. -/
def ofBitsTruncate (bits : UInt32) : Mstatus := ⟨bits⟩ &&& all

example : raised.bits = 0x1880 ∧ user.bits = 0x90 := by decide

end Mstatus

end Sallyport
