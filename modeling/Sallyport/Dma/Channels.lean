/-
The three pools of the transfer engine and the numbering they share. Linear channels start at
zero; two-dimensional and FIFO channels have bases of their own, and their numbers outside the
pools are base plus index. Linear channel zero and the first two-dimensional channel are reserved
by the hardware.
-/
import Sallyport.Dma.Pool

namespace Sallyport.Dma

/-- The kinds of transfer channel. -/
inductive Kind where
  | linear
  | twoD
  | fifo
  deriving DecidableEq, Repr

def Kind.name : Kind → String
  | .linear => "Linear"
  | .twoD => "TwoD"
  | .fifo => "Fifo"

/-- Where the register blocks of one kind lie. -/
structure AddressGenerator where
  base : UInt32
  stride : UInt32
  deriving DecidableEq, Repr

/-- The address of a register block; both the product and the sum wrap. -/
def AddressGenerator.address (g : AddressGenerator) (index : UInt32) : UInt32 :=
  g.base + index * g.stride

/-- How many channels of each kind there are, how they are numbered and where their registers lie. -/
structure Layout where
  linear : UInt32
  twoD : UInt32
  twoDBase : UInt32
  fifo : UInt32
  fifoBase : UInt32
  linearAddresses : AddressGenerator
  twoDAddresses : AddressGenerator
  fifoAddresses : AddressGenerator
  deriving DecidableEq, Repr

namespace Layout

/-- The layout of the default platform. -/
def default : Layout where
  linear := 32
  twoD := 8
  twoDBase := 32
  fifo := 8
  fifoBase := 40
  linearAddresses := ⟨0x1a102000, 0x10⟩
  twoDAddresses := ⟨0x1a102200, 0x20⟩
  fifoAddresses := ⟨0x1a102300, 0x10⟩

/-- Words needed for the linear channels. -/
def linearWords (l : Layout) : Nat := (l.linear.toNat + 31) / 32

def count (l : Layout) : Kind → UInt32
  | .linear => l.linear
  | .twoD => l.twoD
  | .fifo => l.fifo

/-- Number of the first channel of a kind. -/
def base (l : Layout) : Kind → UInt32
  | .linear => 0
  | .twoD => l.twoDBase
  | .fifo => l.fifoBase

/-- Words of the pool of a kind. Two-dimensional and FIFO pools always have one. -/
def words (l : Layout) : Kind → Nat
  | .linear => l.linearWords
  | .twoD => 1
  | .fifo => 1

/-- Whether the first channel of a kind is kept by the hardware. -/
def reservesFirst : Kind → Bool
  | .linear => true
  | .twoD => true
  | .fifo => false

def addresses (l : Layout) : Kind → AddressGenerator
  | .linear => l.linearAddresses
  | .twoD => l.twoDAddresses
  | .fifo => l.fifoAddresses

/-- Address of the register block of the channel with the given number. -/
def registerBlock (l : Layout) (k : Kind) (id : UInt32) : UInt32 :=
  (l.addresses k).address (id - l.base k)

/-- The pool of a kind before any channel is handed out. -/
def pool (l : Layout) (k : Kind) : Pool :=
  let pool := Pool.new (l.words k) (l.count k)
  if reservesFirst k then pool.reserve 0 else pool

end Layout

/-- The three pools. -/
structure Channels where
  layout : Layout
  linear : Pool
  twoD : Pool
  fifo : Pool
  deriving DecidableEq, Repr

namespace Channels

/-- Every channel free that is not reserved. -/
def new (l : Layout) : Channels := ⟨l, l.pool .linear, l.pool .twoD, l.pool .fifo⟩

def pool (c : Channels) : Kind → Pool
  | .linear => c.linear
  | .twoD => c.twoD
  | .fifo => c.fifo

def setPool (c : Channels) : Kind → Pool → Channels
  | .linear, p => { c with linear := p }
  | .twoD, p => { c with twoD := p }
  | .fifo, p => { c with fifo := p }

/-- Hands out a channel of a kind, by its number. -/
def alloc (k : Kind) (c : Channels) : Option UInt32 × Channels :=
  let (index, pool) := (c.pool k).alloc
  (index.map (· + c.layout.base k), c.setPool k pool)

/-- Takes a channel of a kind back, by its number. A number below the base of the kind is none of
its channels. -/
def release (k : Kind) (id : UInt32) (c : Channels) : Channels :=
  if c.layout.base k ≤ id then c.setPool k ((c.pool k).release (id - c.layout.base k)) else c

theorem pool_setPool (c : Channels) (j k : Kind) (p : Pool) :
    (c.setPool k p).pool j = if j = k then p else c.pool j := by
  cases j <;> cases k <;> rfl

theorem setPool_layout (c : Channels) (k : Kind) (p : Pool) : (c.setPool k p).layout = c.layout := by
  cases k <;> rfl

end Channels

end Sallyport.Dma
