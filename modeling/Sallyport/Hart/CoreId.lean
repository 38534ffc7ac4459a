/-
The hart identifier register: the low nibble is the core within its cluster, the cluster number
starts at bit 5, and bit 4 belongs to neither.
-/

namespace Sallyport

/-- Raw contents of the hart identifier register. -/
structure CoreId where
  raw : UInt32
  deriving DecidableEq, Repr

namespace CoreId

/-- Index of the core within its cluster. -/
def procId (c : CoreId) : UInt32 := c.raw &&& 0xf

/-- Index of the cluster. -/
def cluster (c : CoreId) : UInt32 := c.raw >>> 5

end CoreId

end Sallyport
