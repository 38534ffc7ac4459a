/-
Region descriptors: a stretch of memory together with the rule that opens it. Rules are computed
in 32-bit arithmetic that wraps, lengths in 64-bit arithmetic cut to 32 bits.
-/
import Sallyport.Mpu.Rule

namespace Sallyport.Mpu

/-- The rule covering `start` up to `stop` in `area`, where addresses of the area are measured from
`baseOffset`. -/
def regionRule (area : Area) (start stop baseOffset : UInt32) : Rule :=
  Rule.encode area (start - baseOffset) ((stop - start) >>> granuleShift)

/-- Address where second-level memory starts on the default platform. -/
def l2Base : UInt32 := 0x1c000000

/-- The rule for second-level memory between two addresses, of which only the low words count. Where
the memory starts is up to the platform. -/
def regionRuleForSymbols (start stop : UInt64) (memoryStart : UInt32 := l2Base) : Rule :=
  regionRule .l2 start.toUInt32 stop.toUInt32 memoryStart

/-- One region described to the kernel. A region of length zero is an unused slot. -/
structure Region where
  baseAddress : UInt64
  length : UInt32
  rule : Rule
  deriving DecidableEq, Repr

/-- The descriptor of an unused slot. -/
def Region.unused : Region := ⟨0, 0, ⟨0⟩⟩

/-- The descriptor for second-level memory between two addresses. -/
def l2Region (start stop : UInt64) (memoryStart : UInt32 := l2Base) : Region :=
  ⟨start, (stop - start).toUInt32, regionRuleForSymbols start stop memoryStart⟩

/-- Number of regions a restricted task can describe. -/
def regionCount : Nat := 4

/-- The regions of one task. -/
abbrev Regions : Type := Vector Region regionCount

/-- The first regions of a list, the remaining slots unused. -/
def Regions.ofList (rs : List Region) : Regions := Vector.ofFn fun i => rs.getD i.val .unused

/-- No region in use. -/
def Regions.unused : Regions := Regions.ofList []

end Sallyport.Mpu
