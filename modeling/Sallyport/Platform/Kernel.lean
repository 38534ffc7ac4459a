/-
What the image has to know of the memory map and of time: where second-level memory starts, and how
many ticks the preemption quantum has, of which there is at least one.
-/
import Sallyport.Mpu.Region
import Sallyport.Platform.Constants
import Sallyport.Platform.Error
import Sallyport.Platform.Fields

namespace Sallyport.Platform

structure KernelConfig where
  l2Base : UInt32
  quantum : UInt32
  deriving DecidableEq, Repr

namespace KernelConfig

def default : KernelConfig := ⟨Mpu.l2Base, 1⟩

/-- The kernel configuration a document asks for. -/
def ofDocument? (document : Toml.Node) : Option KernelConfig := do
  let fields ← section? document "kernel" ["l2_base", "preemption_quantum"]
  let l2Base ← fieldOr default.l2Base word? fields "l2_base"
  let quantum ← fieldOr default.quantum word? fields "preemption_quantum"
  return ⟨l2Base, quantum⟩

def accept (c : KernelConfig) : Except ConfigError KernelConfig :=
  if c.quantum = 0 then .error .noQuantum else .ok c

def constants (c : KernelConfig) : List Constant :=
  [.address "L2_BASE" c.l2Base, .number "PREEMPTION_QUANTUM" c.quantum]

end KernelConfig

end Sallyport.Platform
