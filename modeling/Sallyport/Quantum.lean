/-
The preemption quantum. Requests to switch context are collected on every tick and released on
ticks that are a multiple of the quantum, so a request made in between is held, not lost.
-/

namespace Sallyport

/-- The quantum and the requests that wait for the next boundary. -/
structure QuantumGate where
  quantum : UInt32
  quantum_ne_zero : quantum ≠ 0
  pending : UInt32
  deriving DecidableEq

namespace QuantumGate

/-- A gate without pending requests. There is no quantum of zero ticks. -/
def new? (quantum : UInt32) : Option QuantumGate :=
  if h : quantum = 0 then none else some ⟨quantum, h, 0⟩

/-- The gate of the default platform, which releases on every tick. -/
def default : QuantumGate := ⟨1, by decide, 0⟩

/-- Adds a request; on a boundary everything pending is released, otherwise nothing is. -/
def check (g : QuantumGate) (tick schedule : UInt32) : UInt32 × QuantumGate :=
  let pending := g.pending ||| schedule
  if tick % g.quantum = 0 then (pending, { g with pending := 0 }) else (0, { g with pending })

/-- The answers to a list of ticks and requests, and the gate they leave. -/
def run : List (UInt32 × UInt32) → QuantumGate → List UInt32 × QuantumGate
  | [], g => ([], g)
  | (tick, schedule) :: steps, g =>
    let (out, g) := g.check tick schedule
    let (outs, g) := run steps g
    (out :: outs, g)

end QuantumGate

end Sallyport
