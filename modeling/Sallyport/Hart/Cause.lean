/-
Cause codes of environment calls. A code is the position of its service in the trap vector, so
the numbering is part of the contract with the trap entry.
-/

namespace Sallyport

/-- The services a task can ask the trap handler for. Position 0 is no service: it is fatal. -/
inductive Cause where
  | default
  | procId
  | clusterId
  | raisePriv
  | resetPriv
  deriving DecidableEq, Repr

namespace Cause

/-- Number of positions in the trap vector. -/
def count : Nat := 5

def toWord : Cause → UInt32
  | .default => 0
  | .procId => 1
  | .clusterId => 2
  | .raisePriv => 3
  | .resetPriv => 4

/-- The cause at a position, if the vector has that position. -/
def ofWord? (n : UInt32) : Option Cause :=
  if n = 0 then some .default
  else if n = 1 then some .procId
  else if n = 2 then some .clusterId
  else if n = 3 then some .raisePriv
  else if n = 4 then some .resetPriv
  else none

/-- The name shown in traces. -/
def name : Cause → String
  | .default => "Default"
  | .procId => "ProcId"
  | .clusterId => "ClusterId"
  | .raisePriv => "RaisePriv"
  | .resetPriv => "ResetPriv"

/-- The trap vector, in cause order. -/
def vector : List Cause := [.default, .procId, .clusterId, .raisePriv, .resetPriv]

theorem ofWord?_toWord (c : Cause) : ofWord? c.toWord = some c := by cases c <;> rfl

end Cause

end Sallyport
