/-
The privilege gate. The level is never assumed: raising reports what it found, and a reset drops
to user level only if that is where the caller started. A region raises before its body and resets
after it, however the body ends. The gate works on anything that has a level to look at and to
change: on the hart, where a change is an environment call, or on a context that stores its level
and counts the changes.
-/
import Sallyport.Hart.Trap

namespace Sallyport

/-- Something with a privilege level. -/
class PrivilegeContext (σ : Type) where
  isPrivileged : σ → Bool
  setPrivileged : Bool → σ → σ

open PrivilegeContext

/-- User mode cannot write the status register, so a hart changes its level by an environment
call. -/
instance : PrivilegeContext Hart where
  isPrivileged h := h.privileged
  setPrivileged level h := if level then (Hart.raisePriv h).2 else (Hart.resetPriv h).2

/-- A context that stores its level and counts the changes asked of it. -/
structure Counting where
  level : Bool
  raises : Nat
  resets : Nat
  deriving DecidableEq, Repr

def Counting.start (level : Bool) : Counting := ⟨level, 0, 0⟩

instance : PrivilegeContext Counting where
  isPrivileged c := c.level
  setPrivileged level c :=
    if level then { c with raises := c.raises + 1, level } else { c with resets := c.resets + 1, level }

/-- What the gate records. -/
inductive GateEvent where
  | idle
  | raise
  | alreadyPrivileged
  | reset
  deriving DecidableEq, Repr

def GateEvent.text : GateEvent → String
  | .idle => "None"
  | .raise => "Raise"
  | .alreadyPrivileged => "AlreadyPrivileged"
  | .reset => "Reset"

/-- The line each event is recorded from. -/
def GateEvent.line : GateEvent → UInt16
  | .idle => 0
  | .alreadyPrivileged => 81
  | .raise => 83
  | .reset => 96

/-- A context behind the gate, with the trace of the gate. -/
structure Gate (σ : Type) where
  context : σ
  trace : Trace.Recorder GateEvent

namespace Gate

variable {σ ρ : Type}

/-- A gate nobody has gone through yet. -/
def around (context : σ) : Gate σ := ⟨context, Trace.Recorder.new 16 .idle⟩

def record (e : GateEvent) (g : Gate σ) : Gate σ := { g with trace := g.trace.record e.line e }

variable [PrivilegeContext σ]

def isPrivileged (g : Gate σ) : Bool := PrivilegeContext.isPrivileged g.context

/-- Changes the level without a trace. -/
def setPrivileged (level : Bool) (g : Gate σ) : Gate σ :=
  { g with context := PrivilegeContext.setPrivileged level g.context }

/-- Raises the context unless it is privileged already; gives the level it was at. -/
def raise (g : Gate σ) : Bool × Gate σ :=
  if g.isPrivileged then (true, g.record .alreadyPrivileged)
  else (false, (g.record .raise).setPrivileged true)

/-- Undoes a raise that found the given level. -/
def reset (was : Bool) (g : Gate σ) : Gate σ :=
  if was then g else (g.record .reset).setPrivileged false

/-- Runs a body privileged and restores the level of the caller, whatever the body leaves. -/
def withPrivilege (body : Gate σ → ρ × Gate σ) (g : Gate σ) : ρ × Gate σ :=
  let (was, g) := g.raise
  let (result, g) := body g
  (result, g.reset was)

end Gate

end Sallyport
