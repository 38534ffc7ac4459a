/-
A check that the trampoline changes nothing. The same orders are run directly on a fresh kernel and
through the gate on two more, once from user level and once from machine level. All three have to
give the same outcomes and the same log, the gate has to leave the level alone, every gated call has
to reach the kernel privileged, and each logged call may cost two environment calls from user level
and none from machine level.
-/
import Sallyport.Host.Kernel
import Sallyport.Service.Errand
import Sallyport.Trampoline

namespace Sallyport

instance : CallServer Host.Kernel := ⟨Host.Kernel.run⟩

namespace Transparency

/-- What orders came to. -/
abbrev Outcomes : Type := List (Except Fault Outcome)

/-- Runs orders on a route. -/
def perform (route : Route) (orders : List Order) (w : World Host.Kernel) :
    Outcomes × World Host.Kernel :=
  let (outcomes, w, _) := Order.runAll (World.call route) orders (w, Ledger.empty)
  (outcomes, w)

/-- What a gated run was found to differ in. -/
inductive Difference where
  | outcomes
  | log
  | level
  | unprivileged
  /-- The number of environment calls is not the expected one. -/
  | cost (found expected : Nat)
  deriving DecidableEq, Repr

/-- Why the check fails. -/
inductive Failure where
  /-- There was nothing to compare. -/
  | nothingReached
  /-- The gated run from a level differs from the direct one. -/
  | differs (privileged : Bool) (difference : Difference)
  deriving DecidableEq, Repr

/-- The beginning of the report that two things are not equal. -/
def unequal : String := "assertion `left == right` failed"

/-- Names the level a gated run was made from. -/
def fromLevel (privileged : Bool) : String :=
  ": privileged caller: " ++ if privileged then "true" else "false"

def Failure.message : Failure → String
  | .nothingReached => "nothing reached the kernel"
  | .differs privileged .outcomes => unequal ++ fromLevel privileged
  | .differs _ .log => unequal
  | .differs _ .level => unequal
  | .differs _ .unprivileged => "assertion failed: not every call was privileged"
  | .differs privileged (.cost found expected) =>
    unequal ++ fromLevel privileged ++ "\n  left: " ++ toString found ++ "\n right: " ++
      toString expected

/-- Environment calls that logged calls may cost from a level. -/
def expectedCost (privileged : Bool) (logged : Nat) : Nat := if privileged then 0 else 2 * logged

/-- What a gated run from a level differs in from what the direct run gave. -/
def difference? (privileged : Bool) (expected : Outcomes) (log : List String) (got : Outcomes)
    (w : World Host.Kernel) : Option Difference :=
  let cost := expectedCost privileged log.length
  if got ≠ expected then some .outcomes
  else if w.kernel.calls ≠ log then some .log
  else if w.isPrivileged ≠ privileged then some .level
  else if !w.kernel.allPrivileged then some .unprivileged
  else if w.ecalls ≠ cost then some (.cost w.ecalls cost)
  else none

/-- A gated run of orders from a level, on a fresh hart and kernel. -/
def gatedRun (settings : Host.Settings) (privileged : Bool) (orders : List Order) :
    Outcomes × World Host.Kernel :=
  perform .gated orders ((World.boot (Host.Kernel.boot settings)).atLevel privileged)

/-- The outcomes of the direct run and the environment calls of both gated runs, or the first
difference. -/
def check (settings : Host.Settings) (orders : List Order) : Except Failure (Outcomes × Nat) :=
  let (expected, direct) := perform .direct orders (World.boot (Host.Kernel.boot settings))
  let log := direct.kernel.calls
  let (userOutcomes, user) := gatedRun settings false orders
  let (machineOutcomes, machine) := gatedRun settings true orders
  if log.isEmpty then .error .nothingReached
  else
    match difference? false expected log userOutcomes user with
    | some d => .error (.differs false d)
    | none =>
      match difference? true expected log machineOutcomes machine with
      | some d => .error (.differs true d)
      | none => .ok (expected, user.ecalls + machine.ecalls)

end Transparency

end Sallyport
