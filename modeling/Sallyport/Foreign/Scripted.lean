/-
A kernel that does as it is told. Every function notes that it was called, with which values and at
which level, returns one scripted value, and may write one scripted value through every pointer to
a single value.
-/
import Sallyport.Foreign.Answer

namespace Sallyport.Foreign

/-- A call that was noted. -/
structure Noted where
  invocation : Invocation
  privileged : Bool
  deriving DecidableEq, Repr

structure Scripted where
  /-- What every function returns, cut to its result type. -/
  value : UInt64
  /-- What every function writes, if anything. -/
  writes : Option UInt64
  /-- The hook to return in place of any that is not null. -/
  hook : Option Address
  log : List Noted
  deriving DecidableEq, Repr

namespace Scripted

def boot : Scripted := ⟨0, none, none, []⟩

/-- The text of every string that is returned. -/
def text : String := "c-name"

/-- Where a parameter lets a function write a single value. Of a time-out record only the time of
entering is written. -/
def target? : CType → Value → Option Address
  | .slot kind, .pointer a =>
    if a = 0 then none else some (if kind = .timeOut then a + Answer.enteringOffset else a)
  | _, _ => none

/-- The addresses a call lets its function write to. -/
def targets (i : Invocation) : List Address :=
  (i.function.signature.parameters.zip i.arguments).filterMap fun (t, v) => target? t v

/-- The value a function returns. -/
def returned (s : Scripted) (f : Function) : UInt64 :=
  match s.hook with
  | some hook => if f.signature.result = some .hook ∧ s.value ≠ 0 then hook else s.value
  | none => s.value

def invoke (privileged : Bool) (i : Invocation) (s : Scripted) : Answer × Scripted :=
  let answer : Answer := {
    value := s.returned i.function
    text
    stored := fun a => if (targets i).contains a then s.writes else none
    bytes := fun _ _ => none
    reports := fun _ _ => none }
  (answer, { s with log := s.log ++ [⟨i, privileged⟩] })

instance : KernelFunctions Scripted := ⟨invoke⟩

end Scripted

end Sallyport.Foreign
