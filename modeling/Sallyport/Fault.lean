/-
Why a computation stops short. A fault ends the step that met it; whatever state the step had
reached by then is kept, so the image can be looked at (or stepped) afterwards.
-/

namespace Sallyport

/-- Everything that ends a step without a value. -/
inductive Fault where
  /-- The image ended with a diagnostic code. -/
  | exit (code : Int32)
  /-- The hart stopped for good. -/
  | halted
  /-- A cell was borrowed while its one borrower was still alive. -/
  | cellBorrowed
  /-- An object handle was made from the null address. -/
  | nullHandle
  /-- A sum does not fit its word. -/
  | addOverflow
  /-- More is taken away than there is. -/
  | subOverflow
  /-- Code run inside a region gave up for a reason of its own. -/
  | raised (reason : String)
  deriving DecidableEq, Repr

/-- The text a fault is reported with. -/
def Fault.message : Fault → String
  | .exit code => "exit(" ++ toString code.toInt ++ ")"
  | .halted => "halted"
  | .cellBorrowed => "StaticCell already borrowed"
  | .nullHandle => "handle address must be nonzero"
  | .addOverflow => "attempt to add with overflow"
  | .subOverflow => "attempt to subtract with overflow"
  | .raised reason => reason

instance {α : Type} [DecidableEq α] : DecidableEq (Except Fault α)
  | .ok a, .ok b =>
    if h : a = b then isTrue (congrArg Except.ok h) else isFalse fun e => h (Except.ok.inj e)
  | .error f, .error g =>
    if h : f = g then isTrue (congrArg Except.error h) else isFalse fun e => h (Except.error.inj e)
  | .ok _, .error _ => isFalse nofun
  | .error _, .ok _ => isFalse nofun

/-- A computation on a state that may stop on a fault. The state reached is left either way. -/
abbrev Attempt (σ α : Type) : Type := σ → Except Fault α × σ

end Sallyport
