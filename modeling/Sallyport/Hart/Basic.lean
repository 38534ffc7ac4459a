/-
The simulated hart: its level, the registers the traps read and write, the number of traps taken,
and what the trap handler keeps (its trace and the desk of the fatal path).
-/
import Sallyport.Epitaph
import Sallyport.Hart.Cause
import Sallyport.Hart.CoreId
import Sallyport.Hart.Mstatus
import Sallyport.Trace.Recorder

namespace Sallyport

/-- What the trap dispatcher records. -/
inductive TrapEvent where
  | idle
  | dispatch (cause : Cause)
  | unknown (code : UInt32)
  deriving DecidableEq, Repr

def TrapEvent.text : TrapEvent → String
  | .idle => "None"
  | .dispatch cause => "Dispatch(" ++ cause.name ++ ")"
  | .unknown code => "Unknown(" ++ toString code.toNat ++ ")"

/-- The line each event is recorded from. -/
def TrapEvent.line : TrapEvent → UInt16
  | .idle => 0
  | .unknown _ => 39
  | .dispatch _ => 43

structure Hart where
  /-- Whether the hart runs in machine mode. -/
  privileged : Bool
  mstatus : UInt32
  mhartid : UInt32
  /-- Where the last trap was taken. -/
  mepc : UInt32
  /-- Environment calls taken so far. -/
  ecalls : Nat
  trace : Trace.Recorder TrapEvent
  desk : Desk
  deriving DecidableEq

/-- A hart at boot: the first core of cluster 31, in user mode. -/
def Hart.boot : Hart where
  privileged := false
  mstatus := 0
  mhartid := (31 : UInt32) <<< 5
  mepc := 0
  ecalls := 0
  trace := Trace.Recorder.new 16 .idle
  desk := Desk.boot

end Sallyport
