/-
The timer of the host kernel. A command sets the timer going or stops it; a change of period also
sets it going. The command given last is kept, also one the timer does not know.
-/
import Sallyport.Host.Basic

namespace Sallyport.Host

structure Timer where
  /-- The name of the timer, whatever it was created with. -/
  name : Label
  active : Bool
  period : Option UInt32
  id : Address
  autoReload : UInt32
  lastCommand : Option (TimerCommand × UInt32)
  deriving DecidableEq, Repr

namespace Timer

def boot (name : Label) : Timer := ⟨name, false, none, 0, 0, none⟩

def currentPeriod (t : Timer) : UInt32 := t.period.getD defaultPeriod

/-- Sets the timer up; there is no period of zero ticks. -/
def create (period autoReload : UInt32) (id address : Address) (t : Timer) : Reply × Timer :=
  if period = 0 then (.address 0, t)
  else (.address address, { t with period := some period, autoReload, id })

/-- Carries out a command. -/
def command (c : TimerCommand) (value : UInt32) (t : Timer) : Int32 × Timer :=
  let t := { t with lastCommand := some (c, value) }
  if c = .start ∨ c = .reset then (Code.pass, { t with active := true })
  else if c = .changePeriod then (Code.pass, { t with active := true, period := some value })
  else if c = .stop ∨ c = .delete then (Code.pass, { t with active := false })
  else (Code.fail, t)

/-- Carries out a command and shows its return code alone. -/
def simpleCommand (c : TimerCommand) (value : UInt32) (t : Timer) : Reply × Timer :=
  let (code, t) := t.command c value
  (.code code, t)

def step : TimerCall → Timer → Reply × Timer
  | .create _ period autoReload id _, t => t.create period autoReload id newTimer
  | .createStatic _ period autoReload id _ block, t => t.create period autoReload id block
  | .getId _, t => (.address t.id, t)
  | .setId _ id, t => (.nothing, { t with id })
  | .isActive _, t => (.code (Code.ofBool t.active), t)
  | .daemonTask, t => (.address Host.daemonTask, t)
  | .pendCall _ _ _ _, t => (.code Code.pass, t)
  | .setReloadMode _ autoReload, t => (.nothing, { t with autoReload })
  | .getName _, t => (.text (some t.name), t)
  | .getPeriod _, t => (.word t.currentPeriod, t)
  | .getExpiry _, t => (.word (tickCount + t.currentPeriod), t)
  | .genericCommand _ c value woken _, t =>
    let (code, t) := t.command c value
    (.commanded code (woken.map (·.value)), t)
  | .commandTime, t => (.word tickCount, t)
  | .start _ _, t => t.simpleCommand .start tickCount
  | .reset _ _, t => t.simpleCommand .reset tickCount
  | .stop _ _, t => t.simpleCommand .stop 0
  | .changePeriod _ period _, t => t.simpleCommand .changePeriod period
  | .delete _ _, t => t.simpleCommand .delete 0

end Timer

end Sallyport.Host
