/-
The one set of channels that all drivers of the image share, and its trace. Drivers name channels
by signed numbers: minus one stands for no channel, and giving back a negative number does
nothing at all.
-/
import Sallyport.Dma.Channels
import Sallyport.Trace.Recorder

namespace Sallyport.Dma

/-- What the shared channels record. -/
inductive Event where
  | idle
  | init
  | alloc (kind : Kind) (id : UInt32)
  | free (kind : Kind) (id : UInt32)
  | exhausted (kind : Kind)
  deriving DecidableEq, Repr

/-- The text of an event in a trace. -/
def Event.text : Event → String
  | .idle => "None"
  | .init => "Init"
  | .alloc kind id => "Alloc(" ++ kind.name ++ ", " ++ toString id.toNat ++ ")"
  | .free kind id => "Free(" ++ kind.name ++ ", " ++ toString id.toNat ++ ")"
  | .exhausted kind => "Exhausted(" ++ kind.name ++ ")"

/-- The line each event is recorded from. -/
def Event.line : Event → UInt16
  | .idle => 0
  | .init => 221
  | .alloc _ _ => 227
  | .exhausted _ => 232
  | .free _ _ => 243

/-- Stands for no channel. -/
def noChannel : Int32 := -1

/-- The shared channels and their trace. -/
structure Driver where
  channels : Cell Channels
  trace : Trace.Recorder Event
  deriving DecidableEq, Repr

namespace Driver

/-- The state at boot. -/
def boot (l : Layout) : Driver := ⟨Cell.new (Channels.new l), Trace.Recorder.new 16 .idle⟩

def record (e : Event) (d : Driver) : Driver := { d with trace := d.trace.record e.line e }

/-- Puts every pool back into its boot state. -/
def init : Attempt Driver Unit := fun d =>
  match Cell.use (fun c => ((), Channels.new c.layout)) d.channels with
  | (.ok _, channels) => (.ok (), record .init { d with channels })
  | (.error f, channels) => (.error f, { d with channels })

/-- Records what an allocation gave and makes a number for drivers of it. -/
def granted (k : Kind) : Option UInt32 → Driver → Int32 × Driver
  | some id, d => (id.toInt32, record (.alloc k id) d)
  | none, d => (noChannel, record (.exhausted k) d)

/-- Hands out a channel, or the number that stands for none. The channels stay claimed until the
event is recorded. -/
def alloc (k : Kind) : Attempt Driver Int32 := fun d =>
  match d.channels.borrow with
  | .error f => (.error f, d)
  | .ok held =>
    let (id?, channels) := held.contents.alloc k
    let (reply, d) := granted k id? { d with channels := held.set channels }
    (.ok reply, { d with channels := d.channels.release })

/-- Takes a channel back. -/
def free (k : Kind) (id : Int32) : Attempt Driver Unit := fun d =>
  if id < 0 then (.ok (), d)
  else
    let d := record (.free k id.toUInt32) d
    match Cell.use (fun c => ((), c.release k id.toUInt32)) d.channels with
    | (result, channels) => (result, { d with channels })

/-- One request of a driver. -/
inductive Request where
  | init
  | alloc (kind : Kind)
  | free (kind : Kind) (id : Int32)
  deriving DecidableEq, Repr

/-- Serves a request; only an allocation gives a number. -/
def serve : Request → Attempt Driver (Option Int32)
  | .init, d =>
    match init d with
    | (.ok _, d) => (.ok none, d)
    | (.error f, d) => (.error f, d)
  | .alloc k, d =>
    match alloc k d with
    | (.ok id, d) => (.ok (some id), d)
    | (.error f, d) => (.error f, d)
  | .free k id, d =>
    match free k id d with
    | (.ok _, d) => (.ok none, d)
    | (.error f, d) => (.error f, d)

/-- The results of requests one after another, and the driver they leave. -/
def run : List Request → Driver → List (Except Fault (Option Int32)) × Driver
  | [], d => ([], d)
  | r :: requests, d =>
    let (result, d) := serve r d
    let (rest, d) := run requests d
    (result :: rest, d)

end Driver

end Sallyport.Dma
