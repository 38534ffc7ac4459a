/-
The host kernel as a whole: one state per family of services, and a log of the calls that reached
it with the level of the hart at the time. A call is logged before it is served.
-/
import Sallyport.Host.EventGroup
import Sallyport.Host.Heap
import Sallyport.Host.Queue
import Sallyport.Host.Stream
import Sallyport.Host.Task
import Sallyport.Host.Timer

namespace Sallyport.Host

/-- A call that reached the kernel. -/
structure Logged where
  name : String
  privileged : Bool
  deriving DecidableEq, Repr

structure Kernel where
  tasks : Tasks
  queue : Queue
  timer : Timer
  events : EventGroup
  stream : Stream
  heap : Heap
  log : List Logged

namespace Kernel

def boot (settings : Settings) : Kernel where
  tasks := Tasks.boot settings
  queue := Queue.boot
  timer := Timer.boot settings.names.ofTimer
  events := EventGroup.boot
  stream := Stream.boot
  heap := Heap.boot settings.sites
  log := []

/-- Logs a call, if the kernel knows it as one of its own. -/
def record (privileged : Bool) (call : Call) (k : Kernel) : Kernel :=
  match call.name? with
  | some name => { k with log := k.log ++ [⟨name, privileged⟩] }
  | none => k

/-- Serves a call in the state of its family. -/
def serve : Call → Attempt Kernel Reply
  | .task c, k =>
    let (reply, tasks) := Tasks.step c k.tasks
    (reply, { k with tasks })
  | .queue c, k =>
    let (reply, queue) := Queue.step c k.queue
    (reply, { k with queue })
  | .timer c, k =>
    let (reply, timer) := Timer.step c k.timer
    (.ok reply, { k with timer })
  | .eventGroup c, k =>
    let (reply, events) := EventGroup.step c k.events
    (.ok reply, { k with events })
  | .stream c, k =>
    let (reply, stream) := Stream.step c k.stream
    (reply, { k with stream })
  | .heap c, k =>
    let (reply, heap) := Heap.step c k.heap
    (reply, { k with heap })

/-- Logs and serves a call made at a level. -/
def run (privileged : Bool) (call : Call) : Attempt Kernel Reply := fun k =>
  serve call (k.record privileged call)

/-- Names of the calls that reached the kernel, oldest first. -/
def calls (k : Kernel) : List String := k.log.map (·.name)

/-- Whether every call that reached the kernel was made privileged. -/
def allPrivileged (k : Kernel) : Bool := k.log.all (·.privileged)

end Kernel

end Sallyport.Host
