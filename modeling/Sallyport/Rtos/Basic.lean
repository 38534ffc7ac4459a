/-
Numbers and records of the kernel interface: return codes, object flavours, commands, task states
and the records the kernel fills in.
-/
import Sallyport.Rtos.Object
import Sallyport.Data.Bytes
import Sallyport.Mpu.Region

namespace Sallyport

/-! ## Codes -/

namespace Code

def pass : Int32 := 1
def fail : Int32 := 0

/-- The answer to a yes-or-no question. -/
def ofBool (b : Bool) : Int32 := if b then pass else fail

/-- A create call could not get memory. -/
def couldNotAllocate : Int32 := -1
def queueFull : Int32 := 0
def queueEmpty : Int32 := 0

end Code

/-- The wait that never times out. -/
def maxDelay : UInt32 := 0xffffffff

/-- The slot that calls without an index act on. -/
def defaultNotifyIndex : UInt32 := 0

/-! ## Flavours and commands -/

/-- Flavour of object passed to the generic queue constructors. -/
structure QueueKind where
  number : UInt8
  deriving DecidableEq, Repr

namespace QueueKind

def base : QueueKind := ⟨0⟩
def mutex : QueueKind := ⟨1⟩
def countingSemaphore : QueueKind := ⟨2⟩
def binarySemaphore : QueueKind := ⟨3⟩
def recursiveMutex : QueueKind := ⟨4⟩

end QueueKind

/-- Where a send puts its item. -/
structure CopyPosition where
  number : Int32
  deriving DecidableEq, Repr

namespace CopyPosition

def back : CopyPosition := ⟨0⟩
def front : CopyPosition := ⟨1⟩
/-- In place of everything the queue holds. -/
def overwrite : CopyPosition := ⟨2⟩

end CopyPosition

/-- What a timer is told to do. -/
structure TimerCommand where
  number : Int32
  deriving DecidableEq, Repr

namespace TimerCommand

def start : TimerCommand := ⟨1⟩
def reset : TimerCommand := ⟨2⟩
def stop : TimerCommand := ⟨3⟩
def changePeriod : TimerCommand := ⟨4⟩
def delete : TimerCommand := ⟨5⟩

end TimerCommand

/-- What a notification does to the slot it is sent to. -/
inductive NotifyAction where
  | noAction
  | setBits
  | increment
  | overwrite
  /-- Sets the value only if the slot is clear. -/
  | setIfClear
  deriving DecidableEq, Repr

def NotifyAction.number : NotifyAction → UInt32
  | .noAction => 0
  | .setBits => 1
  | .increment => 2
  | .overwrite => 3
  | .setIfClear => 4

/-- The action of a number, where every number past the last counts as the last. -/
def NotifyAction.ofNumber : Nat → NotifyAction
  | 0 => .noAction
  | 1 => .setBits
  | 2 => .increment
  | 3 => .overwrite
  | _ => .setIfClear

namespace SchedulerState

def suspended : Int32 := 0
def notStarted : Int32 := 1
def running : Int32 := 2

end SchedulerState

/-- What a task is doing. -/
inductive TaskState where
  | running
  | ready
  | blocked
  | suspended
  | deleted
  | invalid
  deriving DecidableEq, Repr

namespace TaskState

/-- All states, in the order of their numbers. -/
def all : List TaskState := [.running, .ready, .blocked, .suspended, .deleted, .invalid]

def number : TaskState → UInt32
  | .running => 0
  | .ready => 1
  | .blocked => 2
  | .suspended => 3
  | .deleted => 4
  | .invalid => 5

/-- The state of a number, where a number that names none gives the invalid state. -/
def ofNumber (n : Nat) : TaskState := all.getD n .invalid

def name : TaskState → String
  | .running => "Running"
  | .ready => "Ready"
  | .blocked => "Blocked"
  | .suspended => "Suspended"
  | .deleted => "Deleted"
  | .invalid => "Invalid"

end TaskState

/-! ## Records -/

/-- When a wait began, in ticks and in turns of the tick counter. -/
structure TimeOut where
  overflowCount : Int32
  timeOnEntering : UInt32
  deriving DecidableEq, Repr

namespace TimeOut

/-- The record as it lies in memory. -/
def toBytes (t : TimeOut) : List UInt8 :=
  Bytes.ofWord t.overflowCount.toUInt32 ++ Bytes.ofWord t.timeOnEntering

/-- The record held by exactly eight bytes. -/
def ofBytes? (bytes : List UInt8) : Option TimeOut :=
  match Bytes.toWord? (bytes.take 4), Bytes.toWord? (bytes.drop 4) with
  | some overflow, some entering => some ⟨overflow.toInt32, entering⟩
  | _, _ => none

end TimeOut

/-- What the kernel reports about one task. -/
structure TaskStatus where
  handle : Address
  name : Address
  number : UInt32
  state : TaskState
  priority : UInt32
  basePriority : UInt32
  runTime : UInt32
  stackBase : Address
  stackHighWater : UInt16
  deriving DecidableEq, Repr

/-- A report nobody has filled in. -/
def TaskStatus.blank : TaskStatus := ⟨0, 0, 0, .invalid, 0, 0, 0, 0, 0⟩

/-- Everything the kernel needs to create a restricted task. -/
structure TaskDefinition where
  entry : Address
  name : Label
  stackDepth : UInt16
  parameters : Address
  priority : UInt32
  stack : Address
  regions : Mpu.Regions
  /-- Only read when the task is created in memory of the caller; null if there is none. -/
  taskBuffer : Address
  deriving DecidableEq, Repr

/-! ## Control blocks of statically allocated objects -/

namespace ControlBlock

/-- Sizes of the kernel's control blocks in 32-bit words, on the default platform. -/
structure Sizes where
  task : Nat
  queue : Nat
  timer : Nat
  eventGroup : Nat
  streamBuffer : Nat
  deriving DecidableEq, Repr

def Sizes.default : Sizes := ⟨44, 20, 11, 8, 9⟩

/-- Size in bytes of a block of so many words. -/
def bytes (words : Nat) : Nat := 4 * words

end ControlBlock

end Sallyport
