/-
One call of a kernel function and what comes of it. The function returns a value, of which its
result type takes the low bits, and may write through the pointers it was given. What it did not
write stays as it was.
-/
import Sallyport.Foreign.Function

namespace Sallyport.Foreign

/-- A function and the values it is called with. -/
structure Invocation where
  function : Function
  arguments : List Value
  deriving DecidableEq, Repr

/-- What a function returned and what it wrote. -/
structure Answer where
  value : UInt64
  /-- The text at the returned address, for functions that return strings. -/
  text : String
  /-- The single values that were written, by their addresses. -/
  stored : Address → Option UInt64
  /-- The bytes that were written, by the address of the buffer and the position in it. -/
  bytes : Address → Nat → Option UInt8
  /-- The task reports that were written, by the address of the first and the position. -/
  reports : Address → Nat → Option TaskStatus

namespace Answer

/-! ## The returned value -/

def word (a : Answer) : UInt32 := a.value.toUInt32

def code (a : Answer) : Int32 := a.value.toUInt32.toInt32

def state (a : Answer) : TaskState := TaskState.ofNumber a.value.toNat

/-- The returned string. -/
def string (a : Answer) : Label := ⟨a.value, a.text⟩

/-- The returned value as a result of a type. -/
def result (a : Answer) : CType → Value
  | .byte => .byte a.value.toUInt8
  | .half => .half a.value.toUInt16
  | .word => .word a.word
  | .signed => .signed a.code
  | .size => .size a.value
  | .state => .state a.state
  | .handle => .handle a.value
  | .string => .string a.string
  | .pointer => .pointer a.value
  | .hook => .pointer a.value
  | .slot _ => .pointer a.value

/-! ## What references hold afterwards -/

def wordAt (a : Answer) (r : Ref UInt32) : UInt32 :=
  ((a.stored r.address).map (·.toUInt32)).getD r.value

def codeAt (a : Answer) (r : Ref Int32) : Int32 :=
  ((a.stored r.address).map (·.toUInt32.toInt32)).getD r.value

def addressAt (a : Answer) (r : Ref Address) : Address := (a.stored r.address).getD r.value

/-- Offset of the time of entering within a time-out record. -/
def enteringOffset : Address := 4

/-- A time-out record is two values, each written on its own. -/
def timeOutAt (a : Answer) (r : Ref TimeOut) : TimeOut where
  overflowCount := a.codeAt ⟨r.address, r.value.overflowCount⟩
  timeOnEntering := a.wordAt ⟨r.address + enteringOffset, r.value.timeOnEntering⟩

def bytesAt (a : Answer) (r : Run UInt8) : List UInt8 :=
  r.items.mapIdx fun i b => (a.bytes r.address i).getD b

def reportsAt (a : Answer) (r : Run TaskStatus) : List TaskStatus :=
  r.items.mapIdx fun i s => (a.reports r.address i).getD s

def reportAt (a : Answer) (r : Ref TaskStatus) : TaskStatus :=
  (a.reports r.address 0).getD r.value

end Answer

/-- The functions of a kernel: each call may change the kernel, and the kernel can see whether the
hart is privileged meanwhile. -/
class KernelFunctions (κ : Type) where
  invoke (privileged : Bool) (i : Invocation) : κ → Answer × κ

end Sallyport.Foreign
