/-
How kernel objects and memory are named: addresses, handles of objects by kind, references to
single values, runs of items, and bare stretches of storage. The null address is zero; a handle is
never null, and a missing handle is written as the null address where an address is wanted.
-/
import Sallyport.Fault

namespace Sallyport

/-- A machine address. Zero is the null address. -/
abbrev Address : Type := UInt64

/-- The kinds of object the kernel hands out handles to. -/
inductive ObjectKind where
  | task
  | queue
  | queueSet
  /-- A queue or a semaphore that belongs to a queue set. -/
  | queueSetMember
  | timer
  | eventGroup
  /-- Also used for message buffers. -/
  | streamBuffer
  deriving DecidableEq, Repr

/-- The non-null address of a kernel object. -/
structure Handle (kind : ObjectKind) where
  address : Address
  address_ne_zero : address ≠ 0
  deriving DecidableEq

namespace Handle

variable {kind : ObjectKind}

/-- The handle of an address, unless the address is null. -/
def ofAddress? (a : Address) : Option (Handle kind) :=
  if h : a = 0 then none else some ⟨a, h⟩

/-- The handle of an address that has to name an object. -/
def ofAddress (a : Address) : Except Fault (Handle kind) :=
  match ofAddress? a with
  | some h => .ok h
  | none => .error .nullHandle

/-- The address of an optional handle, null if there is none. -/
def toAddress : Option (Handle kind) → Address
  | some h => h.address
  | none => 0

@[simp] theorem toAddress_none : toAddress (none : Option (Handle kind)) = 0 := rfl

@[simp] theorem toAddress_some (h : Handle kind) : toAddress (some h) = h.address := rfl

@[simp] theorem ofAddress?_address (h : Handle kind) : ofAddress? h.address = some h := by
  simp [ofAddress?, h.address_ne_zero]

theorem ofAddress?_toAddress (h : Option (Handle kind)) : ofAddress? (toAddress h) = h := by
  cases h with
  | none => rfl
  | some h => simp

@[simp] theorem toAddress_ofAddress? (a : Address) : toAddress (ofAddress? a : Option (Handle kind)) = a := by
  unfold ofAddress?
  split
  · rename_i h
    rw [h]
    rfl
  · rfl

end Handle

/-- One value that the caller owns and the kernel may overwrite. -/
structure Ref (α : Type) where
  address : Address
  value : α
  deriving DecidableEq, Repr

/-- The address of a reference the caller may leave out, null if it does. -/
def Ref.toAddress {α : Type} : Option (Ref α) → Address
  | some r => r.address
  | none => 0

/-- A run of items that the caller owns. -/
structure Run (α : Type) where
  address : Address
  items : List α
  deriving DecidableEq, Repr

/-- A stretch of storage of which nobody here reads the contents. -/
structure Storage where
  address : Address
  length : Nat
  deriving DecidableEq, Repr

/-- A string in memory, ended by a null character that is not part of the text. -/
structure Label where
  address : Address
  text : String
  deriving DecidableEq, Repr

/-- Where a text is wanted, the address of a string does not matter. -/
instance : Coe Label String := ⟨Label.text⟩

/-- The string at an address, unless that is null. -/
def Label.nonNull? (l : Label) : Option Label := if l.address = 0 then none else some l

end Sallyport
