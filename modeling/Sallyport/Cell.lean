/-
A cell whose contents have at most one borrower at a time. Borrowing a cell that is already
claimed is a fault; trying to borrow it just fails. A scoped use claims the cell, works on the
contents and releases it.
-/
import Sallyport.Fault

namespace Sallyport

/-- Contents together with the flag that says whether somebody is using them. -/
structure Cell (α : Type) where
  claimed : Bool
  contents : α
  deriving DecidableEq, Repr

namespace Cell

variable {α β : Type}

/-- A cell nobody uses. -/
def new (contents : α) : Cell α := ⟨false, contents⟩

/-- Claims the cell, unless somebody has it. -/
def tryBorrow (c : Cell α) : Option (Cell α) :=
  if c.claimed then none else some ⟨true, c.contents⟩

/-- Claims the cell; a claimed cell is a fault. -/
def borrow (c : Cell α) : Except Fault (Cell α) :=
  match c.tryBorrow with
  | some c => .ok c
  | none => .error .cellBorrowed

/-- Gives the cell back. -/
def release (c : Cell α) : Cell α := ⟨false, c.contents⟩

/-- Puts new contents in place of the old. -/
def set (c : Cell α) (a : α) : Cell α := ⟨c.claimed, a⟩

/-- Borrows the cell for one piece of work and gives it back. -/
def use (work : α → β × α) : Attempt (Cell α) β := fun c =>
  match c.borrow with
  | .error f => (.error f, c)
  | .ok held =>
    let (result, contents) := work held.contents
    (.ok result, (held.set contents).release)

@[simp] theorem use_new (work : α → β × α) (a : α) :
    use work (new a) = (.ok (work a).1, new (work a).2) := rfl

end Cell

end Sallyport
