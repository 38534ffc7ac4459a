/-
How a cell is lent, access by access. A claim sets the flag before it is known what the flag was, and
is refused if it was set already: the flag then stays set on behalf of the borrower who has the cell,
and only the end of that borrow clears it. A hart that can exchange a flag claims it at one go. A hart
that cannot loads it and stores it; nothing comes in between, as a cell is touched from one hart
only, and never by an interrupt that could preempt a claim.
-/
import Sallyport.Cell

namespace Sallyport

/-! ## The flag -/

namespace Flag

def load : StateM Bool Bool := get

def store (value : Bool) : StateM Bool Unit := set value

/-- Stores a value and gives the one that was there. -/
def exchange (value : Bool) : StateM Bool Bool := modifyGet fun was => (was, value)

/-- The ways a hart can claim a flag. -/
inductive Claim where
  | exchange
  | loadThenStore
  deriving DecidableEq, Repr

/-- Sets the flag and tells whether it was set before. -/
def Claim.take : Claim → StateM Bool Bool
  | .exchange => Flag.exchange true
  | .loadThenStore => do
    let was ← Flag.load
    Flag.store true
    return was

end Flag

/-! ## Loans -/

namespace Cell

/-- What is done with a cell. -/
inductive Act (α : Type) where
  /-- Borrows the cell, or faults. -/
  | borrow
  /-- Borrows the cell, unless it is lent already. -/
  | tryBorrow
  /-- Ends the newest borrow that is alive. -/
  | release
  /-- Works through the newest borrow that is alive. Work that fails leaves the contents as they were. -/
  | work (f : α → Except Fault α)
  /-- Borrows, works and releases at once. -/
  | use (f : α → α)
  /-- Borrows, works and releases at once, unless the cell is lent already. -/
  | tryUse (f : α → α)

/-- What an act shows. -/
inductive Shown (α : Type) where
  /-- A borrow found this value. -/
  | granted (found : α)
  | refused
  /-- The borrower has made the contents this. -/
  | held (value : α)
  /-- A borrow ended and left this value. -/
  | left (value : α)
  /-- A borrow that ended at once found and left these values. -/
  | used (found left : α)
  /-- There was no borrow to work through or to end. -/
  | nothing
  deriving DecidableEq, Repr

/-- A cell and the number of its borrows that are alive. -/
structure Loan (α : Type) where
  cell : Cell α
  alive : Nat
  deriving DecidableEq, Repr

namespace Loan

variable {α : Type}

/-- A new cell that is lent to nobody. -/
def start (contents : α) : Loan α := ⟨Cell.new contents, 0⟩

/-- Claims the flag of the cell. If it was not set, there is one more borrow. -/
def claim (how : Flag.Claim) (s : Loan α) : Bool × Loan α :=
  let (was, claimed) := how.take.run s.cell.claimed
  let cell := { s.cell with claimed }
  if was then (false, ⟨cell, s.alive⟩) else (true, ⟨cell, s.alive + 1⟩)

def step (how : Flag.Claim) : Act α → Attempt (Loan α) (Shown α)
  | .borrow, s =>
    match s.claim how with
    | (true, s) => (.ok (.granted s.cell.contents), s)
    | (false, s) => (.error .cellBorrowed, s)
  | .tryBorrow, s =>
    match s.claim how with
    | (true, s) => (.ok (.granted s.cell.contents), s)
    | (false, s) => (.ok .refused, s)
  | .release, s =>
    match s.alive with
    | 0 => (.ok .nothing, s)
    | n + 1 => (.ok (.left s.cell.contents), ⟨s.cell.release, n⟩)
  | .work f, s =>
    match s.alive with
    | 0 => (.ok .nothing, s)
    | _ + 1 =>
      match f s.cell.contents with
      | .ok a => (.ok (.held a), ⟨s.cell.set a, s.alive⟩)
      | .error e => (.error e, s)
  | .use f, s =>
    match s.claim how with
    | (true, s) =>
      (.ok (.used s.cell.contents (f s.cell.contents)), ⟨(s.cell.set (f s.cell.contents)).release, s.alive - 1⟩)
    | (false, s) => (.error .cellBorrowed, s)
  | .tryUse f, s =>
    match s.claim how with
    | (true, s) =>
      (.ok (.used s.cell.contents (f s.cell.contents)), ⟨(s.cell.set (f s.cell.contents)).release, s.alive - 1⟩)
    | (false, s) => (.ok .refused, s)

/-- What acts one after another show, and the loan they leave. -/
def run (how : Flag.Claim) : List (Act α) → Loan α → List (Except Fault (Shown α)) × Loan α
  | [], s => ([], s)
  | act :: acts, s =>
    let (shown, s) := step how act s
    let (rest, s) := run how acts s
    (shown :: rest, s)

end Loan

end Cell

end Sallyport
