/-
Calls by somebody who names heap blocks by number: the first block ever handed out is number zero.
The ledger keeps the address of every block until it is given back. A number that stands for no
block, or for one given back already, is freed as the null address.
-/
import Sallyport.Service.Call
import Sallyport.Service.Reply

namespace Sallyport

/-- The address of each block handed out, by number, or nothing once it is given back. -/
structure Ledger where
  blocks : List (Option Address)
  deriving DecidableEq, Repr

namespace Ledger

def empty : Ledger := ⟨[]⟩

/-- Numbers a block. The null address is no block. -/
def handOut (address : Address) (l : Ledger) : Option Nat × Ledger :=
  if address = 0 then (none, l) else (some l.blocks.length, ⟨l.blocks ++ [some address]⟩)

/-- The address of a block that is given back, null if the number stands for none. -/
def giveBack (number : Nat) (l : Ledger) : Address × Ledger :=
  ((l.blocks.getD number none).getD 0, ⟨l.blocks.set number none⟩)

end Ledger

/-- One thing to ask of a kernel. -/
inductive Errand where
  | call (call : Call)
  /-- Asks for a heap block, which gets the next number. -/
  | takeBlock (size : UInt64)
  | giveBlock (number : Nat)
  deriving DecidableEq

/-- What comes of it. -/
inductive Outcome where
  | reply (reply : Reply)
  /-- The number of a block, if one was handed out. -/
  | block (number : Option Nat)
  deriving DecidableEq, Repr

/-- Runs an errand on whatever serves calls. -/
def Errand.run {σ : Type} (serve : Call → Attempt σ Reply) : Errand → Attempt (σ × Ledger) Outcome
  | .call c, (s, l) =>
    match serve c s with
    | (.ok reply, s) => (.ok (.reply reply), s, l)
    | (.error f, s) => (.error f, s, l)
  | .takeBlock size, (s, l) =>
    match serve (.heap (.malloc size)) s with
    | (.ok (.address a), s) =>
      let (number, l) := l.handOut a
      (.ok (.block number), s, l)
    | (.ok reply, s) => (.ok (.reply reply), s, l)
    | (.error f, s) => (.error f, s, l)
  | .giveBlock number, (s, l) =>
    let (address, l) := l.giveBack number
    match serve (.heap (.free address)) s with
    | (.ok reply, s) => (.ok (.reply reply), s, l)
    | (.error f, s) => (.error f, s, l)

/-- An errand that may already have failed while it was put together. -/
abbrev Order : Type := Except Fault Errand

/-- Runs an order; one that has failed already does nothing. -/
def Order.run {σ : Type} (serve : Call → Attempt σ Reply) (o : Order) : Attempt (σ × Ledger) Outcome :=
  fun s =>
    match o with
    | .ok e => e.run serve s
    | .error f => (.error f, s)

/-- Runs orders one after another; a fault ends its own order only. -/
def Order.runAll {σ : Type} (serve : Call → Attempt σ Reply) :
    List Order → σ × Ledger → List (Except Fault Outcome) × σ × Ledger
  | [], s => ([], s)
  | o :: os, s =>
    let (outcome, s) := Order.run serve o s
    let (outcomes, s) := runAll serve os s
    (outcome :: outcomes, s)

end Sallyport
