/-
Programs of gate operations, nested to any depth. Every block has its own stack of levels found by
raises and its own guards. Guards still held at the end of a block are dropped newest first; when
a panic leaves the block they are dropped oldest first, before the region around the block resets.
-/
import Sallyport.Gate.Context

namespace Sallyport.Gate

/-- One operation of a block. -/
inductive Action where
  /-- Raises and remembers the level found. -/
  | raise
  /-- Resets to the level remembered last, or to user level if there is none. -/
  | reset
  | resetTo (was : Bool)
  /-- Changes the level of the context itself. -/
  | set (level : Bool)
  /-- Takes a guard: a raise that is undone when the guard is dropped. -/
  | guard
  /-- Drops the newest guard, or the oldest. -/
  | drop (oldest : Bool)
  /-- Drops the guard at a place, counted from the newest. -/
  | dropAt (place : Nat)
  | panic
  deriving DecidableEq, Repr

/-- A block of operations. -/
inductive Program where
  | done
  | step (action : Action) (next : Program)
  /-- A block run inside a privileged region. -/
  | within (body next : Program)
  /-- A block whose panic is caught. -/
  | catching (body next : Program)
  deriving DecidableEq, Repr, Inhabited

/-- Number of operations of a block, each inner block counting once. -/
def Program.length : Program → Nat
  | .done => 0
  | .step _ next => next.length + 1
  | .within _ next => next.length + 1
  | .catching _ next => next.length + 1

/-- What an operation shows. -/
inductive Note where
  | raised (was : Bool)
  | reset (was : Bool)
  | resetTo (was : Bool)
  | set (level : Bool)
  | guarded (was : Bool)
  | dropped (existed : Bool)
  | entered
  | left (length : Nat)
  | caught (fault : Option Fault)
  deriving DecidableEq, Repr

/-- An operation as it is logged: what it showed and the level after it. -/
structure Entry where
  note : Note
  privileged : Bool
  deriving DecidableEq, Repr

/-- What a block holds of its own, newest first. -/
structure Frame where
  flags : List Bool
  guards : List Bool
  deriving DecidableEq, Repr

def Frame.empty : Frame := ⟨[], []⟩

/-- The fault of a panic inside a program. -/
def panicked : Fault := .raised "inside"

/-- The gate and what has been logged. -/
structure Progress (σ : Type) where
  gate : Gate σ
  log : List Entry

namespace Progress

variable {σ : Type} [PrivilegeContext σ]

/-- Logs a note together with the level. -/
def note (n : Note) (p : Progress σ) : Progress σ :=
  { p with log := p.log ++ [⟨n, p.gate.isPrivileged⟩] }

/-- Drops guards in the given order. -/
def dropAll (guards : List Bool) (p : Progress σ) : Progress σ :=
  { p with gate := guards.foldl (fun g was => g.reset was) p.gate }

end Progress

variable {σ : Type} [PrivilegeContext σ]

/-- Performs one operation; a panic gives nothing to go on with. -/
def Action.perform (a : Action) (f : Frame) (p : Progress σ) : Option (Frame × Progress σ) :=
  match a with
  | .raise =>
    let (was, gate) := p.gate.raise
    some ({ f with flags := was :: f.flags }, { p with gate }.note (.raised was))
  | .reset =>
    let was := f.flags.headD false
    some ({ f with flags := f.flags.tail }, { p with gate := p.gate.reset was }.note (.reset was))
  | .resetTo was => some (f, { p with gate := p.gate.reset was }.note (.resetTo was))
  | .set level => some (f, { p with gate := p.gate.setPrivileged level }.note (.set level))
  | .guard =>
    let (was, gate) := p.gate.raise
    some ({ f with guards := was :: f.guards }, { p with gate }.note (.guarded was))
  | .drop oldest =>
    match if oldest then f.guards.getLast? else f.guards.head? with
    | none => some (f, p.note (.dropped false))
    | some was =>
      let guards := if oldest then f.guards.dropLast else f.guards.tail
      some ({ f with guards }, { p with gate := p.gate.reset was }.note (.dropped true))
  | .dropAt place =>
    match f.guards[place]? with
    | none => some (f, p.note (.dropped false))
    | some was =>
      some ({ f with guards := f.guards.eraseIdx place },
        { p with gate := p.gate.reset was }.note (.dropped true))
  | .panic => none

/-- Runs a block that holds a frame. The result is the panic that left it, if one did. -/
def Program.run : Program → Frame → Progress σ → Option Fault × Progress σ
  | .done, f, p => (none, p.dropAll f.guards)
  | .step action next, f, p =>
    match action.perform f p with
    | some (f, p) => next.run f p
    | none => (some panicked, p.dropAll f.guards.reverse)
  | .within body next, f, p =>
    let ((fault, log), gate) := p.gate.withPrivilege fun gate =>
      let (fault, p) := body.run .empty ({ p with gate }.note .entered)
      ((fault, p.log), p.gate)
    let p : Progress σ := ⟨gate, log⟩
    match fault with
    | none => next.run f (p.note (.left body.length))
    | some fault => (some fault, p.dropAll f.guards.reverse)
  | .catching body next, f, p =>
    let (fault, p) := body.run .empty p
    next.run f (p.note (.caught fault))

/-- Runs a whole program over a gate. -/
def Program.runOn (program : Program) (gate : Gate σ) : Option Fault × Progress σ :=
  program.run .empty ⟨gate, []⟩

end Sallyport.Gate
