/-
Recording never blocks, never faults, and loses nothing but the events recorded while somebody has the
log. A refused recording has set the flag all the same; that it neither ends the claim of the holder nor
keeps one of its own is what an act on a lent cell comes to (`Loan.step_lent`).
-/
import Sallyport.Proofs.Cell.Loan
import Sallyport.Proofs.Trace.Log
import Sallyport.Trace.Recorder

namespace Sallyport.Trace.Recorder

open Cell (Loan)

variable {α : Type}

/-! ## Turns -/

inductive Turn (α : Type) where
  | claim
  | tryClaim
  | release
  /-- Records an event from a line. -/
  | record (line : UInt16) (event : α)
  deriving DecidableEq, Repr

namespace Turn

/-- A turn as an act on the cell. A recording tries to borrow it, and gives it back at once. -/
def act [DecidableEq α] : Turn α → Cell.Act (Ring α)
  | .claim => .borrow
  | .tryClaim => .tryBorrow
  | .release => .release
  | .record line event => .tryUse fun ring => ring.entry line event

/-- Whether somebody has the log after a turn. -/
def claims (held : Bool) : Turn α → Bool
  | .claim => true
  | .tryClaim => true
  | .release => false
  | .record _ _ => held

/-- What a turn records when nobody has the log. -/
def events : Turn α → List (UInt16 × α)
  | .record line event => [(line, event)]
  | _ => []

end Turn

/-- Whether somebody has the log after turns, where nobody has it at first. -/
def isHeld (turns : List (Turn α)) : Bool := turns.foldl Turn.claims false

/-- The events that are recorded while nobody has the log. -/
def heard : Bool → List (Turn α) → List (UInt16 × α)
  | _, [] => []
  | held, turn :: turns => (if held then [] else turn.events) ++ heard (turn.claims held) turns

/-! ## A log that is free or held -/

/-- The log with a given holder or without one. -/
def loan (held : Bool) (ring : Ring α) : Loan (Ring α) := if held then Loan.lent ring else Loan.free ring

variable [DecidableEq α]

theorem step_turn (how : Flag.Claim) (turn : Turn α) (held : Bool) (ring : Ring α) :
    (Loan.step how turn.act (loan held ring)).2 =
      loan (turn.claims held) (ring.record (if held then [] else turn.events)) := by
  cases held with
  | false =>
    show (Loan.step how turn.act (Loan.free ring)).2 = _
    rw [Loan.step_free]
    cases turn <;> rfl
  | true =>
    show (Loan.step how turn.act (Loan.lent ring)).2 = _
    rw [Loan.step_lent]
    cases turn <;> rfl

theorem run_turns (how : Flag.Claim) (turns : List (Turn α)) : ∀ (held : Bool) (ring : Ring α),
    (Loan.run how (turns.map Turn.act) (loan held ring)).2 =
      loan (turns.foldl Turn.claims held) (ring.record (heard held turns)) := by
  induction turns with
  | nil => intro held ring; rfl
  | cons turn turns ih =>
    intro held ring
    rw [List.map_cons, Loan.run_cons, step_turn, ih, ← Ring.record_append]
    rfl

theorem step_record_lent (how : Flag.Claim) (line : UInt16) (event : α) (ring : Ring α) :
    Loan.step how (Turn.record line event).act (Loan.lent ring) = (.ok .refused, Loan.lent ring) :=
  Loan.step_lent ..

theorem step_record_free (how : Flag.Claim) (line : UInt16) (event : α) (ring : Ring α) :
    Loan.step how (Turn.record line event).act (Loan.free ring) =
      (.ok (.used ring (ring.entry line event)), Loan.free (ring.entry line event)) :=
  Loan.step_free ..

theorem record_ok (how : Flag.Claim) {line : UInt16} {event : α} (turns : List (Turn α)) :
    ∀ (held : Bool) (ring : Ring α) (i : ℕ), turns[i]? = some (.record line event) →
      ∃ shown, (Loan.run how (turns.map Turn.act) (loan held ring)).1[i]? = some (.ok shown) := by
  induction turns with
  | nil => intro held ring i hi; cases hi
  | cons turn turns ih =>
    intro held ring i hi
    rw [List.map_cons, Loan.run_cons]
    cases i with
    | zero =>
      obtain rfl : turn = .record line event := Option.some.inj hi
      have hshown : ∃ shown, (Loan.step how (Turn.record line event).act (loan held ring)).1 = .ok shown := by
        cases held with
        | false => exact ⟨_, congrArg Prod.fst (step_record_free how line event ring)⟩
        | true => exact ⟨_, congrArg Prod.fst (step_record_lent how line event ring)⟩
      obtain ⟨shown, hshown⟩ := hshown
      exact ⟨shown, congrArg some hshown⟩
    | succ i =>
      rw [step_turn]
      exact ih _ _ i hi

/-! ## Nothing else is lost -/

/-- Nothing is lost but what is recorded while somebody has the log: no recording faults, and the log has
recorded the events of all others in their order. A recording while somebody has it leaves the log and the
claim as they are. -/
theorem only_reentrant_events_are_lost (how : Flag.Claim) (capacity : ℕ) (idle : α) (turns : List (Turn α)) :
    let results := (Loan.run how (turns.map Turn.act) (Loan.start (Ring.new capacity idle))).1
    let s := (Loan.run how (turns.map Turn.act) (Loan.start (Ring.new capacity idle))).2
    (∀ (i : ℕ) line event, turns[i]? = some (.record line event) → ∃ shown, results[i]? = some (.ok shown)) ∧
      s.cell.contents = (Ring.new capacity idle).record (heard false turns) ∧
      s.cell.claimed = isHeld turns ∧
      ∀ line event,
        (isHeld turns = true → Loan.step how (Turn.record line event).act s = (.ok .refused, s)) ∧
        (isHeld turns = false → Loan.step how (Turn.record line event).act s =
          (.ok (.used s.cell.contents (s.cell.contents.entry line event)),
            ⟨⟨false, s.cell.contents.entry line event⟩, 0⟩)) := by
  intro results s
  have hs : s = loan (isHeld turns) ((Ring.new capacity idle).record (heard false turns)) :=
    run_turns how turns false (Ring.new capacity idle)
  refine ⟨fun i line event hi => record_ok how turns false (Ring.new capacity idle) i hi, ?_⟩
  rw [hs]
  cases isHeld turns with
  | false => exact ⟨rfl, rfl, fun line event => ⟨nofun, fun _ => step_record_free ..⟩⟩
  | true => exact ⟨rfl, rfl, fun line event => ⟨fun _ => step_record_lent .., nofun⟩⟩

/-- Two events reach a log that somebody has; the claim outlives both. -/
example : heard false [.record 3 'a', .claim, .record 4 'b', .tryClaim, .record 5 'c', .release, .record 6 'd'] =
    [(3, 'a'), (6, 'd')] := by decide

/-! ## Scripts -/

theorem record_eq (how : Flag.Claim) (line : UInt16) (event : α) (r : Recorder α) (alive : ℕ) :
    r.record line event = (Loan.step how (Turn.record line event).act ⟨r, alive⟩).2.cell := by
  obtain ⟨claimed, ring⟩ := r
  unfold Turn.act
  simp only [Loan.step, Loan.claim_eq]
  cases claimed <;> rfl

def Step.turn : Step α → Turn α
  | .hold => .tryClaim
  | .release => .release
  | .entry event line => .record line event

theorem step_eq (how : Flag.Claim) (st : Step α) (held : Bool) (ring : Ring α) :
    step (loan held ring).cell st = (Loan.step how st.turn.act (loan held ring)).2.cell := by
  cases st with
  | hold =>
    rw [step_turn]
    cases held <;> rfl
  | release =>
    rw [step_turn]
    cases held <;> rfl
  | entry event line => exact record_eq how line event _ _

/-- A script is a run of its turns. -/
theorem run_eq (how : Flag.Claim) (steps : List (Step α)) : ∀ (held : Bool) (ring : Ring α),
    run steps (loan held ring).cell =
      (Loan.run how ((steps.map Step.turn).map Turn.act) (loan held ring)).2.cell := by
  induction steps with
  | nil => intro held ring; rfl
  | cons st steps ih =>
    intro held ring
    show run steps (step (loan held ring).cell st) = _
    rw [step_eq how, step_turn, ih, List.map_cons, List.map_cons, Loan.run_cons, step_turn]

end Sallyport.Trace.Recorder
