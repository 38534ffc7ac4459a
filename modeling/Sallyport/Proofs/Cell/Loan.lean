/-
A cell has one borrower at a time: after any acts the flag is set exactly while a borrow is alive, and
whoever is refused has changed nothing, in whichever way the flag is claimed. A loan is only ever free
or lent once (`Stands`), and in each of the two every act has a closed form.
-/
import Sallyport.Cell.Loan
import Sallyport.Cell.Session
import Mathlib.Data.List.Basic

namespace Sallyport.Cell

variable {α : Type}

/-! ## What has been left and seen -/

namespace Shown

def left? : Shown α → Option α
  | .left a => some a
  | .used _ a => some a
  | _ => none

/-- The value a borrower knows the contents to have. -/
def held? : Shown α → Option α
  | .granted a => some a
  | .held a => some a
  | _ => none

/-- The value read off the last result that has one. -/
def last (read? : Shown α → Option α) (initial : α) (done : List (Except Fault (Shown α))) : α :=
  done.foldl (fun a result => (result.toOption.bind read?).getD a) initial

theorem last_concat (read? : Shown α → Option α) (initial : α) (done : List (Except Fault (Shown α)))
    (result : Except Fault (Shown α)) :
    last read? initial (done ++ [result]) = (result.toOption.bind read?).getD (last read? initial done) := by
  unfold last
  rw [List.foldl_append]
  rfl

end Shown

namespace Loan

/-- The value at the end of the last borrow, and the initial one before there was any. -/
def lastLeft : α → List (Except Fault (Shown α)) → α := Shown.last Shown.left?

/-- What the borrower has been granted or has made of it since. -/
def lastHeld : α → List (Except Fault (Shown α)) → α := Shown.last Shown.held?

/-! ## The two states -/

def free (a : α) : Loan α := ⟨⟨false, a⟩, 0⟩

def lent (a : α) : Loan α := ⟨⟨true, a⟩, 1⟩

/-- A claim sets the flag in any case, and makes a borrow just if it was not set. -/
theorem claim_eq (how : Flag.Claim) (s : Loan α) :
    s.claim how = (!s.cell.claimed, ⟨⟨true, s.cell.contents⟩, if s.cell.claimed then s.alive else s.alive + 1⟩) := by
  obtain ⟨⟨claimed, contents⟩, alive⟩ := s
  cases how <;> cases claimed <;> rfl

theorem run_cons (how : Flag.Claim) (act : Act α) (acts : List (Act α)) (s : Loan α) :
    run how (act :: acts) s =
      ((step how act s).1 :: (run how acts (step how act s).2).1, (run how acts (step how act s).2).2) := rfl

theorem step_free (how : Flag.Claim) (act : Act α) (a : α) :
    step how act (free a) = match act with
      | .borrow => (.ok (.granted a), lent a)
      | .tryBorrow => (.ok (.granted a), lent a)
      | .release => (.ok .nothing, free a)
      | .work _ => (.ok .nothing, free a)
      | .use f => (.ok (.used a (f a)), free (f a))
      | .tryUse f => (.ok (.used a (f a)), free (f a)) := by
  cases act <;> simp only [step, claim_eq] <;> rfl

theorem step_lent (how : Flag.Claim) (act : Act α) (a : α) :
    step how act (lent a) = match act with
      | .borrow => (.error .cellBorrowed, lent a)
      | .tryBorrow => (.ok .refused, lent a)
      | .release => (.ok (.left a), free a)
      | .work f => ((f a).map .held, lent ((f a).toOption.getD a))
      | .use _ => (.error .cellBorrowed, lent a)
      | .tryUse _ => (.ok .refused, lent a) := by
  cases act with
  | work f =>
    simp only [step, lent]
    cases f a <;> rfl
  | release => rfl
  | _ =>
    simp only [step, claim_eq]
    rfl

/-- Where a run stands: nobody has the cell, and it holds what was left last, or one borrower has it. -/
def Stands (initial : α) (done : List (Except Fault (Shown α))) (s : Loan α) : Prop :=
  s = free (lastLeft initial done) ∨ s = lent (lastHeld initial done)

theorem Stands.step {initial : α} {done : List (Except Fault (Shown α))} {s : Loan α} (h : Stands initial done s)
    (how : Flag.Claim) (act : Act α) :
    Stands initial (done ++ [(step how act s).1]) (step how act s).2 := by
  unfold Stands lastLeft lastHeld
  rw [Shown.last_concat, Shown.last_concat]
  -- Only a borrow that lasts takes a cell that is free, and only its end frees one that is lent.
  rcases h with rfl | rfl
  · rw [step_free]
    cases act with
    | borrow => exact Or.inr rfl
    | tryBorrow => exact Or.inr rfl
    | _ => exact Or.inl rfl
  · rw [step_lent]
    cases act with
    | release => exact Or.inl rfl
    | work f =>
      refine Or.inr ?_
      dsimp only
      cases f (lastHeld initial done) <;> rfl
    | _ => exact Or.inr rfl

theorem Stands.run {initial : α} (how : Flag.Claim) (acts : List (Act α)) :
    ∀ {done : List (Except Fault (Shown α))} {s : Loan α}, Stands initial done s →
      Stands initial (done ++ (run how acts s).1) (run how acts s).2 := by
  induction acts with
  | nil =>
    intro done s h
    show Stands initial (done ++ []) s
    rwa [List.append_nil]
  | cons act acts ih =>
    intro done s h
    have hrest := ih (h.step how act)
    rw [List.append_assoc] at hrest
    exact hrest

theorem stands_start (initial : α) : Stands initial [] (start initial) := Or.inl rfl

theorem run_congr (how other : Flag.Claim) {initial : α} (acts : List (Act α)) :
    ∀ {done : List (Except Fault (Shown α))} {s : Loan α}, Stands initial done s →
      run how acts s = run other acts s := by
  induction acts with
  | nil => intro done s _; rfl
  | cons act acts ih =>
    intro done s h
    have hstep : step how act s = step other act s := by
      rcases h with rfl | rfl
      · rw [step_free, step_free]
      · rw [step_lent, step_lent]
    rw [run_cons, run_cons, hstep, ih (h.step other act)]

/-! ## One borrower at a time -/

/-- One borrower at a time. While a borrow is alive every other attempt is refused or faults, and changes
nothing; while none is, the next one succeeds and finds what the previous holder left. It makes no difference
in which way the flag is claimed. -/
theorem one_borrower_at_a_time (how : Flag.Claim) (initial : α) (acts : List (Act α)) :
    let shown := (run how acts (start initial)).1
    let s := (run how acts (start initial)).2
    let left := lastLeft initial shown
    let held := lastHeld initial shown
    s.alive ≤ 1 ∧ (s.cell.claimed = true ↔ s.alive = 1) ∧
      (s.alive = 1 → step how .borrow s = (.error .cellBorrowed, s) ∧ step how .tryBorrow s = (.ok .refused, s) ∧
        ∀ f, step how (.use f) s = (.error .cellBorrowed, s) ∧ step how (.tryUse f) s = (.ok .refused, s)) ∧
      (s.alive = 1 → step how .release s = (.ok (.left held), ⟨⟨false, held⟩, 0⟩) ∧
        ∀ f, step how (.work f) s = ((f held).map .held, ⟨⟨true, (f held).toOption.getD held⟩, 1⟩)) ∧
      (s.alive = 0 → step how .borrow s = (.ok (.granted left), ⟨⟨true, left⟩, 1⟩) ∧
        step how .tryBorrow s = (.ok (.granted left), ⟨⟨true, left⟩, 1⟩) ∧
        ∀ f, step how (.use f) s = (.ok (.used left (f left)), ⟨⟨false, f left⟩, 0⟩) ∧
          step how (.tryUse f) s = (.ok (.used left (f left)), ⟨⟨false, f left⟩, 0⟩)) ∧
      ∀ other, run other acts (start initial) = run how acts (start initial) := by
  intro shown s left held
  have hstands : Stands initial shown s := (stands_start initial).run how acts
  have hother : ∀ other, run other acts (start initial) = run how acts (start initial) := fun other =>
    run_congr other how acts (stands_start initial)
  rcases hstands with hs | hs
  · rw [hs]
    refine ⟨Nat.zero_le 1, by simp [free], nofun, nofun, fun _ => ⟨?_, ?_, fun f => ⟨?_, ?_⟩⟩, hother⟩ <;>
      exact step_free ..
  · rw [hs]
    refine ⟨Nat.le_refl 1, by simp [lent], fun _ => ⟨?_, ?_, fun f => ⟨?_, ?_⟩⟩, fun _ => ⟨?_, fun f => ?_⟩, nofun, hother⟩ <;>
      exact step_lent ..

/-- The second borrow finds what the first one made of the contents, and one in between is refused. -/
example : (run .loadThenStore [.borrow, .work fun n => .ok (n + 1), .tryBorrow, .use id, .release, .use id]
    (start 7)).1 = [.ok (.granted 7), .ok (.held 8), .ok .refused, .error .cellBorrowed, .ok (.left 8),
      .ok (.used 8 8)] := by decide

end Loan

/-! ## Sessions -/

/-- A use of a cell of a number as an act. -/
def Use.act : Use → Act Int64
  | .borrow => .borrow
  | .tryBorrow => .tryBorrow
  | .release => .release
  | .read => .work .ok
  | .add amount => .work fun n =>
    match Session.checkedAdd n amount with
    | some sum => .ok sum
    | none => .error .addOverflow
  | .peek => .use id

def Shown.seen : Shown Int64 → Seen
  | .granted _ => .borrowed
  | .refused => .refused
  | .held n => .value n
  | .left n => .value n
  | .used n _ => .value n
  | .nothing => .nothing

namespace Session

def loan (s : Session) : Loan Int64 := ⟨s.cell, s.alive⟩

def ofLoan (s : Loan Int64) : Session := ⟨s.cell, s.alive⟩

theorem step_eq (how : Flag.Claim) (u : Use) (s : Session) :
    step u s = ((Loan.step how u.act s.loan).1.map Shown.seen, ofLoan (Loan.step how u.act s.loan).2) := by
  obtain ⟨⟨claimed, contents⟩, alive⟩ := s
  cases u with
  | borrow | tryBorrow | peek =>
    simp only [Use.act, Loan.step, Loan.claim_eq, loan]
    cases claimed <;> rfl
  | release | read => cases alive <;> rfl
  | add amount =>
    cases alive with
    | zero => rfl
    | succ n =>
      simp only [step, Use.act, Loan.step, loan]
      cases checkedAdd contents amount <;> rfl

theorem run_eq (how : Flag.Claim) (uses : List Use) : ∀ s : Session,
    run uses s = ((Loan.run how (uses.map Use.act) s.loan).1.map (·.map Shown.seen),
      ofLoan (Loan.run how (uses.map Use.act) s.loan).2) := by
  induction uses with
  | nil => intro s; rfl
  | cons u uses ih =>
    intro s
    show ((step u s).1 :: (run uses (step u s).2).1, (run uses (step u s).2).2) = _
    rw [step_eq how u s, ih]
    rfl

end Session

end Sallyport.Cell
