/-
Checks of a wait for a time-out. A check that finds it not over counts what is left from the current tick
and keeps the deadline, so checks at the same tick all say what the first one said. The outcomes of one
check (`checkTimeOut_cases`) are all that the rest is built on.
-/
import Sallyport.Proofs.Host.Routes

namespace Sallyport.Host.Tasks

open World

/-- Ticks since a wait began. The tick counter may have wrapped, once at most. -/
def elapsed (timeOut : TimeOut) : Nat :=
  (tickCount.toNat + 0x100000000 - timeOut.timeOnEntering.toNat) % 0x100000000

/-- The tick at which a wait is over. -/
def deadline (timeOut : TimeOut) (wait : UInt32) : UInt32 := timeOut.timeOnEntering + wait

/-! ## One check -/

section Check

variable {timeOut timeOut' : TimeOut} {wait wait' : UInt32} {code : Int32}

theorem toNat_elapsed (timeOut : TimeOut) : (tickCount - timeOut.timeOnEntering).toNat = elapsed timeOut := by
  rw [UInt32.toNat_sub, elapsed]
  have := timeOut.timeOnEntering.toNat_lt
  omega

/-- A check finds a wait without end, a wait that is over, or a wait of which something is left. -/
theorem checkTimeOut_cases (h : checkTimeOut timeOut wait = .ok (code, timeOut', wait')) :
    (wait = maxDelay ∧ code = Code.fail ∧ timeOut' = timeOut ∧ wait' = wait) ∨
    (wait ≠ maxDelay ∧ wait.toNat ≤ elapsed timeOut ∧ code = Code.pass ∧ timeOut' = timeOut ∧ wait' = 0) ∨
    (wait ≠ maxDelay ∧ code = Code.fail ∧ timeOut' = { timeOut with timeOnEntering := tickCount } ∧
      elapsed timeOut < wait.toNat ∧ wait'.toNat + elapsed timeOut = wait.toNat) := by
  unfold checkTimeOut at h
  by_cases hmax : wait = maxDelay
  · rw [if_pos hmax] at h
    cases h
    exact .inl ⟨hmax, rfl, rfl, rfl⟩
  rw [if_neg hmax] at h
  by_cases hover : wait ≤ tickCount - timeOut.timeOnEntering
  · rw [if_pos hover] at h
    cases h
    rw [UInt32.le_iff_toNat_le, toNat_elapsed] at hover
    exact .inr (.inl ⟨hmax, hover, rfl, rfl, rfl⟩)
  · rw [if_neg hover] at h
    rw [UInt32.not_le, UInt32.lt_iff_toNat_lt, toNat_elapsed] at hover
    simp only [toNat_elapsed] at h
    rw [minus_of_le (by omega)] at h
    cases h
    refine .inr (.inr ⟨hmax, rfl, rfl, hover, ?_⟩)
    rw [UInt32.toNat_ofNat_of_lt' (Nat.lt_of_le_of_lt (Nat.sub_le ..) wait.toNat_lt)]
    omega

/-- The wait began before the tick counter wrapped. -/
example : checkTimeOut ⟨0, 0xffffffff⟩ 2000 = .ok (Code.fail, ⟨0, 1234⟩, 765) := by decide

theorem elapsed_now (timeOut : TimeOut) : elapsed { timeOut with timeOnEntering := tickCount } = 0 := by
  simp [elapsed]

theorem deadline_now {left : UInt32} (h : left.toNat + elapsed timeOut = wait.toNat) :
    deadline { timeOut with timeOnEntering := tickCount } left = deadline timeOut wait := by
  have hleft : left = wait - (tickCount - timeOut.timeOnEntering) := by
    rw [← toNat_elapsed] at h
    rw [← UInt32.toNat_inj, UInt32.toNat_sub_of_le _ _ (UInt32.le_iff_toNat_le.2 (by omega))]
    omega
  subst hleft
  simp only [deadline]
  grind

/-- What a check makes of a wait: the verdict, and the wait as it is left. -/
structure Checked (timeOut : TimeOut) (wait : UInt32) (code : Int32) (timeOut' : TimeOut) (wait' : UInt32) : Prop where
  endless : wait = maxDelay → code = Code.fail ∧ timeOut' = timeOut ∧ wait' = wait
  pass_iff : wait ≠ maxDelay → (code = Code.pass ↔ wait.toNat ≤ elapsed timeOut)
  code_eq : code = Code.pass ∨ code = Code.fail
  of_pass : code = Code.pass → wait' = 0 ∧ timeOut' = timeOut
  of_fail : code = Code.fail → wait' ≠ 0 ∧ wait' ≤ wait ∧ deadline timeOut' wait' = deadline timeOut wait
  left_eq : code = Code.fail → wait ≠ maxDelay → wait'.toNat + elapsed timeOut = wait.toNat
  overflowCount : timeOut'.overflowCount = timeOut.overflowCount

theorem checked_checkTimeOut (h : checkTimeOut timeOut wait = .ok (code, timeOut', wait')) :
    Checked timeOut wait code timeOut' wait' := by
  rcases checkTimeOut_cases h with
    ⟨hmax, rfl, rfl, rfl⟩ | ⟨hmax, hover, rfl, rfl, rfl⟩ | ⟨hmax, rfl, rfl, hover, hleft⟩
  · have hne : wait' ≠ 0 := by
      rw [hmax]
      decide
    exact ⟨fun _ => ⟨rfl, rfl, rfl⟩, fun hne => absurd hmax hne, .inr rfl, fun hcode => absurd hcode (by decide),
      fun _ => ⟨hne, UInt32.le_refl _, rfl⟩, fun _ hne => absurd hmax hne, rfl⟩
  · exact ⟨fun hmax' => absurd hmax' hmax, fun _ => iff_of_true rfl hover, .inl rfl, fun _ => ⟨rfl, rfl⟩,
      fun hcode => absurd hcode (by decide), fun hcode => absurd hcode (by decide), rfl⟩
  · refine ⟨fun hmax' => absurd hmax' hmax, fun _ => iff_of_false (by decide) (by omega), .inr rfl,
      fun hcode => absurd hcode (by decide), fun _ => ⟨?_, ?_, deadline_now hleft⟩, fun _ _ => hleft, rfl⟩
    · rintro rfl
      rw [UInt32.toNat_zero] at hleft
      omega
    · rw [UInt32.le_iff_toNat_le]
      omega

theorem checkTimeOut_again (h : checkTimeOut timeOut wait = .ok (code, timeOut', wait')) :
    checkTimeOut timeOut' wait' = .ok (code, timeOut', wait') := by
  obtain ⟨⟨code₂, timeOut₂, wait₂⟩, h₂⟩ := checkTimeOut_ok timeOut' wait'
  rw [h₂]
  rcases checkTimeOut_cases h with
    ⟨hmax, rfl, rfl, rfl⟩ | ⟨hmax, hover, rfl, rfl, rfl⟩ | ⟨hmax, rfl, rfl, hover, hleft⟩
  · rw [← h₂, h]
  · -- A wait of no ticks is over, and is left as it is.
    rcases checkTimeOut_cases h₂ with ⟨hmax, -⟩ | ⟨-, -, rfl, rfl, rfl⟩ | ⟨-, -, -, hover, -⟩
    · cases hmax
    · rfl
    · exact absurd hover (Nat.not_lt_zero _)
  · -- No tick has gone by since the current one, and something was left.
    rcases checkTimeOut_cases h₂ with ⟨-, rfl, rfl, rfl⟩ | ⟨-, hover', -⟩ | ⟨-, rfl, rfl, -, hleft'⟩
    · rfl
    · rw [elapsed_now] at hover'
      omega
    · rw [elapsed_now, Nat.add_zero, UInt32.toNat_inj] at hleft'
      subst hleft'
      rfl

end Check

/-! ## Checks of a run -/

/-- What a caller keeps while it waits. -/
structure Wait where
  timeOut : Ref TimeOut
  left : Ref UInt32

namespace Wait

def check (x : Wait) (route : Route) (privileged : Bool) : Routed :=
  ⟨route, privileged, .task (.checkTimeOut x.timeOut x.left)⟩

/-- The wait with what a check wrote back. -/
def told (x : Wait) : Except Fault Reply → Wait
  | .ok (.timeOutCheck _ timeOut left) => ⟨{ x.timeOut with value := timeOut }, { x.left with value := left }⟩
  | _ => x

/-- A check of a wait, after calls that others make. -/
structure Turn where
  others : List Routed
  route : Route
  privileged : Bool

/-- Checks one after another, each on what the one before wrote back. -/
def checks : List Turn → Wait → World Kernel → List (Except Fault Reply)
  | [], _, _ => []
  | turn :: turns, x, w =>
    let (reply, w) := issue (x.check turn.route turn.privileged) (after turn.others w)
    reply :: checks turns (x.told reply) w

theorem result_check (x : Wait) (route : Route) (privileged : Bool) (w : World Kernel) :
    (issue (x.check route privileged) w).1 =
      (checkTimeOut x.timeOut.value x.left.value).map fun (code, timeOut, left) =>
        .timeOutCheck code timeOut left := result_issue ..

/-- From a wait that a check leaves as it is, all checks say the same. -/
theorem checks_of_settled {x : Wait} {code : Int32}
    (h : checkTimeOut x.timeOut.value x.left.value = .ok (code, x.timeOut.value, x.left.value)) (turns : List Turn) :
    ∀ w, checks turns x w =
      List.replicate turns.length (.ok (.timeOutCheck code x.timeOut.value x.left.value)) := by
  induction turns with
  | nil => exact fun _ => rfl
  | cons turn turns ih =>
    intro w
    have hreply := result_check x turn.route turn.privileged (after turn.others w)
    rw [h] at hreply
    simp only [checks, hreply, List.length_cons, List.replicate_succ]
    exact congrArg (_ :: ·) (ih _)

end Wait

/-- Checking a wait never moves its deadline: it is over iff as many ticks have gone by as it has, and
otherwise what is left is counted from the current tick. However many checks follow at this tick, with any
calls between them, they give the same verdict. -/
theorem checks_keep_deadline (x : Wait) (route : Route) (privileged : Bool) (w : World Kernel) :
    let first := issue (x.check route privileged) w
    ∃ code timeOut left, first.1 = .ok (.timeOutCheck code timeOut left) ∧
      Checked x.timeOut.value x.left.value code timeOut left ∧ first.2.kernel.unlogged = w.kernel.unlogged ∧
      ∀ turns, Wait.checks turns (x.told first.1) first.2 =
        List.replicate turns.length (.ok (.timeOutCheck code timeOut left)) := by
  intro first
  obtain ⟨⟨code, timeOut, left⟩, hcheck⟩ := checkTimeOut_ok x.timeOut.value x.left.value
  have hreply : first.1 = .ok (.timeOutCheck code timeOut left) := by
    rw [x.result_check, hcheck]
    rfl
  refine ⟨code, timeOut, left, hreply, checked_checkTimeOut hcheck, unlogged_issue rfl, fun turns => ?_⟩
  rw [hreply]
  exact Wait.checks_of_settled (checkTimeOut_again hcheck) turns first.2

end Sallyport.Host.Tasks
