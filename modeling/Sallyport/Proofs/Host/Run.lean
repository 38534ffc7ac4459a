/-
Runs of the host kernel, each call at a level of its own. A fault ends the call that met it, and the run
goes on with the kernel as that call left it.
-/
import Sallyport.Proofs.Host.Log

namespace Sallyport.Host

/-- A call and the level it is made at. -/
structure Made where
  privileged : Bool
  call : Call

namespace Kernel

/-- The kernel after one call. -/
def next (m : Made) (k : Kernel) : Kernel := (run m.privileged m.call k).2

/-- The kernel after a run. -/
def after (ms : List Made) (k : Kernel) : Kernel := ms.foldl (fun k m => k.next m) k

/-- The calls of a run, each with what it returns or the fault it ends on. -/
def results : List Made → Kernel → List (Made × Except Fault Reply)
  | [], _ => []
  | m :: ms, k => (m, (run m.privileged m.call k).1) :: results ms (k.next m)

theorem next_eq (m : Made) (k : Kernel) :
    k.next m = { (serve m.call k).2 with log := k.log ++ entries m.privileged m.call } :=
  congrArg Prod.snd (run_eq m.privileged m.call k)

theorem after_cons (m : Made) (ms : List Made) (k : Kernel) : after (m :: ms) k = after ms (k.next m) := rfl

/-- What every call keeps is kept by every run. -/
theorem after_keeps {P : Kernel → Prop} (hnext : ∀ m k, P k → P (k.next m)) (ms : List Made) :
    ∀ {k : Kernel}, P k → P (after ms k) := by
  induction ms with
  | nil => exact fun h => h
  | cons m ms ih => exact fun h => ih (hnext m _ h)

theorem log_after (ms : List Made) : ∀ k : Kernel,
    (after ms k).log = k.log ++ ms.flatMap fun m => entries m.privileged m.call := by
  induction ms with
  | nil => intro k; simp [after]
  | cons m ms ih =>
    intro k
    rw [after_cons, ih, next_eq, List.flatMap_cons, List.append_assoc]

end Kernel

end Sallyport.Host
