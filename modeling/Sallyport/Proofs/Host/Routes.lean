/-
Runs on the host kernel in which every call has its own caller, at user or at machine level, directly or
through the gate. Only the log tells them apart. What a run comes to is stated over its history, and
proved call by call.
-/
import Sallyport.Proofs.Host.Capacity
import Sallyport.Proofs.Trampoline.Transparent

namespace Sallyport

open Host (Kernel)

/-- A call, the route it takes and the level of whoever makes it. -/
structure Routed where
  route : Route
  privileged : Bool
  call : Call

/-- Calls of a run that are over, oldest first, each with what it returned or the fault it ended on. -/
abbrev History : Type := List (Call × Except Fault Reply)

namespace World

def issue (m : Routed) : Attempt (World Kernel) Reply := fun w => call m.route m.call (w.atLevel m.privileged)

def after (ms : List Routed) (w : World Kernel) : World Kernel := ms.foldl (fun w m => (issue m w).2) w

/-- The calls of a run with what they showed. -/
def history : List Routed → World Kernel → History
  | [], _ => []
  | m :: ms, w => (m.call, (issue m w).1) :: history ms (issue m w).2

/-! ## One call -/

theorem result_issue (m : Routed) (w : World Kernel) : (issue m w).1 = (Kernel.serve m.call w.kernel).1 := by
  unfold issue
  rw [Transparency.call_eq]
  rfl

/-- A call leaves the kernel as serving it does, and is logged with the level it is served at. -/
theorem kernel_issue (m : Routed) (w : World Kernel) : (issue m w).2.kernel =
    { (Kernel.serve m.call w.kernel).2 with
      log := w.kernel.log ++
        Kernel.entries (Transparency.servedAt m.route (w.atLevel m.privileged).gate) m.call } := by
  unfold issue
  rw [Transparency.call_eq]
  rfl

theorem unlogged_issue_eq (m : Routed) (w : World Kernel) :
    (issue m w).2.kernel.unlogged = (Kernel.serve m.call w.kernel).2.unlogged := by
  rw [kernel_issue]
  rfl

theorem unlogged_issue {m : Routed} {w : World Kernel} (h : (Kernel.serve m.call w.kernel).2 = w.kernel) :
    (issue m w).2.kernel.unlogged = w.kernel.unlogged := by
  rw [unlogged_issue_eq, h]

theorem within_issue {w : World Kernel} (h : w.kernel.Within) (m : Routed) : (issue m w).2.kernel.Within := by
  rw [kernel_issue]
  exact ⟨(h.serve m.call).queue, (h.serve m.call).stream, (h.serve m.call).heap⟩

/-! ## Runs -/

theorem after_concat (ms : List Routed) (m : Routed) (w : World Kernel) :
    after (ms ++ [m]) w = (issue m (after ms w)).2 := by
  unfold after
  rw [List.foldl_append]
  rfl

theorem within_after (ms : List Routed) : ∀ {w : World Kernel}, w.kernel.Within → (after ms w).kernel.Within := by
  induction ms with
  | nil => exact fun h => h
  | cons m ms ih => exact fun h => ih (within_issue h m)

/-- What every call of a run keeps, given the history and what the call shows, is kept by the run. -/
theorem history_keeps (P : History → World Kernel → Prop) {allowed : Call → Bool}
    (hissue : ∀ {past w m}, P past w → allowed m.call = true → P (past ++ [(m.call, (issue m w).1)]) (issue m w).2)
    (ms : List Routed) : ∀ {past : History} {w : World Kernel}, (∀ m ∈ ms, allowed m.call = true) → P past w →
      P (past ++ history ms w) (after ms w) := by
  induction ms with
  | nil =>
    intro past w _ h
    rw [history, List.append_nil]
    exact h
  | cons m ms ih =>
    intro past w hms h
    have hnext := hissue h (hms m List.mem_cons_self)
    have hrest := ih (fun m hm => hms m (List.mem_cons_of_mem _ hm)) hnext
    rwa [List.append_assoc] at hrest

theorem history_keeps_all (P : History → World Kernel → Prop)
    (hissue : ∀ {past w} (m : Routed), P past w → P (past ++ [(m.call, (issue m w).1)]) (issue m w).2)
    (ms : List Routed) {past : History} {w : World Kernel} (h : P past w) : P (past ++ history ms w) (after ms w) :=
  @history_keeps P (fun _ => true) (fun h _ => hissue _ h) ms past w (fun _ _ => rfl) h

end World

end Sallyport
