/-
The log of the host kernel. A call is served without a look at it and adds its own entry, if it has one;
the level it was made at shows nowhere else.
-/
import Sallyport.Host.Kernel

namespace Sallyport.Host.Kernel

/-- A kernel without its log: everything a call can depend on. -/
def unlogged (k : Kernel) : Kernel := { k with log := [] }

/-- What a call adds to the log. -/
def entries (privileged : Bool) (c : Call) : List Logged := (c.name?.map (⟨·, privileged⟩)).toList

theorem names_entries (privileged : Bool) (c : Call) : (entries privileged c).map (·.name) = c.name?.toList := by
  unfold entries
  cases c.name? <;> rfl

theorem privileged_of_mem_entries {privileged : Bool} {c : Call} {e : Logged} (h : e ∈ entries privileged c) :
    e.privileged = privileged := by
  unfold entries at h
  cases hn : c.name? with
  | none => rw [hn] at h; cases h
  | some name =>
    rw [hn] at h
    obtain rfl := List.mem_singleton.1 h
    rfl

theorem serve_withLog (c : Call) (k : Kernel) (log : List Logged) :
    serve c { k with log } = ((serve c k).1, { (serve c k).2 with log }) := by
  cases c <;> rfl

theorem record_eq (privileged : Bool) (c : Call) (k : Kernel) :
    k.record privileged c = { k with log := k.log ++ entries privileged c } := by
  unfold record entries
  cases c.name? with
  | none => simp
  | some name => rfl

theorem run_eq (privileged : Bool) (c : Call) (k : Kernel) :
    run privileged c k = ((serve c k).1, { (serve c k).2 with log := k.log ++ entries privileged c }) := by
  rw [run, record_eq, serve_withLog]

theorem serve_congr {k k' : Kernel} (h : k.unlogged = k'.unlogged) (c : Call) :
    (serve c k).1 = (serve c k').1 ∧ (serve c k).2.unlogged = (serve c k').2.unlogged := by
  have key : ∀ k : Kernel, serve c k.unlogged = ((serve c k).1, (serve c k).2.unlogged) := fun k =>
    serve_withLog c k []
  have := key k
  rw [h, key k'] at this
  exact ⟨(congrArg Prod.fst this).symm, (congrArg Prod.snd this).symm⟩

end Sallyport.Host.Kernel
