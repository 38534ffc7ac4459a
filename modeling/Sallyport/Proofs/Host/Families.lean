/-
Families of services do not interfere on the host kernel. A call reads and writes the part of its own
family, and adds itself to the log; so a family sees of a run its own calls only.
-/
import Mathlib.Logic.Relation
import Sallyport.Proofs.Host.Run

namespace Sallyport.Host

/-! ## Families in a run -/

namespace Made

def family (m : Made) : Family := m.call.family

/-- The calls of one family, in their order. -/
def only (f : Family) (ms : List Made) : List Made := ms.filter fun m => m.family = f

/-- Two calls of different families that follow each other change places. -/
inductive Swapped : List Made → List Made → Prop where
  | intro (before : List Made) (m m' : Made) (rest : List Made) : m.family ≠ m'.family →
      Swapped (before ++ m :: m' :: rest) (before ++ m' :: m :: rest)

/-- Calls of different families are moved past each other, any number of times. -/
def Moved : List Made → List Made → Prop := Relation.ReflTransGen Swapped

theorem only_cons_of_eq {f : Family} {m : Made} (h : m.family = f) (ms : List Made) :
    only f (m :: ms) = m :: only f ms := List.filter_cons_of_pos (decide_eq_true h)

theorem only_cons_of_ne {f : Family} {m : Made} (h : m.family ≠ f) (ms : List Made) :
    only f (m :: ms) = only f ms := List.filter_cons_of_neg (by simpa using h)

variable {ms ms' : List Made}

theorem Swapped.only_eq (h : Swapped ms ms') (f : Family) : only f ms = only f ms' := by
  obtain ⟨before, m, m', rest, hne⟩ := h
  unfold only
  rw [List.filter_append, List.filter_append]
  congr 1
  change only f (m :: m' :: rest) = only f (m' :: m :: rest)
  by_cases hm : m.family = f
  · have hm' : m'.family ≠ f := fun h' => hne (hm.trans h'.symm)
    rw [only_cons_of_eq hm, only_cons_of_ne hm', only_cons_of_ne hm', only_cons_of_eq hm]
  · rw [only_cons_of_ne hm]
    by_cases hm' : m'.family = f
    · rw [only_cons_of_eq hm', only_cons_of_eq hm', only_cons_of_ne hm]
    · rw [only_cons_of_ne hm', only_cons_of_ne hm', only_cons_of_ne hm]

theorem Moved.only_eq (h : Moved ms ms') (f : Family) : only f ms = only f ms' := by
  induction h with
  | refl => rfl
  | tail _ hswap ih => exact ih.trans (hswap.only_eq f)

theorem Moved.perm (h : Moved ms ms') : ms.Perm ms' := by
  induction h with
  | refl => exact .refl _
  | tail _ hswap ih =>
    obtain ⟨before, m, m', rest, -⟩ := hswap
    exact ih.trans (List.Perm.append_left before (.swap m' m rest))

end Made

namespace Kernel

/-! ## The part of a family -/

/-- What the kernel keeps for a family. -/
def Part : Family → Type
  | .task => Tasks
  | .queue => Queue
  | .timer => Timer
  | .eventGroup => EventGroup
  | .stream => Stream
  | .heap => Heap

def part : (f : Family) → Kernel → Part f
  | .task, k => k.tasks
  | .queue, k => k.queue
  | .timer, k => k.timer
  | .eventGroup, k => k.events
  | .stream, k => k.stream
  | .heap, k => k.heap

theorem unlogged_eq {k k' : Kernel} (h : ∀ f, k.part f = k'.part f) : k.unlogged = k'.unlogged := by
  obtain ⟨tasks, queue, timer, events, stream, heap, log⟩ := k
  obtain ⟨tasks', queue', timer', events', stream', heap', log'⟩ := k'
  obtain rfl : tasks = tasks' := h .task
  obtain rfl : queue = queue' := h .queue
  obtain rfl : timer = timer' := h .timer
  obtain rfl : events = events' := h .eventGroup
  obtain rfl : stream = stream' := h .stream
  obtain rfl : heap = heap' := h .heap
  rfl

theorem part_withLog (f : Family) (k : Kernel) (log : List Logged) : part f { k with log } = part f k := by
  cases f <;> rfl

theorem part_serve_of_ne {f : Family} {c : Call} (h : c.family ≠ f) (k : Kernel) :
    (serve c k).2.part f = k.part f := by
  cases c <;> cases f <;> first | rfl | exact absurd rfl h

theorem serve_eq_of_part {k k' : Kernel} (c : Call) (h : k.part c.family = k'.part c.family) :
    (serve c k).1 = (serve c k').1 ∧ (serve c k).2.part c.family = (serve c k').2.part c.family := by
  cases c with
  | task c =>
    have h : k.tasks = k'.tasks := h
    exact ⟨congrArg (fun t => (Tasks.step c t).1) h, congrArg (fun t => (Tasks.step c t).2) h⟩
  | queue c =>
    have h : k.queue = k'.queue := h
    exact ⟨congrArg (fun q => (Queue.step c q).1) h, congrArg (fun q => (Queue.step c q).2) h⟩
  | timer c =>
    have h : k.timer = k'.timer := h
    exact ⟨congrArg (fun t => Except.ok (Timer.step c t).1) h, congrArg (fun t => (Timer.step c t).2) h⟩
  | eventGroup c =>
    have h : k.events = k'.events := h
    exact ⟨congrArg (fun g => Except.ok (EventGroup.step c g).1) h, congrArg (fun g => (EventGroup.step c g).2) h⟩
  | stream c =>
    have h : k.stream = k'.stream := h
    exact ⟨congrArg (fun s => (Stream.step c s).1) h, congrArg (fun s => (Stream.step c s).2) h⟩
  | heap c =>
    have h : k.heap = k'.heap := h
    exact ⟨congrArg (fun h => (Heap.step c h).1) h, congrArg (fun h => (Heap.step c h).2) h⟩

/-! ## One call -/

variable {k k' : Kernel} {m : Made} {f : Family}

theorem part_next (f : Family) (m : Made) (k : Kernel) : (k.next m).part f = (serve m.call k).2.part f := by
  rw [next_eq]
  exact part_withLog f _ _

theorem part_next_of_ne (h : m.family ≠ f) (k : Kernel) : (k.next m).part f = k.part f := by
  rw [part_next, part_serve_of_ne h]

theorem run_eq_of_part (h : k.part m.family = k'.part m.family) :
    (run m.privileged m.call k).1 = (run m.privileged m.call k').1 := by
  rw [run_eq, run_eq]
  exact (serve_eq_of_part m.call h).1

theorem part_next_eq_of_part (h : k.part m.family = k'.part m.family) :
    (k.next m).part m.family = (k'.next m).part m.family := by
  rw [part_next, part_next]
  exact (serve_eq_of_part m.call h).2

/-! ## Runs -/

/-- What a family sees of a run is the run of its own calls. -/
theorem results_only (f : Family) (ms : List Made) : ∀ {k k' : Kernel}, k.part f = k'.part f →
    (results ms k).filter (fun r => r.1.family = f) = results (Made.only f ms) k' ∧
      (after ms k).part f = (after (Made.only f ms) k').part f := by
  induction ms with
  | nil => exact fun h => ⟨rfl, h⟩
  | cons m ms ih =>
    intro k k' h
    by_cases hm : m.family = f
    · -- A call of the family: both kernels reply alike, and still agree.
      subst hm
      obtain ⟨hresults, hafter⟩ := ih (part_next_eq_of_part h)
      rw [Made.only_cons_of_eq rfl]
      refine ⟨?_, hafter⟩
      simp only [results, List.filter_cons, decide_true, if_true, hresults, run_eq_of_part h]
    · -- A call of another family: nothing happens to the part.
      obtain ⟨hresults, hafter⟩ := ih ((part_next_of_ne hm k).trans h)
      rw [Made.only_cons_of_ne hm]
      refine ⟨?_, hafter⟩
      rw [results, List.filter_cons_of_neg (by simpa using hm), hresults]

/-- Families of services do not interfere: each gets the replies, and leaves the state, that it does with all
other calls left out; and moving calls of different families past each other changes only the order of the
log. -/
theorem families_do_not_interfere (ms : List Made) (k : Kernel) :
    (∀ f, (results ms k).filter (fun r => r.1.family = f) = results (Made.only f ms) k ∧
      (after ms k).part f = (after (Made.only f ms) k).part f) ∧
    ∀ ms', Made.Moved ms ms' →
      (∀ f, (results ms' k).filter (fun r => r.1.family = f) = (results ms k).filter (fun r => r.1.family = f)) ∧
        (after ms' k).unlogged = (after ms k).unlogged ∧ (after ms' k).log.Perm (after ms k).log := by
  refine ⟨fun f => results_only f ms rfl, fun ms' hmoved => ⟨fun f => ?_, unlogged_eq fun f => ?_, ?_⟩⟩
  · rw [(results_only f ms' rfl).1, (results_only f ms rfl).1, hmoved.only_eq f]
  · rw [(results_only f ms' rfl).2, (results_only f ms rfl).2, hmoved.only_eq f]
  · rw [log_after, log_after]
    exact List.Perm.append_left _ (hmoved.perm.symm.flatMap_right _)

end Kernel

end Sallyport.Host
