/-
No event bit of the host kernel is lost: a bit is up iff some call set it and no call from then on used it
up, which the history shows. A call adds the bits it sets and then takes away those it uses up
(`bits_step`).
-/
import Sallyport.Proofs.Dma.Bitmap
import Sallyport.Proofs.Host.Routes

namespace Sallyport.Host.Events

open World
open EventGroup (step)
open Dma.Word (bits bits_injective bits_or bits_and bits_and_not bits_zero and_eq_right_iff lt_of_mem_bits)

/-! ## What a history shows -/

/-- Whether a wait has success on the bits it sees: all bits awaited are there, or any. -/
def Succeeds (awaited : UInt32) (waitForAll : Int32) (seen : UInt32) : Prop :=
  if waitForAll ≠ Code.fail then bits awaited ⊆ bits seen else (bits awaited ∩ bits seen).Nonempty

instance (awaited : UInt32) (waitForAll : Int32) (seen : UInt32) : Decidable (Succeeds awaited waitForAll seen) :=
  inferInstanceAs (Decidable (ite ..))

/-- The bits that a call sets. -/
def raised : Call → Finset Nat
  | .eventGroup (.setBits _ mask) => bits mask
  | .eventGroup (.sync _ mask _ _) => bits mask
  | _ => ∅

/-- The bits that a call has used up. -/
def usedUp : Call × Except Fault Reply → Finset Nat
  | (.eventGroup (.clearBits _ mask), _) => bits mask
  | (.eventGroup (.waitBits _ awaited clearOnExit waitForAll _), .ok (.word seen)) =>
    if clearOnExit ≠ Code.fail ∧ Succeeds awaited waitForAll seen then bits awaited else ∅
  | (.eventGroup (.sync _ _ awaited _), .ok (.word reached)) =>
    if bits awaited ⊆ bits reached then bits awaited else ∅
  | (.eventGroup (.delete _), _) => Finset.range 32
  | _ => ∅

/-- Whether some call has set a bit, and neither it nor a later one has used the bit up. -/
def IsUp (h : History) (bit : Nat) : Prop :=
  ∃ before e rest, h = before ++ e :: rest ∧ bit ∈ raised e.1 ∧ ∀ e' ∈ e :: rest, bit ∉ usedUp e'

theorem not_isUp_nil (bit : Nat) : ¬ IsUp [] bit := by
  rintro ⟨before, e, rest, h, -⟩
  simp at h

theorem isUp_concat {h : History} {e : Call × Except Fault Reply} {bit : Nat} :
    IsUp (h ++ [e]) bit ↔ (IsUp h bit ∨ bit ∈ raised e.1) ∧ bit ∉ usedUp e := by
  constructor
  · rintro ⟨before, set, rest, heq, hset, hspared⟩
    rcases List.eq_nil_or_concat rest with rfl | ⟨rest, last, rfl⟩
    · -- The call that set the bit is the last one.
      obtain ⟨rfl, hlast⟩ := List.append_inj' heq rfl
      obtain rfl := List.singleton_inj.1 hlast
      exact ⟨.inr hset, hspared e List.mem_cons_self⟩
    · rw [List.concat_eq_append, ← List.cons_append] at hspared
      rw [List.concat_eq_append, ← List.cons_append, ← List.append_assoc] at heq
      obtain ⟨rfl, hlast⟩ := List.append_inj' heq rfl
      obtain rfl := List.singleton_inj.1 hlast
      refine ⟨.inl ⟨before, set, rest, rfl, hset, fun e' he' => ?_⟩, hspared e ?_⟩
      · exact hspared e' (List.mem_append_left _ he')
      · exact List.mem_append_right _ List.mem_cons_self
  · rintro ⟨⟨before, set, rest, rfl, hset, hspared⟩ | hset, hlast⟩
    · refine ⟨before, set, rest ++ [e], by simp, hset, fun e' he' => ?_⟩
      rw [← List.cons_append, List.mem_append, List.mem_singleton] at he'
      rcases he' with he' | rfl
      · exact hspared e' he'
      · exact hlast
    · exact ⟨h, e, [], rfl, hset, fun e' he' => by rwa [List.mem_singleton.1 he']⟩

/-! ## The group -/

theorem satisfied_iff {seen awaited : UInt32} {waitForAll : Int32} :
    EventGroup.satisfied seen awaited (waitForAll ≠ Code.fail) = true ↔ Succeeds awaited waitForAll seen := by
  unfold EventGroup.satisfied Succeeds
  by_cases hall : waitForAll = Code.fail
  · have hany : seen &&& awaited ≠ 0 ↔ (bits awaited ∩ bits seen).Nonempty := by
      rw [Finset.nonempty_iff_ne_empty, Finset.inter_comm, ← bits_and, ← bits_zero, bits_injective.ne_iff]
    simpa [hall] using hany
  · simpa [hall] using and_eq_right_iff

example : Succeeds 0 Code.pass 5 ∧ ¬ Succeeds 0 Code.fail 5 := by decide

theorem wait_eq (awaited : UInt32) (clearOnExit waitForAll : Int32) (g : EventGroup) :
    g.wait awaited (clearOnExit ≠ Code.fail) (waitForAll ≠ Code.fail) =
      (g.bits, if clearOnExit ≠ Code.fail ∧ Succeeds awaited waitForAll g.bits then g.clear awaited else g) := by
  unfold EventGroup.wait
  simp only [Bool.and_eq_true, satisfied_iff, decide_eq_true_eq, and_comm]

theorem sync_eq (mask awaited : UInt32) (g : EventGroup) : g.sync mask awaited =
    ((g.set mask).bits, if bits awaited ⊆ bits (g.set mask).bits then (g.set mask).clear awaited else g.set mask) := by
  unfold EventGroup.sync
  simp only [and_eq_right_iff]

/-- A rendezvous is a set and then a wait for all bits. -/
theorem sync_eq_wait (mask awaited : UInt32) (g : EventGroup) :
    g.sync mask awaited = (g.set mask).wait awaited true true := by
  unfold EventGroup.sync EventGroup.wait EventGroup.satisfied
  simp

theorem bits_set (mask : UInt32) (g : EventGroup) : bits (g.set mask).bits = bits g.bits ∪ bits mask := bits_or ..

theorem bits_clear (mask : UInt32) (g : EventGroup) : bits (g.clear mask).bits = bits g.bits \ bits mask :=
  bits_and_not ..

/-- A call adds the bits that it sets, and then takes away those that it uses up. -/
theorem bits_step (c : EventGroupCall) (g : EventGroup) : bits (step c g).2.bits =
    (bits g.bits ∪ raised (.eventGroup c)) \ usedUp (.eventGroup c, .ok (step c g).1) := by
  cases c with
  | setBits group mask => simp [step, raised, usedUp, bits_set]
  | clearBits group mask => simp [step, raised, usedUp, bits_clear]
  | waitBits group awaited clearOnExit waitForAll ticks =>
    simp only [step, wait_eq, raised, usedUp, Finset.union_empty]
    split
    · exact bits_clear ..
    · exact Finset.sdiff_empty.symm
  | sync group mask awaited ticks =>
    simp only [step, sync_eq, raised, usedUp, ← bits_set]
    split
    · exact bits_clear ..
    · exact Finset.sdiff_empty.symm
  | delete group =>
    simp only [step, raised, usedUp, Finset.union_empty, bits_zero]
    refine (Finset.sdiff_eq_empty_iff_subset.2 fun bit hbit => ?_).symm
    exact Finset.mem_range.2 (lt_of_mem_bits hbit)
  | create | createStatic block => simp [step, raised, usedUp]

/-! ## Calls of a run -/

/-- The bits that are set in the group. -/
def up (w : World Kernel) : Finset Nat := bits w.kernel.events.bits

theorem up_issue (m : Routed) (w : World Kernel) :
    up (issue m w).2 = (up w ∪ raised m.call) \ usedUp (m.call, (issue m w).1) := by
  unfold up
  rw [kernel_issue, result_issue]
  cases hc : m.call with
  | eventGroup c => exact bits_step c w.kernel.events
  | _ => simp [Kernel.serve, raised, usedUp]

theorem mem_up_after (settings : Settings) (gate : Gate Hart) (ms : List Routed) (bit : Nat) :
    bit ∈ up (after ms ⟨gate, Kernel.boot settings⟩) ↔ IsUp (history ms ⟨gate, Kernel.boot settings⟩) bit := by
  have hstart : bit ∈ up ⟨gate, Kernel.boot settings⟩ ↔ IsUp [] bit :=
    iff_of_false (by simp [up, Kernel.boot, EventGroup.boot]) (not_isUp_nil bit)
  refine history_keeps_all (fun past w => bit ∈ up w ↔ IsUp past bit) ?_ ms hstart
  intro past w m h
  rw [isUp_concat, up_issue, Finset.mem_sdiff, Finset.mem_union]
  exact and_congr_left' (or_congr_left h)

/-! ## What calls come to -/

section Calls

variable {m : Routed} {c : EventGroupCall}

theorem result_issue_of (h : m.call = .eventGroup c) (w : World Kernel) :
    (issue m w).1 = .ok (step c w.kernel.events).1 := by
  rw [result_issue, h]
  rfl

theorem unlogged_issue_of (h : m.call = .eventGroup c) (w : World Kernel) :
    (issue m w).2.kernel.unlogged = { w.kernel.unlogged with events := (step c w.kernel.events).2 } := by
  rw [unlogged_issue_eq, h]
  rfl

theorem events_issue_of (h : m.call = .eventGroup c) (w : World Kernel) :
    (issue m w).2.kernel.events = (step c w.kernel.events).2 := congrArg Kernel.events (unlogged_issue_of h w)

theorem up_issue_of (h : m.call = .eventGroup c) (w : World Kernel) :
    up (issue m w).2 = bits (step c w.kernel.events).2.bits := by
  rw [up, events_issue_of h]

end Calls

/-- What calls on the event group report, and which bits they leave. -/
structure Exact (w : World Kernel) : Prop where
  set : ∀ m group mask, m.call = .eventGroup (.setBits group mask) →
    up (issue m w).2 = up w ∪ bits mask ∧ (issue m w).1 = .ok (.word (issue m w).2.kernel.events.bits)
  clear : ∀ m group mask, m.call = .eventGroup (.clearBits group mask) →
    up (issue m w).2 = up w \ bits mask ∧ (issue m w).1 = .ok (.word w.kernel.events.bits)
  wait : ∀ m group awaited clearOnExit waitForAll ticks,
    m.call = .eventGroup (.waitBits group awaited clearOnExit waitForAll ticks) →
      (issue m w).1 = .ok (.word w.kernel.events.bits) ∧
        if clearOnExit ≠ Code.fail ∧ Succeeds awaited waitForAll w.kernel.events.bits
        then up (issue m w).2 = up w \ bits awaited
        else (issue m w).2.kernel.unlogged = w.kernel.unlogged
  sync : ∀ m group mask awaited ticks, m.call = .eventGroup (.sync group mask awaited ticks) →
    ∃ reached, (issue m w).1 = .ok (.word reached) ∧ bits reached = up w ∪ bits mask ∧
      up (issue m w).2 = if bits awaited ⊆ bits reached then bits reached \ bits awaited else bits reached
  sync_as_wait : ∀ m set wait group mask awaited clearOnExit waitForAll ticks,
    clearOnExit ≠ Code.fail → waitForAll ≠ Code.fail →
    m.call = .eventGroup (.sync group mask awaited ticks) → set.call = .eventGroup (.setBits group mask) →
    wait.call = .eventGroup (.waitBits group awaited clearOnExit waitForAll ticks) →
      (issue m w).1 = (issue wait (issue set w).2).1 ∧
        (issue m w).2.kernel.unlogged = (issue wait (issue set w).2).2.kernel.unlogged

theorem calls_exact (w : World Kernel) : Exact w where
  set m group mask h := by
    rw [up_issue_of h, result_issue_of h, events_issue_of h]
    exact ⟨bits_set .., rfl⟩
  clear m group mask h := ⟨(up_issue_of h w).trans (bits_clear ..), result_issue_of h w⟩
  wait m group awaited clearOnExit waitForAll ticks h := by
    refine ⟨result_issue_of h w, ?_⟩
    rw [up_issue_of h, unlogged_issue_of h]
    simp only [step, wait_eq]
    split
    · exact bits_clear ..
    · rfl
  sync m group mask awaited ticks h := by
    refine ⟨_, result_issue_of h w, bits_set .., ?_⟩
    rw [up_issue_of h]
    simp only [step, sync_eq]
    split
    · exact bits_clear ..
    · rfl
  sync_as_wait m set wait group mask awaited clearOnExit waitForAll ticks hclear hall h hset hwait := by
    rw [result_issue_of h, result_issue_of hwait, unlogged_issue_of h, unlogged_issue_of hwait,
      unlogged_issue_of hset, events_issue_of hset]
    simp [step, sync_eq_wait, hclear, hall]

/-- No event bit is lost: after every run a bit is set iff some call set it and neither that call nor a later
one used it up; and whatever the kernel holds, calls report and leave the bits exactly. -/
theorem no_event_lost (settings : Settings) (gate : Gate Hart) (ms : List Routed) :
    let start : World Kernel := ⟨gate, Kernel.boot settings⟩
    (∀ bit, bit ∈ up (after ms start) ↔ IsUp (history ms start) bit) ∧ ∀ w, Exact w :=
  ⟨mem_up_after settings gate ms, calls_exact⟩

/-- A rendezvous uses up the bits of both sides, and a wait without success uses up none. -/
theorem no_event_lost_at_rendezvous :
    let group : Handle .eventGroup := ⟨0x3000, by decide⟩
    let ms : List Routed := [⟨.gated, false, .eventGroup (.setBits group 1)⟩,
      ⟨.gated, true, .eventGroup (.sync group 2 3 10)⟩, ⟨.direct, false, .eventGroup (.setBits group 4)⟩,
      ⟨.gated, false, .eventGroup (.waitBits group 3 Code.pass Code.fail 0)⟩]
    let start : World Kernel := ⟨Gate.around Hart.boot, Kernel.boot Settings.default⟩
    ¬ IsUp (history ms start) 0 ∧ ¬ IsUp (history ms start) 1 ∧ IsUp (history ms start) 2 := by
  intro group ms start
  obtain ⟨hup, -⟩ := no_event_lost Settings.default (Gate.around Hart.boot) ms
  refine ⟨fun h => ?_, fun h => ?_, (hup 2).1 (by decide)⟩
  · exact absurd ((hup 0).2 h) (by decide)
  · exact absurd ((hup 1).2 h) (by decide)

end Sallyport.Host.Events
