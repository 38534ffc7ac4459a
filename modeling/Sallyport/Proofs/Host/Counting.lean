/-
Notification slots of the host kernel count: on a slot that is only incremented and taken from one by one,
every increment is taken once or is still there. Sent and received are read off the history, and their
difference is the value of the slot (`sent_eq`).
-/
import Sallyport.Proofs.Host.Routes

namespace Sallyport.Host.Notices

open World

/-! ## What a history shows -/

/-- The slot that a call acts on. -/
def slot? : Call → Option UInt32
  | .task (.notify _ index _ _ _) => some index
  | .task (.notifyWait _ _ _ _) => some defaultNotifyIndex
  | .task (.notifyTake _ _) => some defaultNotifyIndex
  | .task (.notifyStateClear _) => some defaultNotifyIndex
  | .task (.notifyTakeAt index _ _) => some index
  | _ => none

/-- Whether a call adds one to a slot. -/
def increments (index : UInt32) : Call → Bool
  | .task (.notify _ i _ action _) => i = index && action = .increment
  | _ => false

/-- Whether a call takes one from a slot, and leaves the rest. -/
def takesOne (index : UInt32) : Call → Bool
  | .task (.notifyTake clear _) => defaultNotifyIndex = index && clear = Code.fail
  | .task (.notifyTakeAt i clear _) => i = index && clear = Code.fail
  | _ => false

/-- Calls with which a slot counts: increments, takes of one, and whatever acts elsewhere. -/
def keepsCount (index : UInt32) (c : Call) : Bool := slot? c ≠ some index || increments index c || takesOne index c

/-- Whether a call came back with a number other than zero. -/
def gotSome : Except Fault Reply → Bool
  | .ok (.word n) => n ≠ 0
  | _ => false

/-- How many increments of a slot there were. -/
def sent (index : UInt32) (h : History) : Nat := h.countP fun e => increments index e.1

/-- How many takes from a slot returned something. -/
def received (index : UInt32) (h : History) : Nat := h.countP fun e => takesOne index e.1 && gotSome e.2

variable {index : UInt32} {c : Call}

theorem sent_concat (h : History) (e : Call × Except Fault Reply) :
    sent index (h ++ [e]) = sent index h + if increments index e.1 then 1 else 0 := by
  unfold sent
  rw [List.countP_append, List.countP_singleton]

theorem received_concat (h : History) (e : Call × Except Fault Reply) :
    received index (h ++ [e]) = received index h + if takesOne index e.1 && gotSome e.2 then 1 else 0 := by
  unfold received
  rw [List.countP_append, List.countP_singleton]

theorem quiet_of_elsewhere (h : slot? c ≠ some index) : increments index c = false ∧ takesOne index c = false := by
  cases c with
  | task c => cases c <;> simp_all [slot?, increments, takesOne]
  | _ => exact ⟨rfl, rfl⟩

theorem not_increments_of_takesOne (h : takesOne index c = true) : increments index c = false := by
  cases c with
  | task c => cases c <;> first | rfl | cases h
  | _ => rfl

/-! ## One call -/

theorem value_insert (n : Notices) (i j v : UInt32) :
    value (n.insert i v) j = if j = i then v else n.value j := by
  unfold value
  rw [Table.get?_insert]
  split <;> rfl

theorem value_notify_of_ne {i : UInt32} (h : index ≠ i) (v : UInt32) (action : NotifyAction) (n : Notices) :
    value (n.notify i v action).2 index = n.value index := by
  unfold notify
  cases action with
  | setIfClear => dsimp only; split <;> rw [value_insert, if_neg h]
  | _ => rw [value_insert, if_neg h]

theorem value_clearState_of_ne (h : index ≠ defaultNotifyIndex) (n : Notices) :
    value n.clearState.2 index = n.value index := by
  unfold value clearState
  rw [Table.get?_erase, if_neg h]

theorem notices_step (c : TaskCall) (t : Tasks) : (Tasks.step c t).2.notices =
    match c with
    | .notify _ i v action _ => (t.notices.notify i v action).2
    | .notifyWait clearOnEntry clearOnExit _ _ => (t.notices.wait clearOnEntry clearOnExit).2.2
    | .notifyTake clear _ => (t.notices.take defaultNotifyIndex clear).2
    | .notifyStateClear _ => t.notices.clearState.2
    | .notifyTakeAt i clear _ => (t.notices.take i clear).2
    | _ => t.notices := by
  cases c with
  | createRestrictedStatic definition created =>
    simp only [Tasks.step]
    split <;> rfl
  | setTag target hook =>
    simp only [Tasks.step, Tasks.setTag]
    split <;> rfl
  | _ => rfl

theorem value_serve_of_elsewhere (h : slot? c ≠ some index) (k : Kernel) :
    (Kernel.serve c k).2.tasks.notices.value index = k.tasks.notices.value index := by
  cases c with
  | task c =>
    show (Tasks.step c k.tasks).2.notices.value index = _
    rw [notices_step]
    cases c with
    | notify target i v action previous => exact value_notify_of_ne (fun e => h (congrArg some e.symm)) ..
    | notifyWait clearOnEntry clearOnExit v ticks =>
      exact (value_insert ..).trans (if_neg fun e => h (congrArg some e.symm))
    | notifyTake clear ticks | notifyTakeAt i clear ticks =>
      exact (value_insert ..).trans (if_neg fun e => h (congrArg some e.symm))
    | notifyStateClear target => exact value_clearState_of_ne (fun e => h (congrArg some e.symm)) _
    | _ => rfl
  | _ => rfl

theorem value_serve_of_increments (h : increments index c = true) (k : Kernel) :
    (Kernel.serve c k).2.tasks.notices.value index = k.tasks.notices.value index + 1 := by
  cases c with
  | task c =>
    cases c with
    | notify target i v action previous =>
      simp only [increments, Bool.and_eq_true, decide_eq_true_eq] at h
      obtain ⟨rfl, rfl⟩ := h
      exact (value_insert ..).trans (if_pos rfl)
    | _ => cases h
  | _ => cases h

theorem serve_of_takesOne (h : takesOne index c = true) (k : Kernel) :
    (Kernel.serve c k).1 = .ok (.word (k.tasks.notices.take index Code.fail).1) ∧
      (Kernel.serve c k).2.tasks.notices = (k.tasks.notices.take index Code.fail).2 := by
  cases c with
  | task c =>
    cases c with
    | notifyTake clear ticks | notifyTakeAt i clear ticks =>
      simp only [takesOne, Bool.and_eq_true, decide_eq_true_eq] at h
      obtain ⟨rfl, rfl⟩ := h
      exact ⟨rfl, rfl⟩
    | _ => cases h
  | _ => cases h

theorem take_one (n : Notices) (index : UInt32) : (n.take index Code.fail).1 = n.value index ∧
    value (n.take index Code.fail).2 index = if n.value index = 0 then 0 else n.value index - 1 :=
  ⟨rfl, (value_insert ..).trans (if_pos rfl)⟩

/-! ## Calls of a run -/

section Calls

variable {m : Routed}

theorem value_issue_of_elsewhere (h : slot? m.call ≠ some index) (w : World Kernel) :
    (issue m w).2.kernel.tasks.notices.value index = w.kernel.tasks.notices.value index := by
  rw [kernel_issue]
  exact value_serve_of_elsewhere h w.kernel

theorem value_issue_of_increments (h : increments index m.call = true) (w : World Kernel) :
    (issue m w).2.kernel.tasks.notices.value index = w.kernel.tasks.notices.value index + 1 := by
  rw [kernel_issue]
  exact value_serve_of_increments h w.kernel

theorem issue_of_takesOne (h : takesOne index m.call = true) (w : World Kernel) :
    (issue m w).1 = .ok (.word (w.kernel.tasks.notices.value index)) ∧
      (issue m w).2.kernel.tasks.notices.value index =
        if w.kernel.tasks.notices.value index = 0 then 0 else w.kernel.tasks.notices.value index - 1 := by
  obtain ⟨hresult, hnotices⟩ := serve_of_takesOne h w.kernel
  obtain ⟨hcount, hleft⟩ := take_one w.kernel.tasks.notices index
  constructor
  · rw [result_issue, hresult, hcount]
  · rw [kernel_issue]
    show (Kernel.serve m.call w.kernel).2.tasks.notices.value index = _
    rw [hnotices, hleft]

end Calls

/-! ## Runs -/

theorem toNat_add_one_of_lt {v : UInt32} (h : v.toNat + 1 < 0x100000000) : (v + 1).toNat = v.toNat + 1 := by
  rw [UInt32.toNat_add, UInt32.toNat_one]
  exact Nat.mod_eq_of_lt h

theorem toNat_sub_one_add_one {v : UInt32} (h : v ≠ 0) : (v - 1).toNat + 1 = v.toNat := by
  have hpos : v.toNat ≠ 0 := fun h0 => h (UInt32.toNat_inj.1 h0)
  rw [UInt32.toNat_sub_of_le _ _ (UInt32.le_iff_toNat_le.2 (by rw [UInt32.toNat_one]; omega)), UInt32.toNat_one]
  omega

/-- Whatever was sent was received or is there, as long as it can be counted. -/
def Balanced (index : UInt32) (past : History) (w : World Kernel) : Prop :=
  sent index past < 0x100000000 → received index past + (w.kernel.tasks.notices.value index).toNat = sent index past

theorem Balanced.issue {past : History} {w : World Kernel} {m : Routed} (h : Balanced index past w)
    (hm : keepsCount index m.call = true) : Balanced index (past ++ [(m.call, (issue m w).1)]) (issue m w).2 := by
  intro hlt
  rw [sent_concat] at hlt ⊢
  rw [received_concat]
  have hbalance := h (by omega)
  simp only [keepsCount, Bool.or_eq_true, decide_eq_true_eq] at hm
  rcases hm with (helsewhere | hincrements) | htakes
  · obtain ⟨hincrements, htakes⟩ := quiet_of_elsewhere helsewhere
    rw [value_issue_of_elsewhere helsewhere, hincrements, htakes]
    exact hbalance
  · -- The value is at most the number of increments before, so there is room for one more.
    have htakes : takesOne index m.call = false := by
      cases h : takesOne index m.call with
      | false => rfl
      | true => rw [not_increments_of_takesOne h] at hincrements; cases hincrements
    rw [if_pos hincrements] at hlt ⊢
    rw [value_issue_of_increments hincrements, toNat_add_one_of_lt (by omega), htakes]
    simp only [Bool.false_and, Bool.false_eq_true, if_false]
    omega
  · obtain ⟨hresult, hvalue⟩ := issue_of_takesOne htakes w
    rw [hresult, hvalue, htakes, not_increments_of_takesOne htakes]
    by_cases hzero : w.kernel.tasks.notices.value index = 0
    · simpa [gotSome, hzero] using hbalance
    · have hleft := toNat_sub_one_add_one hzero
      simp only [gotSome, hzero, ne_eq, not_false_eq_true, decide_true, Bool.and_self, if_true, if_false,
        Bool.false_eq_true]
      omega

/-- A slot after so many increments and so many takes that returned something. -/
structure Counted (index : UInt32) (sent received : Nat) (w : World Kernel) : Prop where
  value_eq : received + (w.kernel.tasks.notices.value index).toNat = sent
  take : ∀ m, takesOne index m.call = true → ∃ count : UInt32, count.toNat = sent - received ∧
    (issue m w).1 = .ok (.word count) ∧
      (issue m w).2.kernel.tasks.notices.value index = if count = 0 then 0 else count - 1
  elsewhere : ∀ m, slot? m.call ≠ some index →
    (issue m w).2.kernel.tasks.notices.value index = w.kernel.tasks.notices.value index

/-- Notifications count exactly. In every run that only increments a slot, fewer times than a word can count,
and takes from it one by one, a take returns the increments so far that were not taken; what is done on other
slots does not matter. -/
theorem notifications_count (settings : Settings) (gate : Gate Hart) (index : UInt32) (ms : List Routed)
    (h : ∀ m ∈ ms, keepsCount index m.call = true) :
    let start : World Kernel := ⟨gate, Kernel.boot settings⟩
    sent index (history ms start) < 0x100000000 →
      Counted index (sent index (history ms start)) (received index (history ms start)) (after ms start) := by
  intro start hlt
  have hstart : Balanced index [] start := fun _ => rfl
  have hrun : Balanced index (history ms start) (after ms start) := history_keeps _ Balanced.issue ms h hstart
  have hbalance := hrun hlt
  refine ⟨hbalance, fun m hm => ?_, fun m hm => value_issue_of_elsewhere hm _⟩
  obtain ⟨hresult, hvalue⟩ := issue_of_takesOne hm (after ms start)
  exact ⟨_, by omega, hresult, hvalue⟩

/-- Slot 1 counts while the default slot is written, waited for and cleared. -/
theorem notifications_count_beside_default :
    let target : Handle .task := ⟨0x90, by decide⟩
    let ms : List Routed := [⟨.gated, false, .task (.notify target 1 0 .increment none)⟩,
      ⟨.gated, true, .task (.notify target defaultNotifyIndex 9 .overwrite none)⟩,
      ⟨.direct, true, .task (.notifyTakeAt 1 Code.fail 0)⟩, ⟨.direct, false, .task (.notifyTakeAt 1 Code.fail 0)⟩,
      ⟨.gated, false, .task (.notifyWait 1 0 none 0)⟩, ⟨.gated, false, .task (.notify target 1 0 .increment none)⟩,
      ⟨.gated, false, .task (.notifyStateClear none)⟩, ⟨.gated, true, .task (.notifyTakeAt 1 Code.fail 0)⟩]
    let start : World Kernel := ⟨Gate.around Hart.boot, Kernel.boot Settings.default⟩
    (∀ m ∈ ms, keepsCount 1 m.call = true) ∧ sent 1 (history ms start) < 0x100000000 ∧ Counted 1 2 2 (after ms start) ∧
      (issue ⟨.gated, false, .task (.notifyTakeAt 1 Code.fail 0)⟩ (after ms start)).1 = .ok (.word 0) := by
  intro target ms start
  have hms : ∀ m ∈ ms, keepsCount 1 m.call = true := by decide
  have hsent : sent 1 (history ms start) = 2 := by decide
  have hreceived : received 1 (history ms start) = 2 := by decide
  have hlt : sent 1 (history ms start) < 0x100000000 := by
    rw [hsent]
    decide
  have h := notifications_count Settings.default (Gate.around Hart.boot) 1 ms hms hlt
  rw [hsent, hreceived] at h
  obtain ⟨count, hcount, hresult, -⟩ := h.take ⟨.gated, false, .task (.notifyTakeAt 1 Code.fail 0)⟩ rfl
  obtain rfl : count = 0 := UInt32.toNat_inj.1 hcount
  exact ⟨hms, hlt, h, hresult⟩

end Sallyport.Host.Notices
