/-
The compiled kernel is not told of more memory than the caller lends: every stretch that a function is
passed, by its start and a length, lies in memory lent with the call. What a plan tells is looked at
service by service (`each_*`); from a plan to a call on a route it is an induction.
-/
import Sallyport.Proofs.Foreign.Agreement

namespace Sallyport.Foreign

open Transparency (servedAt passed isPrivileged_passed)

/-! ## Stretches of memory -/

/-- The stretches of memory that a function takes, with their lengths in items. -/
def Invocation.stretches (i : Invocation) : List Storage :=
  match i.function, i.arguments with
  | .taskCreateStatic, [_, _, .word depth, _, _, .pointer stack, _] => [⟨stack, depth.toNat⟩]
  | .taskGetSystemState, [.pointer statuses, .word count, _] => [⟨statuses, count.toNat⟩]
  | .queueGenericCreateStatic, [.word length, .word itemSize, .pointer storage, _, _] =>
    [⟨storage, length.toNat * itemSize.toNat⟩]
  | .streamBufferSend, [_, .pointer data, .size length, _] => [⟨data, length.toNat⟩]
  | .streamBufferReceive, [_, .pointer buffer, .size length, _] => [⟨buffer, length.toNat⟩]
  | .streamBufferGenericCreateStatic, [.size size, _, _, .pointer storage, _] => [⟨storage, size.toNat + 1⟩]
  | _, _ => []

def Run.storage {α : Type} (r : Run α) : Storage := ⟨r.address, r.items.length⟩

/-- The memory that a caller lends to the functions that take stretches. -/
def lent : Call → List Storage
  | .task (.createStatic _ _ _ _ stack _) => [stack]
  | .task (.systemState statuses _) => [Run.storage statuses]
  | .queue (.createStatic _ _ storage _ _) => storage.toList
  | .stream (.send _ data _) => [Run.storage data]
  | .stream (.receive _ buffer _) => [Run.storage buffer]
  | .stream (.createStatic _ _ _ storage _) => [storage]
  | _ => []

/-- A stretch starts where some memory starts and is no longer, or it is nothing at the null address. -/
def Lies (memory : List Storage) (s : Storage) : Prop :=
  (∃ m ∈ memory, s.address = m.address ∧ s.length ≤ m.length) ∨ s = ⟨0, 0⟩

/-- All stretches that a function takes lie in what a caller lends. -/
def Keeps (c : Call) (i : Invocation) : Prop := ∀ s ∈ i.stretches, Lies (lent c) s

theorem keeps_of_nil {c : Call} {i : Invocation} (h : i.stretches = []) : Keeps c i := by
  intro s hs
  rw [h] at hs
  cases hs

theorem keeps_of_le {c : Call} {i : Invocation} {s m : Storage} (hi : i.stretches = [s]) (hm : m ∈ lent c)
    (haddress : s.address = m.address) (hlength : s.length ≤ m.length) : Keeps c i := by
  intro s' hs'
  rw [hi] at hs'
  obtain rfl := List.mem_singleton.1 hs'
  exact .inl ⟨m, hm, haddress, hlength⟩

theorem toNat_word_le (n : Nat) : (UInt32.ofNat n).toNat ≤ n := by
  rw [UInt32.toNat_ofNat']
  exact Nat.mod_le _ _

theorem toNat_size_le (n : Nat) : (UInt64.ofNat n).toNat ≤ n := by
  rw [UInt64.toNat_ofNat']
  exact Nat.mod_le _ _

/-! ## Plans -/

/-- Whatever the answers are, a plan makes only such invocations. -/
def Plan.Each (P : Invocation → Prop) : Plan → Prop
  | .done _ => True
  | .invoke i next => P i ∧ ∀ a, (next a).Each P

theorem Plan.each_single {P : Invocation → Prop} {f : Function} {arguments : List Value}
    {reply : Answer → Reply} (h : P ⟨f, arguments⟩) : (Plan.single f arguments reply).Each P :=
  ⟨h, fun _ => trivial⟩

theorem each_task (c : TaskCall) : (taskPlan c).Each (Keeps (.task c)) := by
  cases c with
  | createStatic entry name parameters priority stack block =>
    exact Plan.each_single (keeps_of_le rfl (.head _) rfl (toNat_word_le _))
  | systemState statuses totalRunTime =>
    exact Plan.each_single (keeps_of_le rfl (.head _) rfl (toNat_word_le _))
  | _ => exact Plan.each_single (keeps_of_nil rfl)

theorem each_queue (c : QueueCall) : (queuePlan c).Each (Keeps (.queue c)) := by
  cases c with
  | createStatic length itemSize storage block kind =>
    rw [queuePlan, queueStorage_eq]
    by_cases hfits : length.toNat * itemSize.toNat ≤ storage.elim 0 (·.length)
    · rw [if_pos hfits]
      refine Plan.each_single ?_
      cases storage with
      | some s => exact keeps_of_le rfl (.head _) rfl hfits
      | none =>
        intro s hs
        obtain rfl := List.mem_singleton.1 hs
        exact .inr (congrArg (Storage.mk 0) (Nat.le_zero.1 hfits))
    · rw [if_neg hfits]
      trivial
  | _ => exact Plan.each_single (keeps_of_nil rfl)

theorem each_timer (c : TimerCall) : (timerPlan c).Each (Keeps (.timer c)) := by
  cases c with
  | start target ticks | reset target ticks =>
    exact ⟨keeps_of_nil rfl, fun _ => Plan.each_single (keeps_of_nil rfl)⟩
  | _ => exact Plan.each_single (keeps_of_nil rfl)

theorem each_eventGroup (c : EventGroupCall) : (eventGroupPlan c).Each (Keeps (.eventGroup c)) := by
  cases c <;> exact Plan.each_single (keeps_of_nil rfl)

theorem each_stream (c : StreamCall) : (streamPlan c).Each (Keeps (.stream c)) := by
  cases c with
  | send target data ticks => exact Plan.each_single (keeps_of_le rfl (.head _) rfl (toNat_size_le _))
  | receive target buffer ticks => exact Plan.each_single (keeps_of_le rfl (.head _) rfl (toNat_size_le _))
  | createStatic size triggerLevel isMessageBuffer storage block =>
    rw [streamPlan]
    split
    · trivial
    · next hfits => exact Plan.each_single (keeps_of_le rfl (.head _) rfl (Nat.not_lt.1 hfits))
  | _ => exact Plan.each_single (keeps_of_nil rfl)

theorem each_heap (c : HeapCall) : (heapPlan c).Each (Keeps (.heap c)) := by
  cases c <;> exact Plan.each_single (keeps_of_nil rfl)

theorem each_plan (c : Call) : (plan c).Each (Keeps c) := by
  cases c with
  | task c => exact each_task c
  | queue c => exact each_queue c
  | timer c => exact each_timer c
  | eventGroup c => exact each_eventGroup c
  | stream c => exact each_stream c
  | heap c => exact each_heap c

variable {κ : Type} [KernelFunctions κ]

theorem Plan.Each.run {P : Invocation → Prop} (privileged : Bool) {p : Plan} (h : p.Each P) :
    ∀ k : Watched κ, ∃ made, (p.run privileged k).2.calls = k.calls ++ made ∧ ∀ n ∈ made, P n.invocation := by
  induction p with
  | done reply => exact fun k => ⟨[], (List.append_nil _).symm, by simp⟩
  | invoke i next ih =>
    intro k
    obtain ⟨hi, hnext⟩ := h
    obtain ⟨made, hmade, hall⟩ := ih _ (hnext _) (KernelFunctions.invoke privileged i k).2
    refine ⟨⟨i, privileged⟩ :: made, ?_, List.forall_mem_cons.2 ⟨hi, hall⟩⟩
    exact hmade.trans (List.append_assoc ..)

/-! ## Calls on a route -/

/-- The call that is made for a call on a route. -/
def sent : Route → Call → Call
  | .direct, c => c
  | .gated, c => c.underlying

theorem lent_sent (route : Route) (c : Call) : lent (sent route c) = lent c := by
  cases route with
  | direct => rfl
  | gated =>
    cases c with
    | queue c => cases c <;> rfl
    | timer c => cases c <;> rfl
    | _ => rfl

/-- The reply to a call on a route, out of the reply to what was made for it. -/
def heard : Route → Call → Reply → Reply
  | .direct, _, reply => reply
  | .gated, c, reply => c.answer reply

theorem heard_eq {c : Call} (h : ∀ reply, c.answer reply = reply) (route : Route) (reply : Reply) :
    heard route c reply = reply := by
  cases route with
  | direct => rfl
  | gated => exact h reply

theorem call_eq_plan (route : Route) (c : Call) (w : World κ) :
    World.call route c w =
      (.ok (heard route c ((plan (sent route c)).run (servedAt route w.gate) w.kernel).1),
        ⟨passed route w.gate, ((plan (sent route c)).run (servedAt route w.gate) w.kernel).2⟩) := by
  cases route with
  | direct => rfl
  | gated => exact gated_eq_plan c w

omit [KernelFunctions κ] in
theorem isPrivileged_of_gate {route : Route} {w w' : World κ} (h : w'.gate = passed route w.gate) :
    w'.isPrivileged = w.isPrivileged := by
  show w'.gate.isPrivileged = w.gate.isPrivileged
  rw [h, isPrivileged_passed]

/-- A call on a route comes back with a reply and at its level, and functions were told of lent memory only.
-/
structure Frugal (route : Route) (c : Call) (w : World (Watched κ)) : Prop where
  reply : ∃ reply, (World.call route c w).1 = .ok reply
  level : (World.call route c w).2.isPrivileged = w.isPrivileged
  memory : ∃ made, (World.call route c w).2.kernel.calls = w.kernel.calls ++ made ∧
    ∀ n ∈ made, ∀ s ∈ n.invocation.stretches, Lies (lent c) s

/-- A call on a route makes an invocation and no other, and hands on the handle that comes back. -/
structure PassedOn (route : Route) (c : Call) (i : Invocation) (w : World (Watched κ)) : Prop where
  calls : (World.call route c w).2.kernel.calls = w.kernel.calls ++ [⟨i, servedAt route w.gate⟩]
  reply : (World.call route c w).1 =
    .ok (.address (KernelFunctions.invoke (servedAt route w.gate) i w.kernel.kernel).1.value)
  level : (World.call route c w).2.isPrivileged = w.isPrivileged

/-- A call on a route comes back without a handle, and no function was called. -/
structure TurnedAway (route : Route) (c : Call) (w : World (Watched κ)) : Prop where
  reply : (World.call route c w).1 = .ok (.address 0)
  kernel : (World.call route c w).2.kernel = w.kernel
  level : (World.call route c w).2.isPrivileged = w.isPrivileged

theorem frugal (route : Route) (c : Call) (w : World (Watched κ)) : Frugal route c w := by
  have hcall := call_eq_plan route c w
  obtain ⟨made, hmade, hall⟩ := (each_plan (sent route c)).run (servedAt route w.gate) w.kernel
  constructor
  case reply => exact ⟨_, congrArg Prod.fst hcall⟩
  case level => exact isPrivileged_of_gate (by rw [hcall])
  case memory =>
    refine ⟨made, by rw [hcall]; exact hmade, fun n hn s hs => ?_⟩
    rw [← lent_sent route c]
    exact hall n hn s hs

variable {route : Route} {c : Call} {w : World (Watched κ)}

theorem passedOn_of_plan {i : Invocation} (hanswer : ∀ reply, c.answer reply = reply)
    (hplan : plan (sent route c) = .invoke i fun a => .done (address a)) : PassedOn route c i w := by
  have hcall := call_eq_plan route c w
  rw [hplan] at hcall
  constructor
  case calls => rw [hcall]; rfl
  case reply => rw [hcall]; exact congrArg Except.ok (heard_eq hanswer _ _)
  case level => exact isPrivileged_of_gate (by rw [hcall])

theorem turnedAway_of_plan (hanswer : ∀ reply, c.answer reply = reply)
    (hplan : plan (sent route c) = .done (.address 0)) : TurnedAway route c w := by
  have hcall := call_eq_plan route c w
  rw [hplan] at hcall
  constructor
  case reply => rw [hcall]; exact congrArg Except.ok (heard_eq hanswer _ _)
  case kernel => rw [hcall]; rfl
  case level => exact isPrivileged_of_gate (by rw [hcall])

/-! ## Queues and stream buffers in memory of the caller -/

/-- Storage has the space of all items of a queue; without storage there is nothing to store. -/
def QueueFits (length itemSize : UInt32) : Option Storage → Prop
  | some s => length.toNat * itemSize.toNat ≤ s.length
  | none => length.toNat * itemSize.toNat = 0

theorem queueFits_iff (length itemSize : UInt32) (storage : Option Storage) :
    QueueFits length itemSize storage ↔ length.toNat * itemSize.toNat ≤ storage.elim 0 (·.length) := by
  cases storage with
  | some s => exact Iff.rfl
  | none => exact Nat.le_zero.symm

/-- A call on a route is passed on to the kernel under a condition, and turned away without it. -/
structure Hinges (route : Route) (c : Call) (fits : Prop) (i : Invocation) (w : World (Watched κ)) :
    Prop where
  passedOn : fits → PassedOn route c i w
  turnedAway : ¬ fits → TurnedAway route c w

theorem hinges_queue (route : Route) (w : World (Watched κ)) (length itemSize : UInt32)
    (storage : Option Storage) (block : Address) (kind : QueueKind) :
    Hinges route (.queue (.createStatic length itemSize storage block kind))
      (QueueFits length itemSize storage)
      ⟨.queueGenericCreateStatic, [.word length, .word itemSize, .pointer (storage.elim 0 (·.address)),
        .pointer block, .byte kind.number]⟩ w := by
  have hplan : plan (sent route (.queue (.createStatic length itemSize storage block kind))) =
      queuePlan (.createStatic length itemSize storage block kind) := by cases route <;> rfl
  rw [queuePlan, queueStorage_eq] at hplan
  constructor
  case passedOn =>
    intro hfits
    rw [if_pos ((queueFits_iff _ _ _).1 hfits)] at hplan
    exact passedOn_of_plan (fun _ => rfl) hplan
  case turnedAway =>
    intro hfits
    rw [if_neg (mt (queueFits_iff _ _ _).2 hfits)] at hplan
    exact turnedAway_of_plan (fun _ => rfl) hplan

theorem hinges_stream (route : Route) (w : World (Watched κ)) (size triggerLevel : UInt64)
    (isMessageBuffer : Int32) (storage : Storage) (block : Address) :
    Hinges route (.stream (.createStatic size triggerLevel isMessageBuffer storage block))
      (size.toNat + 1 ≤ storage.length)
      ⟨.streamBufferGenericCreateStatic, [.size size, .size triggerLevel, .signed isMessageBuffer,
        .pointer storage.address, .pointer block]⟩ w := by
  have hplan : plan (sent route (.stream (.createStatic size triggerLevel isMessageBuffer storage block))) =
      streamPlan (.createStatic size triggerLevel isMessageBuffer storage block) := by cases route <;> rfl
  rw [streamPlan] at hplan
  constructor
  case passedOn =>
    intro hfits
    rw [if_neg (Nat.not_lt.2 hfits)] at hplan
    exact passedOn_of_plan (fun _ => rfl) hplan
  case turnedAway =>
    intro hfits
    rw [if_pos (Nat.not_le.1 hfits)] at hplan
    exact turnedAway_of_plan (fun _ => rfl) hplan

/-- The kernel is never told of more memory than the caller lends. A queue in memory of the caller goes to the
kernel iff its items fit into the storage, a stream buffer iff that has one byte more than it holds; and every
service tells of lent memory only. -/
theorem told_of_lent_memory_only (route : Route) (w : World (Watched κ)) :
    (∀ length itemSize storage block kind,
      Hinges route (.queue (.createStatic length itemSize storage block kind))
        (QueueFits length itemSize storage)
        ⟨.queueGenericCreateStatic, [.word length, .word itemSize,
          .pointer (storage.elim 0 (·.address)), .pointer block, .byte kind.number]⟩ w) ∧
    (∀ size triggerLevel isMessageBuffer storage block,
      Hinges route (.stream (.createStatic size triggerLevel isMessageBuffer storage block))
        (size.toNat + 1 ≤ storage.length)
        ⟨.streamBufferGenericCreateStatic, [.size size, .size triggerLevel, .signed isMessageBuffer,
          .pointer storage.address, .pointer block]⟩ w) ∧
    (∀ triggerLevel isMessageBuffer (storage : Storage) block, storage.length < UInt64.size →
      TurnedAway route
        (.stream (.createStatic 0xffffffffffffffff triggerLevel isMessageBuffer storage block)) w) ∧
    ∀ c, Frugal route c w := by
  refine ⟨hinges_queue route w, hinges_stream route w, ?_, fun c => frugal route c w⟩
  intro triggerLevel isMessageBuffer storage block hlength
  exact (hinges_stream route w _ triggerLevel isMessageBuffer storage block).turnedAway (Nat.not_le.2 hlength)

end Sallyport.Foreign
