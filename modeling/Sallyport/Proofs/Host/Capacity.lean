/-
The host kernel keeps within its capacities, so whatever takes a length away from a capacity finds it
there. Each family has a lemma that says all its calls can do to what it holds; the bounds follow call by
call, and for runs by induction.
-/
import Sallyport.Proofs.Host.Run

namespace Sallyport.Host

/-! ## Tasks -/

namespace Tasks

theorem checkTimeOut_ok (timeOut : TimeOut) (wait : UInt32) : ∃ result, checkTimeOut timeOut wait = .ok result := by
  unfold checkTimeOut
  by_cases hmax : wait = maxDelay
  · exact ⟨_, if_pos hmax⟩
  · rw [if_neg hmax]
    by_cases hover : wait ≤ tickCount - timeOut.timeOnEntering
    · exact ⟨_, if_pos hover⟩
    · have hleft : (tickCount - timeOut.timeOnEntering).toNat ≤ wait.toNat :=
        Nat.le_of_lt (UInt32.lt_iff_toNat_lt.1 (UInt32.not_le.1 hover))
      rw [if_neg hover, minus_of_le hleft]
      exact ⟨_, rfl⟩

theorem step_ok (c : TaskCall) (t : Tasks) : ∃ reply, (step c t).1 = .ok reply := by
  cases c with
  | createRestrictedStatic definition created =>
    by_cases hnull : definition.value.taskBuffer = 0
    · exact ⟨.created Code.couldNotAllocate (keepSlot created), by simp only [step, if_pos hnull]⟩
    · exact ⟨(createRestricted definition.value created t).1, by simp only [step, if_neg hnull]⟩
  | checkTimeOut timeOut wait =>
    obtain ⟨result, hresult⟩ := checkTimeOut_ok timeOut.value wait.value
    simp only [step, hresult]
    exact ⟨_, rfl⟩
  | _ => exact ⟨_, rfl⟩

end Tasks

/-! ## The queue -/

namespace Queue

theorem step_items (c : QueueCall) (q : Queue) :
    (step c q).2.items = q.items ∨ (step c q).2.items = q.items.tail ∨ (step c q).2.items = [] ∨
      ∃ item position, (step c q).2.items = (q.send item position).2.items := by
  cases c with
  | receive _ _ _ | semaphoreTake _ _ => exact .inr (.inl rfl)
  | reset _ _ | delete _ => exact .inr (.inr (.inl rfl))
  | genericSend _ item _ position => exact .inr (.inr (.inr ⟨item.items, position, rfl⟩))
  | send _ item _ => exact .inr (.inr (.inr ⟨item.items, .back, rfl⟩))
  | give _ _ => exact .inr (.inr (.inr ⟨[], .back, rfl⟩))
  | _ => exact .inl rfl

variable {q : Queue}

theorem length_send_le (h : q.items.length ≤ capacity) (item : List UInt8) (position : CopyPosition) :
    (q.send item position).2.items.length ≤ capacity := by
  unfold send
  split
  · simp [capacity]
  · split
    · exact h
    · -- Not overwriting and not full: there is room for one more.
      have hroom : q.items.length + 1 ≤ capacity := by omega
      split <;> simpa using hroom

theorem length_step_le (h : q.items.length ≤ capacity) (c : QueueCall) :
    (step c q).2.items.length ≤ capacity := by
  rcases step_items c q with hc | hc | hc | ⟨item, position, hc⟩
  · rw [hc]; exact h
  · rw [hc, List.length_tail]; omega
  · rw [hc]; exact Nat.zero_le _
  · rw [hc]; exact length_send_le h item position

theorem spaces_eq (h : q.items.length ≤ capacity) : q.spaces = .ok (capacity - q.items.length) :=
  minus_of_le h

theorem step_ok (h : q.items.length ≤ capacity) (c : QueueCall) : ∃ reply, (step c q).1 = .ok reply := by
  cases c with
  | spacesAvailable target =>
    refine ⟨.word (UInt32.ofNat (capacity - q.items.length)), ?_⟩
    show q.spaces.map (fun n => Reply.word (UInt32.ofNat n)) = _
    rw [spaces_eq h]
    rfl
  | _ => exact ⟨_, rfl⟩

end Queue

/-! ## The stream -/

namespace Stream

theorem step_bytes (c : StreamCall) (s : Stream) :
    (step c s).2.bytes = s.bytes ∨ (step c s).2.bytes = [] ∨ (∃ n, (step c s).2.bytes = s.bytes.drop n) ∨
      ∃ data, (step c s).2.bytes = (send data s).2.bytes := by
  cases c with
  | delete _ | reset _ => exact .inr (.inl rfl)
  | receive _ buffer _ => exact .inr (.inr (.inl ⟨_, rfl⟩))
  | send _ data _ => exact .inr (.inr (.inr ⟨data.items, rfl⟩))
  | _ => exact .inl rfl

variable {s : Stream}

theorem spaces_eq (h : s.bytes.length ≤ capacity) : s.spaces = .ok (capacity - s.bytes.length) :=
  minus_of_le h

theorem send_eq (h : s.bytes.length ≤ capacity) (data : List UInt8) :
    send data s = (.ok (min data.length (capacity - s.bytes.length)),
      ⟨s.bytes ++ data.take (min data.length (capacity - s.bytes.length))⟩) := by
  unfold send
  rw [spaces_eq h]

theorem length_step_le (h : s.bytes.length ≤ capacity) (c : StreamCall) :
    (step c s).2.bytes.length ≤ capacity := by
  rcases step_bytes c s with hc | hc | ⟨n, hc⟩ | ⟨data, hc⟩
  · rw [hc]; exact h
  · rw [hc]; exact Nat.zero_le _
  · rw [hc, List.length_drop]; omega
  · rw [hc, send_eq h, List.length_append, List.length_take]; omega

/-- Only a stream buffer of the largest size makes a call fault. -/
theorem step_eq_error_iff (h : s.bytes.length ≤ capacity) (c : StreamCall) (f : Fault) :
    (step c s).1 = .error f ↔ f = .addOverflow ∧
      ∃ level flag storage block, c = .createStatic 0xffffffffffffffff level flag storage block := by
  cases c with
  | send target data ticks =>
    show (send data.items s).1.map sizeOf = .error f ↔ _
    rw [send_eq h]
    simp [Except.map]
  | spacesAvailable target =>
    show s.spaces.map sizeOf = .error f ↔ _
    rw [spaces_eq h]
    simp [Except.map]
  | createStatic size level flag storage block =>
    show createStatic size storage block = .error f ↔ _
    unfold createStatic
    by_cases hsize : size = 0xffffffffffffffff
    · simp [hsize, eq_comm]
    · simp [hsize]
  | _ => simp [step]

end Stream

/-! ## The heap -/

namespace Heap

theorem used_append (b : Block) (h : Heap) : used { h with blocks := h.blocks ++ [b] } = h.used + b.size := by
  unfold used
  induction h.blocks with
  | nil => simp
  | cons a blocks ih => simp [ih, Nat.add_assoc]

theorem used_filter_le (p : Block → Bool) (h : Heap) : used { h with blocks := h.blocks.filter p } ≤ h.used := by
  unfold used
  induction h.blocks with
  | nil => exact Nat.le_refl _
  | cons a blocks ih =>
    simp only [List.filter_cons, List.foldr_cons]
    split
    · simpa using ih
    · exact Nat.le_trans ih (Nat.le_add_left _ _)

theorem step_snd (c : HeapCall) (h : Heap) :
    (step c h).2 = h ∨ (∃ size, (step c h).2 = (malloc size h).2) ∨ ∃ address, (step c h).2 = h.free address := by
  cases c with
  | malloc size => exact .inr (.inl ⟨size, rfl⟩)
  | free block => exact .inr (.inr ⟨block, rfl⟩)
  | _ => exact .inl rfl

variable {h : Heap}

theorem room_eq (hused : h.used ≤ capacity) : h.room = .ok (capacity - h.used) := minus_of_le hused

theorem malloc_eq (hused : h.used ≤ capacity) (size : UInt64) :
    malloc size h =
      if size = 0 ∨ capacity - h.used < size.toNat then (.ok 0, h)
      else (.ok h.nextAddress,
        { h with blocks := h.blocks ++ [⟨h.nextAddress, size.toNat⟩], handedOut := h.handedOut + 1 }) := by
  unfold malloc
  rw [room_eq hused]
  by_cases hzero : size = 0
  · simp [hzero]
  · simp [hzero]

theorem used_malloc_le (hused : h.used ≤ capacity) (size : UInt64) : (malloc size h).2.used ≤ capacity := by
  rw [malloc_eq hused]
  split
  · exact hused
  · next hfits =>
    have hroom : size.toNat ≤ capacity - h.used := Nat.not_lt.1 fun hlt => hfits (.inr hlt)
    have hused' := used_append ⟨h.nextAddress, size.toNat⟩ h
    show used { h with blocks := h.blocks ++ [⟨h.nextAddress, size.toNat⟩] } ≤ capacity
    rw [hused']
    show h.used + size.toNat ≤ capacity
    omega

theorem used_step_le (hused : h.used ≤ capacity) (c : HeapCall) : (step c h).2.used ≤ capacity := by
  rcases step_snd c h with hc | ⟨size, hc⟩ | ⟨address, hc⟩
  · rw [hc]; exact hused
  · rw [hc]; exact used_malloc_le hused size
  · rw [hc]; exact Nat.le_trans (used_filter_le _ h) hused

theorem step_ok (hused : h.used ≤ capacity) (c : HeapCall) : ∃ reply, (step c h).1 = .ok reply := by
  cases c with
  | malloc size =>
    show ∃ reply, (malloc size h).1.map Reply.address = .ok reply
    rw [malloc_eq hused]
    split <;> exact ⟨_, rfl⟩
  | freeSize =>
    refine ⟨.size (UInt64.ofNat (capacity - h.used)), ?_⟩
    show h.room.map (fun n => Reply.size (UInt64.ofNat n)) = _
    rw [room_eq hused]
    rfl
  | _ => exact ⟨_, rfl⟩

end Heap

/-! ## The kernel -/

namespace Kernel

/-- A kernel none of whose parts holds more than it has room for. -/
structure Within (k : Kernel) : Prop where
  queue : k.queue.items.length ≤ Queue.capacity
  stream : k.stream.bytes.length ≤ Stream.capacity
  heap : k.heap.used ≤ Heap.capacity

theorem within_boot (settings : Settings) : (boot settings).Within :=
  ⟨Nat.zero_le _, Nat.zero_le _, Nat.zero_le _⟩

/-- The only calls that fault: a stream buffer of the largest size in memory of the caller. -/
def Oversized (c : Call) : Prop :=
  ∃ level flag storage block, c = .stream (.createStatic 0xffffffffffffffff level flag storage block)

namespace Within

variable {k : Kernel}

theorem serve (h : k.Within) (c : Call) : (serve c k).2.Within := by
  cases c with
  | queue c => exact ⟨Queue.length_step_le h.queue c, h.stream, h.heap⟩
  | stream c => exact ⟨h.queue, Stream.length_step_le h.stream c, h.heap⟩
  | heap c => exact ⟨h.queue, h.stream, Heap.used_step_le h.heap c⟩
  | _ => exact ⟨h.queue, h.stream, h.heap⟩

theorem next (h : k.Within) (m : Made) : (k.next m).Within := by
  rw [next_eq]
  exact ⟨(h.serve m.call).queue, (h.serve m.call).stream, (h.serve m.call).heap⟩

theorem after (h : k.Within) (ms : List Made) : (after ms k).Within :=
  after_keeps (fun m _ h => h.next m) ms h

theorem serve_ok (h : k.Within) {c : Call} (hc : ∀ s, c ≠ .stream s) :
    ∃ reply, (Kernel.serve c k).1 = .ok reply := by
  cases c with
  | task c => exact Tasks.step_ok c k.tasks
  | queue c => exact Queue.step_ok h.queue c
  | heap c => exact Heap.step_ok h.heap c
  | stream c => exact absurd rfl (hc c)
  | timer c | eventGroup c => exact ⟨_, rfl⟩

theorem run_eq_error_iff (h : k.Within) (m : Made) (f : Fault) :
    (run m.privileged m.call k).1 = .error f ↔ f = .addOverflow ∧ Oversized m.call := by
  rw [run_eq]
  by_cases hstream : ∃ s, m.call = .stream s
  · obtain ⟨s, hs⟩ := hstream
    rw [hs]
    show (Stream.step s k.stream).1 = .error f ↔ _
    rw [Stream.step_eq_error_iff h.stream]
    simp [Oversized]
  · obtain ⟨reply, hreply⟩ := h.serve_ok (not_exists.1 hstream)
    have hover : ¬ Oversized m.call := by
      rintro ⟨level, flag, storage, block, hc⟩
      exact hstream ⟨_, hc⟩
    simp [hreply, hover]

end Within

/-! ## What the kernel says of itself -/

/-- A call gets a reply, at whatever level it is made. -/
def Answers (k : Kernel) (c : Call) (reply : Reply) : Prop :=
  ∀ privileged, (run privileged c k).1 = .ok reply

theorem answers_of_serve {k : Kernel} {c : Call} {reply : Reply} (h : (serve c k).1 = .ok reply) :
    k.Answers c reply := fun privileged => by rw [run_eq, h]

/-- What is there and what there is room for make up the capacity, whatever handle is used. -/
structure CountsAddUp (k : Kernel) : Prop where
  queue : ∃ waiting spaces : UInt32,
    (∀ q, k.Answers (.queue (.messagesWaiting q)) (.word waiting)) ∧
    (∀ q, k.Answers (.queue (.spacesAvailable q)) (.word spaces)) ∧
    waiting.toNat = k.queue.items.length ∧ waiting.toNat + spaces.toNat = 8
  stream : ∃ bytes spaces : UInt64,
    (∀ b, k.Answers (.stream (.bytesAvailable b)) (.size bytes)) ∧
    (∀ b, k.Answers (.stream (.spacesAvailable b)) (.size spaces)) ∧
    (∀ b, k.Answers (.stream (.isFull b)) (.code (Code.ofBool (spaces = 0)))) ∧
    (∀ b, k.Answers (.stream (.isEmpty b)) (.code (Code.ofBool (bytes = 0)))) ∧
    bytes.toNat = k.stream.bytes.length ∧ bytes.toNat + spaces.toNat = 16
  heap : ∃ free : UInt64, k.Answers (.heap .freeSize) (.size free) ∧ k.heap.used + free.toNat = 4096

theorem ofNat_eq_zero_iff {n : Nat} (h : n < 0x10000000000000000) : UInt64.ofNat n = 0 ↔ n = 0 := by
  rw [← UInt64.toNat_inj, UInt64.toNat_ofNat_of_lt' h, UInt64.toNat_zero]

theorem Within.countsAddUp {k : Kernel} (h : k.Within) : k.CountsAddUp := by
  obtain ⟨hqueue, hstream, hheap⟩ := h
  constructor
  case queue =>
    refine ⟨UInt32.ofNat k.queue.items.length, UInt32.ofNat (Queue.capacity - k.queue.items.length),
      fun q => answers_of_serve rfl, fun q => answers_of_serve ?_, ?_⟩
    · show k.queue.spaces.map (fun n => Reply.word (UInt32.ofNat n)) = _
      rw [Queue.spaces_eq hqueue]
      rfl
    · simp only [UInt32.toNat_ofNat', Queue.capacity] at hqueue ⊢
      omega
  case stream =>
    refine ⟨UInt64.ofNat k.stream.bytes.length, UInt64.ofNat (Stream.capacity - k.stream.bytes.length),
      fun b => answers_of_serve rfl, fun b => answers_of_serve ?_, fun b => answers_of_serve ?_,
      fun b => answers_of_serve ?_, ?_⟩
    · show k.stream.spaces.map Stream.sizeOf = _
      rw [Stream.spaces_eq hstream]
      rfl
    · -- The counts are shown as words, which are zero only where the counts are.
      have hfull : k.stream.bytes.length = Stream.capacity ↔
          UInt64.ofNat (Stream.capacity - k.stream.bytes.length) = 0 := by
        rw [ofNat_eq_zero_iff (by unfold Stream.capacity; omega)]
        omega
      show Except.ok (Reply.code (Code.ofBool (k.stream.bytes.length = Stream.capacity))) = _
      simp only [hfull]
    · have hempty : k.stream.bytes.isEmpty = decide (UInt64.ofNat k.stream.bytes.length = 0) := by
        rw [Bool.eq_iff_iff, decide_eq_true_iff, List.isEmpty_iff_length_eq_zero,
          ofNat_eq_zero_iff (by unfold Stream.capacity at hstream; omega)]
      show Except.ok (Reply.code (Code.ofBool k.stream.bytes.isEmpty)) = _
      rw [hempty]
    · simp only [UInt64.toNat_ofNat', Stream.capacity] at hstream ⊢
      omega
  case heap =>
    refine ⟨UInt64.ofNat (Heap.capacity - k.heap.used), answers_of_serve ?_, ?_⟩
    · show k.heap.room.map (fun n => Reply.size (UInt64.ofNat n)) = _
      rw [Heap.room_eq hheap]
      rfl
    · simp only [UInt64.toNat_ofNat', Heap.capacity] at hheap ⊢
      omega

/-- The host kernel never takes in more than it has room for: after any calls from boot its counts add up to
its capacities, and only a stream buffer of the largest size makes the next call fault. -/
theorem capacities_never_exceeded (settings : Settings) (ms : List Made) :
    let k := after ms (boot settings)
    k.queue.items.length ≤ 8 ∧ k.stream.bytes.length ≤ 16 ∧ k.heap.used ≤ 4096 ∧ k.CountsAddUp ∧
      ∀ (m : Made) (f : Fault), (run m.privileged m.call k).1 = .error f ↔ f = .addOverflow ∧ Oversized m.call := by
  intro k
  have h : k.Within := (within_boot settings).after ms
  exact ⟨h.queue, h.stream, h.heap, h.countsAddUp, h.run_eq_error_iff⟩

end Kernel

end Sallyport.Host
