/-
The queue of the host kernel is a bounded queue, first in, first out. Accepted and taken are read off the
history; the invariant (`Waiting`) says that the queue holds the accepted items but for the first ones,
as many as were taken.
-/
import Sallyport.Proofs.Host.Routes

namespace Sallyport.Host.Queue

open World

/-! ## What a history shows -/

/-- The item that a call sends to the back. -/
def sent? : Call → Option (List UInt8)
  | .queue (.genericSend _ item _ position) =>
    if position = .front ∨ position = .overwrite then none else some item.items
  | .queue (.send _ item _) => some item.items
  | .queue (.give _ _) => some []
  | _ => none

/-- Whether a call takes an item out. -/
def takesOut : Call → Bool
  | .queue (.receive _ _ _) => true
  | .queue (.semaphoreTake _ _) => true
  | _ => false

/-- Calls that keep the items in their order: no resets, deletions, or sends elsewhere than to the back. -/
def keepsOrder : Call → Bool
  | .queue (.genericSend _ _ _ position) => position ≠ .front && position ≠ .overwrite
  | .queue (.reset _ _) => false
  | .queue (.delete _) => false
  | _ => true

/-- Whether a call came back with success. -/
def passed : Except Fault Reply → Bool
  | .ok (.code code) => code = Code.pass
  | .ok (.filled code _) => code = Code.pass
  | _ => false

def accepted (h : History) : List (List UInt8) := h.filterMap fun e => if passed e.2 then sent? e.1 else none

def taken (h : History) : Nat := h.countP fun e => takesOut e.1 && passed e.2

theorem accepted_concat (h : History) (c : Call) (result : Except Fault Reply) :
    accepted (h ++ [(c, result)]) = accepted h ++ (if passed result then sent? c else none).toList := by
  unfold accepted
  rw [List.filterMap_append, List.filterMap_cons, List.filterMap_nil]
  cases (if passed result then sent? c else none) <;> rfl

theorem taken_concat (h : History) (c : Call) (result : Except Fault Reply) :
    taken (h ++ [(c, result)]) = taken h + if takesOut c && passed result then 1 else 0 := by
  unfold taken
  rw [List.countP_append, List.countP_singleton]

/-! ## Serving a call -/

variable {c : Call} {item : List UInt8}

theorem send_back {position : CopyPosition} (h : ¬ (position = .front ∨ position = .overwrite))
    (item : List UInt8) (q : Queue) : q.send item position =
      if q.items.length = capacity then (Code.queueFull, q)
      else (Code.pass, { q with items := q.items ++ [item] }) := by
  obtain ⟨hfront, hover⟩ := not_or.1 h
  unfold send
  rw [if_neg hover, if_neg hfront]

theorem send_front (item : List UInt8) (q : Queue) : q.send item .front =
    if q.items.length = capacity then (Code.queueFull, q)
    else (Code.pass, { q with items := item :: q.items }) := rfl

theorem exists_send (h : sent? c = some item) (k : Kernel) :
    ∃ position : CopyPosition, ¬ (position = .front ∨ position = .overwrite) ∧ Kernel.serve c k =
      (.ok (.code (k.queue.send item position).1), { k with queue := (k.queue.send item position).2 }) := by
  cases c with
  | queue c =>
    cases c with
    | genericSend target sent ticks position =>
      by_cases hposition : position = .front ∨ position = .overwrite
      · simp [sent?, hposition] at h
      · simp only [sent?, if_neg hposition] at h
        obtain rfl := Option.some.inj h
        exact ⟨position, hposition, rfl⟩
    | send target sent ticks | give target nothing =>
      obtain rfl := Option.some.inj h
      exact ⟨.back, by decide, rfl⟩
    | _ => cases h
  | _ => cases h

theorem serve_of_sent (h : sent? c = some item) (k : Kernel) : Kernel.serve c k =
    if k.queue.items.length = capacity then (.ok (.code Code.queueFull), k)
    else (.ok (.code Code.pass), { k with queue := { k.queue with items := k.queue.items ++ [item] } }) := by
  obtain ⟨position, hposition, hserve⟩ := exists_send h k
  rw [hserve, send_back hposition]
  split <;> rfl

theorem serve_of_takesOut (h : takesOut c = true) (k : Kernel) :
    (Kernel.serve c k).2.queue.items = k.queue.items.tail ∧
      passed (Kernel.serve c k).1 = !k.queue.items.isEmpty := by
  cases c with
  | queue c =>
    cases c with
    | receive target buffer ticks =>
      refine ⟨rfl, ?_⟩
      show passed (.ok (.filled (k.queue.peek buffer.items).1 (k.queue.peek buffer.items).2)) = _
      unfold peek
      cases k.queue.items <;> rfl
    | semaphoreTake target ticks =>
      refine ⟨rfl, ?_⟩
      show passed (.ok (.code (Code.ofBool !k.queue.items.isEmpty))) = _
      cases k.queue.items <;> rfl
    | _ => cases h
  | _ => cases h

theorem serve_of_neither (h : keepsOrder c = true) (hsent : sent? c = none) (htakes : takesOut c = false)
    (k : Kernel) : (Kernel.serve c k).2.queue.items = k.queue.items := by
  cases c with
  | queue c =>
    cases c with
    | genericSend target item ticks position =>
      simp only [keepsOrder, Bool.and_eq_true, decide_eq_true_eq] at h
      simp [sent?, h.1, h.2] at hsent
    | reset target newQueue | delete target => cases h
    | send target item ticks | give target nothing => cases hsent
    | receive target buffer ticks | semaphoreTake target ticks => cases htakes
    | _ => rfl
  | _ => rfl

theorem takesOut_of_sent (h : sent? c = some item) : takesOut c = false := by
  cases c with
  | queue c => cases c <;> first | rfl | cases h
  | _ => rfl

/-! ## The items that wait -/

/-- The queue holds the items that were accepted, but for the first ones, which have been taken. -/
structure Waiting (accepted : List (List UInt8)) (taken : Nat) (items : List (List UInt8)) : Prop where
  taken_le : taken ≤ accepted.length
  items_eq : items = accepted.drop taken

namespace Waiting

variable {accepted items : List (List UInt8)} {taken : Nat}

theorem length_eq (h : Waiting accepted taken items) : items.length = accepted.length - taken := by
  rw [h.items_eq, List.length_drop]

theorem append (h : Waiting accepted taken items) (item : List UInt8) :
    Waiting (accepted ++ [item]) taken (items ++ [item]) where
  taken_le := by
    have := h.taken_le
    rw [List.length_append]
    omega
  items_eq := by rw [h.items_eq, List.drop_append_of_le_length h.taken_le]

theorem pop {rest : List (List UInt8)} (h : Waiting accepted taken (item :: rest)) :
    Waiting accepted (taken + 1) rest where
  taken_le := by
    have := h.length_eq
    rw [List.length_cons] at this
    omega
  items_eq := by rw [← List.tail_drop, ← h.items_eq, List.tail_cons]

end Waiting

theorem waiting_issue {past : History} {w : World Kernel} {m : Routed}
    (h : Waiting (accepted past) (taken past) w.kernel.queue.items) (hm : keepsOrder m.call = true) :
    Waiting (accepted (past ++ [(m.call, (issue m w).1)])) (taken (past ++ [(m.call, (issue m w).1)]))
      (issue m w).2.kernel.queue.items := by
  have hqueue : (issue m w).2.kernel.queue = (Kernel.serve m.call w.kernel).2.queue := by rw [kernel_issue]
  rw [accepted_concat, taken_concat, result_issue, hqueue]
  cases hsent : sent? m.call with
  | some item =>
    rw [serve_of_sent hsent, takesOut_of_sent hsent]
    by_cases hfull : w.kernel.queue.items.length = capacity
    · rw [if_pos hfull]
      simpa [passed, Code.queueFull, Code.pass] using h
    · rw [if_neg hfull]
      exact h.append item
  | none =>
    -- What sends nothing has nothing accepted, whatever it returns.
    rw [ite_self, Option.toList_none, List.append_nil]
    by_cases htakes : takesOut m.call = true
    · obtain ⟨hitems, hpassed⟩ := serve_of_takesOut htakes w.kernel
      rw [htakes, hpassed, hitems]
      cases hwaiting : w.kernel.queue.items with
      | nil =>
        rw [hwaiting] at h
        exact h
      | cons item rest =>
        rw [hwaiting] at h
        exact h.pop
    · have hfalse : takesOut m.call = false := by simpa using htakes
      rw [hfalse, serve_of_neither hm hsent hfalse]
      exact h

/-! ## One call -/

/-- As many bytes as both have go from an item to the front of a buffer; the rest of the buffer stays. -/
def laidOver (item buffer : List UInt8) : List UInt8 :=
  item.take (min item.length buffer.length) ++ buffer.drop (min item.length buffer.length)

theorem copyInto_eq_laidOver (buffer item : List UInt8) : copyInto buffer item = laidOver item buffer := by
  unfold copyInto laidOver
  rcases Nat.le_total item.length buffer.length with h | h
  · rw [Nat.min_eq_left h, List.take_of_length_le h, List.take_length]
  · rw [Nat.min_eq_right h, List.drop_of_length_le h, List.drop_length]

section Calls

variable {w : World Kernel} {rest : List (List UInt8)} (route : Route) (level : Bool)

theorem result_queue (c : QueueCall) (w : World Kernel) :
    (issue ⟨route, level, .queue c⟩ w).1 = (step c w.kernel.queue).1 := result_issue ..

theorem queue_issue (c : QueueCall) (w : World Kernel) :
    (issue ⟨route, level, .queue c⟩ w).2.kernel.queue = (step c w.kernel.queue).2 := by
  rw [kernel_issue]
  rfl

theorem unlogged_queue {c : QueueCall} (h : (step c w.kernel.queue).2 = w.kernel.queue) :
    (issue ⟨route, level, .queue c⟩ w).2.kernel.unlogged = w.kernel.unlogged := by
  refine unlogged_issue ?_
  show { w.kernel with queue := (step c w.kernel.queue).2 } = w.kernel
  rw [h]

theorem issue_sent_of_room {m : Routed} (hsent : sent? m.call = some item)
    (hroom : w.kernel.queue.items.length ≠ capacity) : (issue m w).1 = .ok (.code Code.pass) ∧
      (issue m w).2.kernel.queue.items = w.kernel.queue.items ++ [item] := by
  rw [result_issue, kernel_issue, serve_of_sent hsent, if_neg hroom]
  exact ⟨rfl, rfl⟩

theorem issue_sent_of_full {m : Routed} (hsent : sent? m.call = some item)
    (hfull : w.kernel.queue.items.length = capacity) : (issue m w).1 = .ok (.code Code.queueFull) ∧
      (issue m w).2.kernel.unlogged = w.kernel.unlogged := by
  have hserve := serve_of_sent hsent w.kernel
  rw [if_pos hfull] at hserve
  exact ⟨by rw [result_issue, hserve], unlogged_issue (by rw [hserve])⟩

theorem issue_overwrite (target : Handle .queue) (sent : Run UInt8) (ticks : UInt32) (w : World Kernel) :
    (issue ⟨route, level, .queue (.genericSend target sent ticks .overwrite)⟩ w).1 = .ok (.code Code.pass) ∧
      (issue ⟨route, level, .queue (.genericSend target sent ticks .overwrite)⟩ w).2.kernel.queue.items =
        [sent.items] := by
  rw [result_queue, queue_issue]
  exact ⟨rfl, rfl⟩

theorem issue_front_of_room (hroom : w.kernel.queue.items.length ≠ capacity) (target : Handle .queue)
    (sent : Run UInt8) (ticks : UInt32) :
    (issue ⟨route, level, .queue (.genericSend target sent ticks .front)⟩ w).1 = .ok (.code Code.pass) ∧
      (issue ⟨route, level, .queue (.genericSend target sent ticks .front)⟩ w).2.kernel.queue.items =
        sent.items :: w.kernel.queue.items := by
  rw [result_queue, queue_issue]
  simp only [step, send_front, if_neg hroom, and_self]

theorem issue_front_of_full (hfull : w.kernel.queue.items.length = capacity) (target : Handle .queue)
    (sent : Run UInt8) (ticks : UInt32) :
    (issue ⟨route, level, .queue (.genericSend target sent ticks .front)⟩ w).1 = .ok (.code Code.queueFull) ∧
      (issue ⟨route, level, .queue (.genericSend target sent ticks .front)⟩ w).2.kernel.unlogged =
        w.kernel.unlogged := by
  have hsend : w.kernel.queue.send sent.items .front = (Code.queueFull, w.kernel.queue) := by
    rw [send_front, if_pos hfull]
  rw [result_queue]
  exact ⟨by simp only [step, hsend], unlogged_queue route level (congrArg Prod.snd hsend)⟩

theorem pop_of_nil {q : Queue} (h : q.items = []) : q.pop = q := by
  obtain ⟨items, name⟩ := q
  obtain rfl : items = [] := h
  rfl

theorem issue_receive_of_cons (h : w.kernel.queue.items = item :: rest) (target : Handle .queue)
    (buffer : Run UInt8) (ticks : UInt32) :
    (issue ⟨route, level, .queue (.receive target buffer ticks)⟩ w).1 =
        .ok (.filled Code.pass (laidOver item buffer.items)) ∧
      (issue ⟨route, level, .queue (.receive target buffer ticks)⟩ w).2.kernel.queue.items = rest := by
  rw [result_queue, queue_issue]
  constructor
  · simp only [step, peek, h, copyInto_eq_laidOver]
  · show w.kernel.queue.items.tail = rest
    rw [h, List.tail_cons]

theorem issue_receive_of_nil (h : w.kernel.queue.items = []) (target : Handle .queue) (buffer : Run UInt8)
    (ticks : UInt32) :
    (issue ⟨route, level, .queue (.receive target buffer ticks)⟩ w).1 =
        .ok (.filled Code.queueEmpty buffer.items) ∧
      (issue ⟨route, level, .queue (.receive target buffer ticks)⟩ w).2.kernel.unlogged = w.kernel.unlogged := by
  rw [result_queue]
  exact ⟨by simp only [step, peek, h], unlogged_queue route level (pop_of_nil h)⟩

theorem issue_take_of_cons (h : w.kernel.queue.items = item :: rest) (target : Handle .queue) (ticks : UInt32) :
    (issue ⟨route, level, .queue (.semaphoreTake target ticks)⟩ w).1 = .ok (.code Code.pass) ∧
      (issue ⟨route, level, .queue (.semaphoreTake target ticks)⟩ w).2.kernel.queue.items = rest := by
  rw [result_queue, queue_issue]
  constructor
  · simp only [step, h]
    rfl
  · show w.kernel.queue.items.tail = rest
    rw [h, List.tail_cons]

theorem issue_take_of_nil (h : w.kernel.queue.items = []) (target : Handle .queue) (ticks : UInt32) :
    (issue ⟨route, level, .queue (.semaphoreTake target ticks)⟩ w).1 = .ok (.code Code.fail) ∧
      (issue ⟨route, level, .queue (.semaphoreTake target ticks)⟩ w).2.kernel.unlogged = w.kernel.unlogged := by
  rw [result_queue]
  refine ⟨?_, unlogged_queue route level (pop_of_nil h)⟩
  simp only [step, h]
  rfl

theorem issue_spaces (h : w.kernel.Within) (target : Handle .queue) :
    (issue ⟨route, level, .queue (.spacesAvailable target)⟩ w).1 =
      .ok (.word (UInt32.ofNat (capacity - w.kernel.queue.items.length))) := by
  rw [result_queue]
  simp only [step, spaces_eq h.queue]
  rfl

end Calls

/-! ## What comes next -/

/-- The queue after so many items were accepted and so many of them taken. -/
structure InOrder (accepted : List (List UInt8)) (taken : Nat) (w : World Kernel) : Prop where
  taken_le : taken ≤ accepted.length
  length_le : accepted.length ≤ taken + 8
  items_eq : w.kernel.queue.items = accepted.drop taken
  send : ∀ m item, sent? m.call = some item →
    (accepted.length < taken + 8 → (issue m w).1 = .ok (.code Code.pass) ∧
      (issue m w).2.kernel.queue.items = accepted.drop taken ++ [item]) ∧
    (accepted.length = taken + 8 → (issue m w).1 = .ok (.code Code.queueFull) ∧
      (issue m w).2.kernel.unlogged = w.kernel.unlogged)
  receive : ∀ route level target buffer ticks,
    let seen := issue ⟨route, level, .queue (.receive target buffer ticks)⟩ w
    (∀ item, accepted[taken]? = some item → seen.1 = .ok (.filled Code.pass (laidOver item buffer.items)) ∧
      seen.2.kernel.queue.items = accepted.drop (taken + 1)) ∧
    (accepted.length = taken → seen.1 = .ok (.filled Code.queueEmpty buffer.items) ∧
      seen.2.kernel.unlogged = w.kernel.unlogged)
  take : ∀ route level target ticks,
    let seen := issue ⟨route, level, .queue (.semaphoreTake target ticks)⟩ w
    (taken < accepted.length → seen.1 = .ok (.code Code.pass) ∧
      seen.2.kernel.queue.items = accepted.drop (taken + 1)) ∧
    (accepted.length = taken → seen.1 = .ok (.code Code.fail) ∧ seen.2.kernel.unlogged = w.kernel.unlogged)
  /-- A peek shows what a receive in its place would give, whoever made it, and changes nothing. -/
  peek : ∀ route level target buffer ticks,
    let seen := issue ⟨route, level, .queue (.peek target buffer ticks)⟩ w
    (∀ route' level' target' ticks',
      seen.1 = (issue ⟨route', level', .queue (.receive target' buffer ticks')⟩ w).1) ∧
      seen.2.kernel.unlogged = w.kernel.unlogged
  counts : ∃ waiting spaces : UInt32, waiting.toNat + taken = accepted.length ∧ waiting.toNat + spaces.toNat = 8 ∧
    ∀ route level target,
      let asked := issue ⟨route, level, .queue (.messagesWaiting target)⟩ w
      let asked' := issue ⟨route, level, .queue (.spacesAvailable target)⟩ w
      asked.1 = .ok (.word waiting) ∧ asked.2.kernel.unlogged = w.kernel.unlogged ∧
        asked'.1 = .ok (.word spaces) ∧ asked'.2.kernel.unlogged = w.kernel.unlogged

theorem Waiting.inOrder {accepted : List (List UInt8)} {taken : Nat} {w : World Kernel}
    (h : Waiting accepted taken w.kernel.queue.items) (hwithin : w.kernel.Within) : InOrder accepted taken w := by
  have hlength := h.length_eq
  have hle := h.taken_le
  have hcapacity : w.kernel.queue.items.length ≤ 8 := hwithin.queue
  -- Either nothing waits, or the item after those that were taken is at the front.
  have hnone : accepted.length = taken → w.kernel.queue.items = [] := fun hall =>
    List.eq_nil_of_length_eq_zero (by omega)
  have hcons : ∀ hlt : taken < accepted.length,
      w.kernel.queue.items = accepted[taken] :: accepted.drop (taken + 1) := fun hlt =>
    h.items_eq.trans (List.drop_eq_getElem_cons hlt)
  constructor
  case taken_le => exact hle
  case length_le => omega
  case items_eq => exact h.items_eq
  case send =>
    intro m item hsent
    rw [← h.items_eq]
    exact ⟨fun hroom => issue_sent_of_room hsent (by unfold capacity; omega),
      fun hfull => issue_sent_of_full hsent (by unfold capacity; omega)⟩
  case receive =>
    intro route level target buffer ticks seen
    refine ⟨fun item hitem => ?_, fun hall => issue_receive_of_nil route level (hnone hall) target buffer ticks⟩
    obtain ⟨hlt, rfl⟩ := List.getElem?_eq_some_iff.1 hitem
    exact issue_receive_of_cons route level (hcons hlt) target buffer ticks
  case take =>
    intro route level target ticks seen
    exact ⟨fun hlt => issue_take_of_cons route level (hcons hlt) target ticks,
      fun hall => issue_take_of_nil route level (hnone hall) target ticks⟩
  case peek =>
    intro route level target buffer ticks seen
    refine ⟨fun route' level' target' ticks' => ?_, unlogged_queue route level rfl⟩
    rw [show seen.1 = _ from result_queue .., result_queue]
    rfl
  case counts =>
    refine ⟨UInt32.ofNat w.kernel.queue.items.length,
      UInt32.ofNat (capacity - w.kernel.queue.items.length), ?_, ?_, ?_⟩
    · rw [UInt32.toNat_ofNat']
      omega
    · rw [UInt32.toNat_ofNat', UInt32.toNat_ofNat']
      unfold capacity
      omega
    · intro route level target asked asked'
      exact ⟨result_queue .., unlogged_queue route level rfl, issue_spaces route level hwithin target,
        unlogged_queue route level rfl⟩

/-- The queue is first in, first out. In every run that keeps the order of the items, those accepted and not
taken wait in it, at most eight. In every reachable state a send in place of all items leaves its own alone,
and a send to the front goes before the others. -/
theorem first_in_first_out (settings : Settings) (gate : Gate Hart) (ms : List Routed) :
    let start : World Kernel := ⟨gate, Kernel.boot settings⟩
    let w := after ms start
    ((∀ m ∈ ms, keepsOrder m.call = true) → InOrder (accepted (history ms start)) (taken (history ms start)) w) ∧
    w.kernel.queue.items.length ≤ 8 ∧ ∀ route level target,
      (∀ sent ticks,
        let put := fun position => issue ⟨route, level, .queue (.genericSend target sent ticks position)⟩ w
        ((put .overwrite).1 = .ok (.code Code.pass) ∧ (put .overwrite).2.kernel.queue.items = [sent.items]) ∧
        (w.kernel.queue.items.length < 8 → (put .front).1 = .ok (.code Code.pass) ∧
          (put .front).2.kernel.queue.items = sent.items :: w.kernel.queue.items) ∧
        (w.kernel.queue.items.length = 8 → (put .front).1 = .ok (.code Code.queueFull) ∧
          (put .front).2.kernel.unlogged = w.kernel.unlogged)) ∧
      ∀ first rest buffer ticks, w.kernel.queue.items = first :: rest →
        let seen := issue ⟨route, level, .queue (.receive target buffer ticks)⟩ w
        seen.1 = .ok (.filled Code.pass (laidOver first buffer.items)) ∧ seen.2.kernel.queue.items = rest := by
  intro start w
  have hwithin : w.kernel.Within := within_after ms (Kernel.within_boot settings)
  refine ⟨fun hms => ?_, hwithin.queue, fun route level target => ⟨fun sent ticks => ?_, ?_⟩⟩
  · have hstart : Waiting (accepted []) (taken []) start.kernel.queue.items := ⟨Nat.le_refl 0, rfl⟩
    have hwaiting : Waiting (accepted (history ms start)) (taken (history ms start)) w.kernel.queue.items :=
      history_keeps (fun past w => Waiting (accepted past) (taken past) w.kernel.queue.items) waiting_issue ms
        hms hstart
    exact hwaiting.inOrder hwithin
  · exact ⟨issue_overwrite route level target sent ticks w,
      fun hroom => issue_front_of_room route level (by unfold capacity; omega) target sent ticks,
      fun hfull => issue_front_of_full route level hfull target sent ticks⟩
  · intro first rest buffer ticks hitems
    exact issue_receive_of_cons route level hitems target buffer ticks

/-- Three bytes and a semaphore are sent; two of the bytes are peeked at, and then received. -/
theorem first_in_first_out_of_four :
    let target : Handle .queue := ⟨1, by decide⟩
    let ms : List Routed := [⟨.gated, false, .queue (.send target ⟨64, [1, 2, 3]⟩ 0)⟩,
      ⟨.direct, true, .queue (.give target 0)⟩, ⟨.gated, true, .queue (.peek target ⟨96, [7, 7]⟩ 0)⟩,
      ⟨.direct, false, .queue (.receive target ⟨96, [7, 7]⟩ 0)⟩]
    let start : World Kernel := ⟨Gate.around Hart.boot, Kernel.boot Settings.default⟩
    (∀ m ∈ ms, keepsOrder m.call = true) ∧ (after ms start).kernel.queue.items = [[]] ∧
      (issue ⟨.gated, false, .queue (.receive target ⟨128, [5, 6]⟩ 0)⟩ (after ms start)).1 =
        .ok (.filled Code.pass [5, 6]) := by
  intro target ms start
  have hms : ∀ m ∈ ms, keepsOrder m.call = true := by decide
  have h : InOrder [[1, 2, 3], []] 1 (after ms start) := (first_in_first_out _ _ ms).1 hms
  exact ⟨hms, h.items_eq, ((h.receive .gated false target ⟨128, [5, 6]⟩ 0).1 [] rfl).1⟩

end Sallyport.Host.Queue
