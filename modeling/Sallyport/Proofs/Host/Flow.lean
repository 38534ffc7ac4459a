/-
The stream of the host kernel neither loses, doubles nor reorders bytes: what was sent is what was
received with what is still there behind it. Sent and received are read off the history, from what a call
said it took of its data and what it said it wrote to its buffer.
-/
import Sallyport.Proofs.Host.Routes

namespace Sallyport.Host.Stream

open World

/-! ## What a history shows -/

/-- The bytes that a call has put in: the first of its data, as many as it returned. -/
def putIn : Call × Except Fault Reply → List UInt8
  | (.stream (.send _ data _), .ok (.size n)) => data.items.take n.toNat
  | _ => []

/-- The bytes that a call has got out: the first of its buffer, as many as it returned. -/
def gotOut : Call × Except Fault Reply → List UInt8
  | (.stream (.receive _ _ _), .ok (.received n buffer)) => buffer.take n.toNat
  | _ => []

def sent (h : History) : List UInt8 := h.flatMap putIn

def received (h : History) : List UInt8 := h.flatMap gotOut

/-- Calls that let the bytes flow: all but resets and deletions, which throw them away. -/
def letsFlow : Call → Bool
  | .stream (.reset _) => false
  | .stream (.delete _) => false
  | _ => true

def moves : Call → Bool
  | .stream (.send _ _ _) => true
  | .stream (.receive _ _ _) => true
  | _ => false

theorem sent_concat (h : History) (e : Call × Except Fault Reply) : sent (h ++ [e]) = sent h ++ putIn e := by
  unfold sent
  rw [List.flatMap_append, List.flatMap_singleton]

theorem received_concat (h : History) (e : Call × Except Fault Reply) :
    received (h ++ [e]) = received h ++ gotOut e := by
  unfold received
  rw [List.flatMap_append, List.flatMap_singleton]

/-! ## One call -/

section Calls

variable {w : World Kernel} (route : Route) (level : Bool)

theorem result_stream (c : StreamCall) (w : World Kernel) :
    (issue ⟨route, level, .stream c⟩ w).1 = (step c w.kernel.stream).1 := result_issue ..

theorem stream_issue (c : StreamCall) (w : World Kernel) :
    (issue ⟨route, level, .stream c⟩ w).2.kernel.stream = (step c w.kernel.stream).2 := by
  rw [kernel_issue]
  rfl

theorem toNat_size {n : Nat} (h : n ≤ 16) : (UInt64.ofNat n).toNat = n :=
  UInt64.toNat_ofNat_of_lt' (Nat.lt_of_le_of_lt h (by decide))

theorem issue_send (h : w.kernel.Within) (target : Handle .streamBuffer) (data : Run UInt8) (ticks : UInt32) :
    ∃ n : UInt64, n.toNat = min data.items.length (16 - w.kernel.stream.bytes.length) ∧
      (issue ⟨route, level, .stream (.send target data ticks)⟩ w).1 = .ok (.size n) ∧
      (issue ⟨route, level, .stream (.send target data ticks)⟩ w).2.kernel.stream.bytes =
        w.kernel.stream.bytes ++ data.items.take n.toNat := by
  refine ⟨UInt64.ofNat (min data.items.length (capacity - w.kernel.stream.bytes.length)), ?_⟩
  have hn := toNat_size (n := min data.items.length (capacity - w.kernel.stream.bytes.length))
    (by unfold capacity; omega)
  rw [hn, result_stream, stream_issue]
  simp only [step, send_eq h.stream]
  exact ⟨rfl, rfl, trivial⟩

theorem issue_receive (h : w.kernel.Within) (target : Handle .streamBuffer) (buffer : Run UInt8) (ticks : UInt32) :
    ∃ n : UInt64, n.toNat = min buffer.items.length w.kernel.stream.bytes.length ∧
      (issue ⟨route, level, .stream (.receive target buffer ticks)⟩ w).1 =
        .ok (.received n (w.kernel.stream.bytes.take n.toNat ++ buffer.items.drop n.toNat)) ∧
      (issue ⟨route, level, .stream (.receive target buffer ticks)⟩ w).2.kernel.stream.bytes =
        w.kernel.stream.bytes.drop n.toNat := by
  have hle : w.kernel.stream.bytes.length ≤ 16 := h.stream
  refine ⟨UInt64.ofNat (min buffer.items.length w.kernel.stream.bytes.length), ?_⟩
  rw [toNat_size (by omega), result_stream, stream_issue]
  exact ⟨rfl, rfl, rfl⟩

end Calls

theorem putIn_gotOut_of_quiet {c : Call} (h : moves c = false) (result : Except Fault Reply) :
    putIn (c, result) = [] ∧ gotOut (c, result) = [] := by
  cases c with
  | stream c =>
    cases c with
    | send target data ticks | receive target buffer ticks => cases h
    | _ => exact ⟨rfl, rfl⟩
  | _ => exact ⟨rfl, rfl⟩

theorem bytes_issue_of_quiet {m : Routed} (hflow : letsFlow m.call = true) (hmoves : moves m.call = false)
    (w : World Kernel) : (issue m w).2.kernel.stream.bytes = w.kernel.stream.bytes := by
  rw [kernel_issue]
  obtain ⟨route, level, c⟩ := m
  cases c with
  | stream c =>
    cases c with
    | reset target | delete target => cases hflow
    | send target data ticks | receive target buffer ticks => cases hmoves
    | _ => rfl
  | _ => rfl

/-- What was there and what a call puts in are, in this order, what it gets out and what is there then. -/
theorem issue_conserves {w : World Kernel} (hwithin : w.kernel.Within) {m : Routed} (hm : letsFlow m.call = true) :
    w.kernel.stream.bytes ++ putIn (m.call, (issue m w).1) =
      gotOut (m.call, (issue m w).1) ++ (issue m w).2.kernel.stream.bytes := by
  cases hmoves : moves m.call with
  | false =>
    obtain ⟨hin, hout⟩ := putIn_gotOut_of_quiet hmoves (issue m w).1
    rw [hin, hout, bytes_issue_of_quiet hm hmoves, List.append_nil, List.nil_append]
  | true =>
    obtain ⟨route, level, c⟩ := m
    cases c with
    | stream c =>
      cases c with
      | send target data ticks =>
        obtain ⟨n, -, hresult, hbytes⟩ := issue_send route level hwithin target data ticks
        rw [hresult, hbytes]
        rfl
      | receive target buffer ticks =>
        obtain ⟨n, hn, hresult, hbytes⟩ := issue_receive route level hwithin target buffer ticks
        -- What was got out is read off the buffer, by the number that the call returned.
        have hlength : (w.kernel.stream.bytes.take n.toNat).length = n.toNat := by
          rw [List.length_take, hn]
          omega
        rw [hresult, hbytes]
        show _ ++ [] = (w.kernel.stream.bytes.take n.toNat ++ buffer.items.drop n.toNat).take n.toNat ++ _
        rw [List.append_nil, List.take_left' hlength, List.take_append_drop]
      | _ => cases hmoves
    | _ => cases hmoves

/-! ## Runs -/

/-- A kernel within its capacities, where what was sent is what was received with what is still there. -/
structure Conserved (past : History) (w : World Kernel) : Prop where
  within : w.kernel.Within
  sent_eq : sent past = received past ++ w.kernel.stream.bytes

theorem Conserved.issue {past : History} {w : World Kernel} {m : Routed} (h : Conserved past w)
    (hm : letsFlow m.call = true) : Conserved (past ++ [(m.call, (issue m w).1)]) (issue m w).2 where
  within := within_issue h.within m
  sent_eq := by
    rw [sent_concat, received_concat, h.sent_eq, List.append_assoc, List.append_assoc, issue_conserves h.within hm]

/-- The stream after some bytes were sent and some received. -/
structure Flowing (sent received : List UInt8) (w : World Kernel) : Prop where
  sent_eq : sent = received ++ w.kernel.stream.bytes
  length_le : w.kernel.stream.bytes.length ≤ 16
  available : ∃ n : UInt64, n.toNat = w.kernel.stream.bytes.length ∧ ∀ route level target,
    (issue ⟨route, level, .stream (.bytesAvailable target)⟩ w).1 = .ok (.size n)
  /-- A send takes the first of its data, as much as there is room for. -/
  send : ∀ route level target data ticks,
    let seen := issue ⟨route, level, .stream (.send target data ticks)⟩ w
    ∃ n : UInt64, n.toNat = min data.items.length (16 - w.kernel.stream.bytes.length) ∧
      seen.1 = .ok (.size n) ∧ seen.2.kernel.stream.bytes = w.kernel.stream.bytes ++ data.items.take n.toNat
  /-- A receive moves the oldest bytes to the front of the buffer, and the rest of that stays. -/
  receive : ∀ route level target buffer ticks,
    let seen := issue ⟨route, level, .stream (.receive target buffer ticks)⟩ w
    ∃ n : UInt64, n.toNat = min buffer.items.length w.kernel.stream.bytes.length ∧
      seen.1 = .ok (.received n (w.kernel.stream.bytes.take n.toNat ++ buffer.items.drop n.toNat)) ∧
      seen.2.kernel.stream.bytes = w.kernel.stream.bytes.drop n.toNat
  quiet : ∀ m, letsFlow m.call = true → moves m.call = false →
    (issue m w).2.kernel.stream.bytes = w.kernel.stream.bytes

theorem Conserved.flowing {past : History} {w : World Kernel} (h : Conserved past w) :
    Flowing (sent past) (received past) w where
  sent_eq := h.sent_eq
  length_le := h.within.stream
  available := ⟨UInt64.ofNat w.kernel.stream.bytes.length, toNat_size h.within.stream,
    fun route level _ => result_stream route level _ w⟩
  send route level target data ticks := issue_send route level h.within target data ticks
  receive route level target buffer ticks := issue_receive route level h.within target buffer ticks
  quiet _ hflow hmoves := bytes_issue_of_quiet hflow hmoves w

/-- The stream neither loses, doubles nor reorders bytes: after every run that throws none away, the bytes
sent are those received followed by those in the stream, and every send and every receive moves as many as
there are and as there is room for. -/
theorem bytes_conserved (settings : Settings) (gate : Gate Hart) (ms : List Routed)
    (h : ∀ m ∈ ms, letsFlow m.call = true) :
    let start : World Kernel := ⟨gate, Kernel.boot settings⟩
    Flowing (sent (history ms start)) (received (history ms start)) (after ms start) := by
  intro start
  have hstart : Conserved [] start := ⟨Kernel.within_boot settings, rfl⟩
  have hrun : Conserved (history ms start) (after ms start) := history_keeps Conserved Conserved.issue ms h hstart
  exact hrun.flowing

/-- Eighteen bytes are sent, of which sixteen go in; three are received, and three of five more go in. -/
theorem bytes_conserved_around_capacity :
    let target : Handle .streamBuffer := ⟨1, by decide⟩
    let ms : List Routed := [⟨.gated, false, .stream (.send target ⟨64, List.replicate 18 9⟩ 0)⟩,
      ⟨.direct, true, .stream (.receive target ⟨96, [7, 7, 7]⟩ 0)⟩, ⟨.direct, false, .stream (.isFull target)⟩,
      ⟨.gated, true, .stream (.send target ⟨64, [1, 2, 3, 4, 5]⟩ 0)⟩]
    let start : World Kernel := ⟨Gate.around Hart.boot, Kernel.boot Settings.default⟩
    (∀ m ∈ ms, letsFlow m.call = true) ∧
      Flowing (List.replicate 16 9 ++ [1, 2, 3]) [9, 9, 9] (after ms start) := by
  intro target ms start
  have hms : ∀ m ∈ ms, letsFlow m.call = true := by decide
  exact ⟨hms, bytes_conserved _ _ ms hms⟩

end Sallyport.Host.Stream
