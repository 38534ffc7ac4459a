/-
The binding turns away a queue or a stream buffer without the storage it needs, and nothing else. The
host kernel answers most of these calls alike and misses two: of the storage of a queue it asks only
whether there is any, and the length a stream buffer needs is a sum that faults at the largest size.
-/
import Sallyport.Proofs.Foreign.Memory

namespace Sallyport.Foreign

open Host (Kernel)
open Transparency (servedAt passed isPrivileged_passed)

/-! ## What the binding turns away -/

/-- Whether a plan calls a function at all. -/
def Plan.Invokes : Plan → Prop
  | .done _ => False
  | .invoke _ _ => True

theorem invokes_queue {c : QueueCall} (room : hasRoom (.queue c) = true) : (queuePlan c).Invokes := by
  cases c with
  | createStatic length itemSize storage block kind =>
    rw [queuePlan, queueStorage_eq, if_pos (of_decide_eq_true room)]
    trivial
  | _ => trivial

theorem invokes_stream {c : StreamCall} (room : hasRoom (.stream c) = true) : (streamPlan c).Invokes := by
  cases c with
  | createStatic size triggerLevel isMessageBuffer storage block =>
    rw [streamPlan, if_neg (Nat.not_lt.2 (of_decide_eq_true room))]
    trivial
  | _ => trivial

theorem invokes_plan {c : Call} (room : hasRoom c = true) : (plan c).Invokes := by
  cases c with
  | queue c => exact invokes_queue room
  | stream c => exact invokes_stream room
  | task c => cases c <;> trivial
  | timer c => cases c <;> trivial
  | eventGroup c => cases c <;> trivial
  | heap c => cases c <;> trivial

theorem hasRoom_sent (route : Route) (c : Call) : hasRoom (sent route c) = hasRoom c := by
  cases route with
  | direct => rfl
  | gated =>
    cases c with
    | queue c => cases c <;> rfl
    | timer c => cases c <;> rfl
    | _ => rfl

theorem underlying_of_no_room {c : Call} (h : hasRoom c = false) :
    c.underlying = c ∧ ∀ reply, c.answer reply = reply := by
  cases c with
  | queue c =>
    cases c with
    | createStatic => exact ⟨rfl, fun _ => rfl⟩
    | _ => cases h
  | stream c => exact ⟨rfl, fun _ => rfl⟩
  | _ => cases h

variable {κ : Type} [KernelFunctions κ] {route : Route} {c : Call} {w : World (Watched κ)}

theorem Plan.Each.calls_ne {P : Invocation → Prop} {p : Plan} (hp : p.Each P) (h : p.Invokes) (privileged : Bool)
    (k : Watched κ) : (p.run privileged k).2.calls ≠ k.calls := by
  cases p with
  | done reply => cases h
  | invoke i next =>
    obtain ⟨made, hmade, -⟩ := (hp.2 _).run privileged (KernelFunctions.invoke privileged i k).2
    intro heq
    have hsame : k.calls ++ ([⟨i, privileged⟩] ++ made) = k.calls := by
      rw [← List.append_assoc]
      exact hmade.symm.trans heq
    cases List.append_right_eq_self.1 hsame

theorem turnedAway_of_no_room (h : hasRoom c = false) : TurnedAway route c w := by
  obtain ⟨hsame, hanswer⟩ := underlying_of_no_room h
  have hsent : sent route c = c.underlying := by
    cases route with
    | direct => exact hsame.symm
    | gated => rfl
  refine turnedAway_of_plan hanswer ?_
  rw [hsent]
  exact (plan_of_no_room h).1

theorem turnedAway_iff : TurnedAway route c w ↔ hasRoom c = false := by
  refine ⟨fun h => ?_, turnedAway_of_no_room⟩
  by_contra hroom
  rw [Bool.not_eq_false, ← hasRoom_sent route] at hroom
  have hkernel := h.kernel
  rw [call_eq_plan] at hkernel
  exact (each_plan _).calls_ne (invokes_plan hroom) _ _ (congrArg Watched.calls hkernel)

/-! ## What the host kernel answers -/

/-- On the host kernel a call shows a result, and leaves nothing but its entry in the log. -/
structure HostShows (route : Route) (c : Call) (result : Except Fault Reply) (v : World Kernel) : Prop where
  result : (World.call route c v).1 = result
  kernel : (World.call route c v).2.kernel.unlogged = v.kernel.unlogged
  level : (World.call route c v).2.isPrivileged = v.isPrivileged

/-- The host kernel refuses as the binding does: no handle, no fault, nothing changed. -/
abbrev HostRefuses (route : Route) (c : Call) (v : World Kernel) : Prop := HostShows route c (.ok (.address 0)) v

theorem hostShows_of_serve {result : Except Fault Reply} {v : World Kernel}
    (h : Kernel.serve c v.kernel = (result, v.kernel)) : HostShows route c result v := by
  have hcall := Transparency.call_eq route c v
  rw [h] at hcall
  constructor
  case result => rw [hcall]
  case kernel => rw [hcall]; rfl
  case level => exact isPrivileged_of_gate (by rw [hcall])

theorem hostShows_queue (route : Route) (v : World Kernel) {length itemSize : UInt32} {storage : Option Storage}
    {block : Address} {kind : QueueKind}
    (h : hasRoom (.queue (.createStatic length itemSize storage block kind)) = false) :
    HostShows route (.queue (.createStatic length itemSize storage block kind))
      (.ok (.address (if storage.isSome then block else 0))) v := by
  have hneeded : ¬ length.toNat * itemSize.toNat ≤ storage.elim 0 (·.length) := of_decide_eq_false h
  -- What does not fit is not nothing: there is an item, and it has bytes.
  have hlength : length ≠ 0 := by rintro rfl; simp at hneeded
  have hitem : itemSize ≠ 0 := by rintro rfl; simp at hneeded
  have hcreates : Host.Queue.canCreateStatic length itemSize storage = storage.isSome := by
    cases storage <;> simp [Host.Queue.canCreateStatic, hlength, hitem]
  refine hostShows_of_serve ?_
  show (Except.ok (Host.Queue.addressIf (Host.Queue.canCreateStatic length itemSize storage) block), v.kernel) = _
  rw [hcreates]
  rfl

theorem hostShows_stream (route : Route) (v : World Kernel) {size triggerLevel : UInt64} {isMessageBuffer : Int32}
    {storage : Storage} {block : Address}
    (h : hasRoom (.stream (.createStatic size triggerLevel isMessageBuffer storage block)) = false) :
    HostShows route (.stream (.createStatic size triggerLevel isMessageBuffer storage block))
      (if size = 0xffffffffffffffff then .error .addOverflow else .ok (.address 0)) v := by
  have hneeded : ¬ size.toNat + 1 ≤ storage.length := of_decide_eq_false h
  refine hostShows_of_serve ?_
  show (Host.Stream.createStatic size storage block, v.kernel) = _
  rw [Host.Stream.createStatic, if_pos (Nat.not_le.1 hneeded)]

/-- What the host kernel answers to all that the binding turns away: it refuses a queue without storage and a
stream buffer with too little, but takes a queue with too little, and faults at a stream buffer of the largest
size. -/
theorem host_answers_to_refused (h : TurnedAway route c w) (route' : Route) (v : World Kernel) :
    hasRoom c = false ∧
    match c with
    | .queue (.createStatic _ _ none _ _) => HostRefuses route' c v
    | .queue (.createStatic _ _ (some _) block _) => HostShows route' c (.ok (.address block)) v
    | .stream (.createStatic size _ _ _ _) =>
      if size = 0xffffffffffffffff then HostShows route' c (.error .addOverflow) v else HostRefuses route' c v
    | _ => False := by
  have hroom := turnedAway_iff.1 h
  refine ⟨hroom, ?_⟩
  cases c with
  | queue c =>
    cases c with
    | createStatic length itemSize storage block kind =>
      have hshows := hostShows_queue route' v hroom
      cases storage with
      | none => exact hshows
      | some s => exact hshows
    | _ => cases hroom
  | stream c =>
    cases c with
    | createStatic size triggerLevel isMessageBuffer storage block =>
      have hshows := hostShows_stream route' v hroom
      dsimp only
      split at hshows
      · next hsize => rw [if_pos hsize]; exact hshows
      · next hsize => rw [if_neg hsize]; exact hshows
    | _ => cases hroom
  | _ => cases hroom

/-- A stream buffer for sixteen bytes in storage of sixteen bytes, one too few. -/
def tightStream : Call := .stream (.createStatic 16 1 0 ⟨0x1000, 16⟩ 0x2000)

theorem tightStream_refused_by_both :
    TurnedAway .gated tightStream (World.boot (⟨.boot, []⟩ : Watched Scripted)) ∧
      HostRefuses .direct tightStream (World.boot (Kernel.boot .default)) := by
  have haway : TurnedAway .gated tightStream (World.boot (⟨.boot, []⟩ : Watched Scripted)) :=
    turnedAway_of_no_room (by decide)
  exact ⟨haway, (host_answers_to_refused haway .direct (World.boot (Kernel.boot .default))).2⟩

/-- A stream buffer of the largest size, in storage of sixteen bytes. -/
def endlessStream : Call := .stream (.createStatic 0xffffffffffffffff 1 0 ⟨0x1000, 16⟩ 0x2000)

/-- Of two calls that the binding turns away, the host kernel faults at one and serves the other. -/
theorem host_misses_refusals :
    let w : World (Watched Scripted) := .boot ⟨.boot, []⟩
    let v : World Kernel := .boot (.boot .default)
    TurnedAway .direct endlessStream w ∧ ¬ HostRefuses .direct endlessStream v ∧
      (World.call .direct endlessStream v).1 = .error .addOverflow ∧
      TurnedAway .direct shortQueue w ∧ ¬ HostRefuses .direct shortQueue v ∧
      (World.call .direct shortQueue v).1 = .ok (.address 0x2000) := by
  intro w v
  have hstream : (World.call .direct endlessStream v).1 = .error .addOverflow := rfl
  have hqueue : (World.call .direct shortQueue v).1 = .ok (.address 0x2000) := rfl
  refine ⟨turnedAway_of_no_room (by decide), fun h => ?_, hstream, turnedAway_of_no_room (by decide),
    fun h => ?_, hqueue⟩
  · cases hstream.symm.trans h.result
  · cases hqueue.symm.trans h.result

end Sallyport.Foreign
