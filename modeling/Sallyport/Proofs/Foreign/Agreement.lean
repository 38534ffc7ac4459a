/-
The two ways into the compiled kernel, a service called through the gate and the exported wrapper of its
function, are one service. Each plan comes down to its request (`comesDown_*`, one case per service); the
rest is about one region around one call, and knows nothing of the services.
-/
import Sallyport.Foreign.Binding
import Sallyport.Foreign.Export
import Sallyport.Foreign.Scripted
import Sallyport.Proofs.Foreign.Request
import Sallyport.Proofs.Trampoline.Transparent

namespace Sallyport.Foreign

/-! ## Plans and requests -/

/-- The plan of a service makes this invocation, whatever the answer, and replies what it returned. -/
def ComesDown (c : Call) (i : Invocation) : Prop :=
  ∃ reply : Answer → Reply, plan c.underlying = .invoke i (fun a => .done (reply a)) ∧
    ∀ a, Returns (c.answer (reply a)) (i.function.signature.result.map a.result)

theorem comesDown_task (c : TaskCall) : ComesDown (.task c) (taskRequest c) := by
  cases c with
  | getName target => exact ⟨text, rfl, fun a => .text a.string⟩
  | _ => exact ⟨_, rfl, fun a => by constructor⟩

/-- A queue has its storage at the address of what it is given, or is refused. -/
theorem queueStorage_eq (length itemSize : UInt32) (storage : Option Storage) :
    queueStorage length itemSize storage =
      if length.toNat * itemSize.toNat ≤ storage.elim 0 (·.length) then
        some (storage.elim 0 (·.address)) else none := by
  cases storage with
  | none => simp [queueStorage]
  | some s => rfl

theorem comesDown_queue (c : QueueCall) (room : hasRoom (.queue c) = true) :
    ComesDown (.queue c) (queueRequest c) := by
  cases c with
  | createStatic length itemSize storage block kind =>
    have hstorage : queueStorage length itemSize storage = some (storage.elim 0 (·.address)) := by
      rw [queueStorage_eq, if_pos (of_decide_eq_true room)]
    refine ⟨address, ?_, fun a => .handle a.value⟩
    show queuePlan (.createStatic length itemSize storage block kind) = _
    rw [queuePlan, hstorage]
    rfl
  | getName target => exact ⟨text, rfl, fun a => .text a.string⟩
  | _ => exact ⟨_, rfl, fun a => by constructor⟩

theorem comesDown_eventGroup (c : EventGroupCall) :
    ComesDown (.eventGroup c) (eventGroupRequest c) := by
  cases c <;> exact ⟨_, rfl, fun a => by constructor⟩

theorem comesDown_stream (c : StreamCall) (room : hasRoom (.stream c) = true) :
    ComesDown (.stream c) (streamRequest c) := by
  cases c with
  | createStatic size triggerLevel isMessageBuffer storage block =>
    refine ⟨address, ?_, fun a => .handle a.value⟩
    show streamPlan (.createStatic size triggerLevel isMessageBuffer storage block) = _
    rw [streamPlan, if_neg (Nat.not_lt.2 (of_decide_eq_true room))]
    rfl
  | _ => exact ⟨_, rfl, fun a => by constructor⟩

theorem comesDown_heap (c : HeapCall) : ComesDown (.heap c) (heapRequest c) := by
  cases c <;> exact ⟨_, rfl, fun a => by constructor⟩

/-- The plan of a service asks for the tick count, and gives a command that is stamped with it. -/
structure Stamps (c : Call) (command : UInt32 → Invocation) : Prop where
  plan : plan c.underlying = .invoke ⟨.taskGetTickCount, []⟩ fun now =>
    .invoke (command now.word) fun a => .done (.code a.code)
  answer : ∀ code, c.answer (.code code) = .code code

/-- The plan of a service does what a request says, as far as the service has the storage it needs. -/
def CarriesOut (c : Call) : Request → Prop
  | .single i => hasRoom c = true → ComesDown c i
  | .stamped command => Stamps c command

theorem carriesOut_timer (c : TimerCall) : CarriesOut (.timer c) (timerRequest c) := by
  cases c with
  | start target ticks => exact ⟨rfl, fun _ => rfl⟩
  | reset target ticks => exact ⟨rfl, fun _ => rfl⟩
  | getName target => exact fun _ => ⟨text, rfl, fun a => .text a.string⟩
  | _ => exact fun _ => ⟨_, rfl, fun a => by constructor⟩

theorem carriesOut_request (c : Call) : CarriesOut c (request c) := by
  cases c with
  | task c => exact fun _ => comesDown_task c
  | queue c => exact comesDown_queue c
  | timer c => exact carriesOut_timer c
  | eventGroup c => exact fun _ => comesDown_eventGroup c
  | stream c => exact comesDown_stream c
  | heap c => exact fun _ => comesDown_heap c

theorem plan_of_no_room {c : Call} (h : hasRoom c = false) :
    plan c.underlying = .done (.address 0) ∧ c.answer (.address 0) = .address 0 := by
  cases c with
  | queue c =>
    cases c with
    | createStatic length itemSize storage block kind =>
      refine ⟨?_, rfl⟩
      show queuePlan (.createStatic length itemSize storage block kind) = _
      rw [queuePlan, queueStorage_eq, if_neg (of_decide_eq_false h)]
    | _ => cases h
  | stream c =>
    cases c with
    | createStatic size triggerLevel isMessageBuffer storage block =>
      refine ⟨?_, rfl⟩
      show streamPlan (.createStatic size triggerLevel isMessageBuffer storage block) = _
      rw [streamPlan, if_pos (Nat.not_le.1 (of_decide_eq_false h))]
    | _ => cases h
  | _ => cases h

/-! ## A kernel that is watched -/

/-- A kernel and the calls its functions got, with the level of the hart at each. -/
structure Watched (κ : Type) where
  kernel : κ
  calls : List Noted

variable {κ : Type} [KernelFunctions κ]

/-- Watching changes nothing: the functions answer as they do unwatched. -/
instance : KernelFunctions (Watched κ) where
  invoke privileged i k :=
    ((KernelFunctions.invoke privileged i k.kernel).1,
      ⟨(KernelFunctions.invoke privileged i k.kernel).2, k.calls ++ [⟨i, privileged⟩]⟩)

/-- The gate was raised and reset to the level it found, at the price of that, with nothing in between. -/
structure OneRegion (w w' : World κ) : Prop where
  gate : w'.gate = w.gate.raise.2.reset w.gate.isPrivileged
  level : w'.isPrivileged = w.isPrivileged
  cost : w'.ecalls = w.ecalls + if w.isPrivileged then 0 else 2

omit [KernelFunctions κ] in
theorem oneRegion_of_gate {w w' : World κ}
    (h : w'.gate = w.gate.raise.2.reset w.gate.isPrivileged) : OneRegion w w' := by
  obtain ⟨hlevel, hcost⟩ := Gate.raise_reset w.gate
  rw [← h] at hlevel hcost
  refine ⟨h, hlevel, ?_⟩
  unfold Gate.price at hcost
  show w'.gate.context.ecalls = w.gate.context.ecalls + if w.gate.isPrivileged then 0 else 2
  split at hcost
  · next hp => rw [if_pos hp]; omega
  · next hp => rw [if_neg hp]; omega

/-! ## One call through the gate -/

theorem gated_eq_plan (c : Call) (w : World κ) :
    World.gated c w = (.ok (c.answer ((plan c.underlying).run true w.kernel).1),
      ⟨w.gate.raise.2.reset w.gate.isPrivileged, ((plan c.underlying).run true w.kernel).2⟩) := by
  rw [World.gated_eq, World.raised_eq]
  rfl

theorem exported_eq (i : Invocation) (w : World κ) :
    exported i w =
      (i.function.signature.result.map (KernelFunctions.invoke true i w.kernel).1.result,
        ⟨w.gate.raise.2.reset w.gate.isPrivileged, (KernelFunctions.invoke true i w.kernel).2⟩) := by
  rw [exported, Gate.withPrivilege_eq, Gate.isPrivileged_raise]

/-! ## Agreement -/

/-- A service through the gate and the exported wrapper for an invocation do the same. -/
structure SameService (c : Call) (i : Invocation) (w : World (Watched κ)) : Prop where
  suits : Suits c i
  calls_service : (World.gated c w).2.kernel.calls = w.kernel.calls ++ [⟨i, true⟩]
  calls_export : (exported i w).2.kernel.calls = w.kernel.calls ++ [⟨i, true⟩]
  result_export : (exported i w).1 =
    i.function.signature.result.map (KernelFunctions.invoke true i w.kernel.kernel).1.result
  result_service : ∃ reply, (World.gated c w).1 = .ok reply ∧ Returns reply (exported i w).1
  world : (World.gated c w).2 = (exported i w).2
  region : OneRegion w (exported i w).2

/-- In a world, a service is refused without a call of any kernel function. -/
structure Refused (c : Call) (w : World (Watched κ)) : Prop where
  reply : (World.gated c w).1 = .ok (.address 0)
  kernel : (World.gated c w).2.kernel = w.kernel
  region : OneRegion w (World.gated c w).2

/-- Asks a kernel for the tick count, on a privileged hart. -/
def askTime (k : κ) : Answer × κ := KernelFunctions.invoke true ⟨.taskGetTickCount, []⟩ k

/-- A service asks for the tick count and gives a command with what it was told, both in one region. -/
structure StampedService (c : Call) (command : UInt32 → Invocation) (w : World (Watched κ)) : Prop where
  suits : ∀ now, Suits c (command now)
  calls : (World.gated c w).2.kernel.calls = w.kernel.calls ++
    [⟨⟨.taskGetTickCount, []⟩, true⟩, ⟨command (askTime w.kernel.kernel).1.word, true⟩]
  reply : (World.gated c w).1 = .ok (.code (KernelFunctions.invoke true
    (command (askTime w.kernel.kernel).1.word) (askTime w.kernel.kernel).2).1.code)
  region : OneRegion w (World.gated c w).2

theorem sameService_of_comesDown {c : Call} {i : Invocation} (suits : Suits c i)
    (h : ComesDown c i) (w : World (Watched κ)) : SameService c i w := by
  obtain ⟨reply, hplan, hreply⟩ := h
  have hservice : World.gated c w = (.ok (c.answer (reply (KernelFunctions.invoke true i w.kernel).1)),
      (exported i w).2) := by
    rw [gated_eq_plan, exported_eq, hplan]
    rfl
  constructor
  case suits => exact suits
  case calls_service => rw [hservice, exported_eq]; rfl
  case calls_export => rw [exported_eq]; rfl
  case result_export => rw [exported_eq]; rfl
  case result_service =>
    refine ⟨_, congrArg Prod.fst hservice, ?_⟩
    rw [exported_eq]
    exact hreply _
  case world => rw [hservice]
  case region => exact oneRegion_of_gate (by rw [exported_eq])

theorem refused_of_no_room {c : Call} (h : hasRoom c = false) (w : World (Watched κ)) :
    Refused c w := by
  obtain ⟨hplan, hanswer⟩ := plan_of_no_room h
  have hgated : World.gated c w =
      (.ok (.address 0), ⟨w.gate.raise.2.reset w.gate.isPrivileged, w.kernel⟩) := by
    rw [gated_eq_plan, hplan]
    show (Except.ok (c.answer (.address 0)), _) = _
    rw [hanswer]
    rfl
  constructor
  case reply => rw [hgated]
  case kernel => rw [hgated]
  case region => exact oneRegion_of_gate (by rw [hgated])

theorem stampedService_of_stamps {c : Call} {command : UInt32 → Invocation}
    (suits : ∀ now, Suits c (command now)) (h : Stamps c command) (w : World (Watched κ)) :
    StampedService c command w := by
  constructor
  case suits => exact suits
  case calls =>
    rw [gated_eq_plan, h.plan]
    exact List.append_assoc ..
  case reply =>
    rw [gated_eq_plan, h.plan]
    exact congrArg Except.ok (h.answer _)
  case region => exact oneRegion_of_gate (by rw [gated_eq_plan])

/-- The gated services and the exported wrappers are the same service, whatever the kernel functions do and at
whatever level the caller is: the same call on a privileged hart, the same result, one region. Only a queue or
a stream buffer without the storage it needs is refused, without any call. -/
theorem gated_agrees_with_exports (c : Call) (w : World (Watched κ)) :
    match request c with
    | .single i => if hasRoom c then SameService c i w else Refused c w
    | .stamped command => StampedService c command w := by
  have hsuits := request_suits c
  have hplan := carriesOut_request c
  cases hr : request c with
  | single i =>
    rw [hr] at hsuits hplan
    show if hasRoom c then SameService c i w else Refused c w
    split
    · next room => exact sameService_of_comesDown hsuits (hplan room) w
    · next room => exact refused_of_no_room (Bool.eq_false_iff.2 room) w
  | stamped command =>
    rw [hr] at hsuits hplan
    exact stampedService_of_stamps hsuits hplan w

/-! ## Storage that is too short -/

/-- A queue of four items of eight bytes each, in storage of which one byte is missing. -/
def shortQueue : Call := .queue (.createStatic 4 8 (some ⟨0x1000, 31⟩) 0x2000 .base)

/-- The request of that queue: the storage is passed by its start alone, without its length. -/
def shortQueueRequest : Invocation :=
  ⟨.queueGenericCreateStatic, [.word 4, .word 8, .pointer 0x1000, .pointer 0x2000, .byte 0]⟩

/-- The wrapper asks the kernel for the queue, the service does not. -/
theorem shortQueue_reaches_kernel_by_export_only :
    let w : World (Watched Scripted) := .boot ⟨.boot, []⟩
    request shortQueue = .single shortQueueRequest ∧
      (exported shortQueueRequest w).2.kernel.calls = [⟨shortQueueRequest, true⟩] ∧
      (World.gated shortQueue w).2.kernel.calls = [] ∧
      ¬ SameService shortQueue shortQueueRequest w := by
  intro w
  have hgated : (World.gated shortQueue w).2.kernel.calls = [] := by
    rw [gated_eq_plan]
    rfl
  refine ⟨rfl, ?_, hgated, fun h => ?_⟩
  · rw [exported_eq]
    rfl
  · have := h.calls_service
    rw [hgated] at this
    cases this

end Sallyport.Foreign
