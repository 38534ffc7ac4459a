/-
How a launch ends: before it gets to the kernel, with nothing changed, or as the kernel answers the one
call it is asked. Nothing is assumed of the kernel but that its creation of restricted tasks returns
(`CreatesTasks`); that it is asked once is read off an account of its calls (`Accounted`).
-/
import Sallyport.Foreign.Binding
import Sallyport.Launch
import Sallyport.Proofs.Trampoline.Transparent

namespace Sallyport

/-! ## Kernels -/

/-- Creating a restricted task returns, with any code and any handle or none in the slot of the caller. -/
class CreatesTasks (κ : Type) [CallServer κ] : Prop where
  creates (privileged : Bool) (placement : Placement) (definition : Ref TaskDefinition) (slot : Ref Address) (k : κ) :
    ∃ (code : Int32) (written : Option (Handle .task)),
      (CallServer.run privileged (placement.call definition slot) k).1 =
        .ok (.created code (some (Handle.toAddress written)))

theorem CreatesTasks.of_address {κ : Type} [CallServer κ]
    (h : ∀ privileged (placement : Placement) definition slot (k : κ), ∃ (code : Int32) (value : Address),
      (CallServer.run privileged (placement.call definition slot) k).1 = .ok (.created code (some value))) :
    CreatesTasks κ where
  creates privileged placement definition slot k := by
    obtain ⟨code, value, hvalue⟩ := h privileged placement definition slot k
    exact ⟨code, Handle.ofAddress? value, by rw [Handle.toAddress_ofAddress?, hvalue]⟩

instance : CreatesTasks Host.Kernel := by
  refine .of_address fun privileged placement definition slot k => ?_
  have hcreates : ∃ code value, (Host.Tasks.createRestricted definition.value (some slot) k.tasks).1 =
      .created code (some value) := by
    unfold Host.Tasks.createRestricted
    dsimp only
    split
    · exact ⟨_, _, rfl⟩
    · exact ⟨_, _, rfl⟩
  obtain ⟨code, value, hvalue⟩ := hcreates
  cases placement with
  | dynamic => exact ⟨code, value, congrArg Except.ok hvalue⟩
  | static =>
    -- Without a task buffer the kernel refuses, and leaves the slot as it was.
    have hstep : ∃ code value, (Host.Tasks.step (.createRestrictedStatic definition (some slot)) k.tasks).1 =
        .ok (.created code (some value)) := by
      unfold Host.Tasks.step
      dsimp only
      split
      · exact ⟨_, _, rfl⟩
      · exact ⟨code, value, congrArg Except.ok hvalue⟩
    exact hstep

/-- Kernel functions create tasks through their binding, whatever they answer. -/
instance {κ : Type} [Foreign.KernelFunctions κ] : CreatesTasks κ := by
  refine .of_address fun privileged placement definition slot k => ?_
  cases placement with
  | dynamic => exact ⟨_, _, rfl⟩
  | static => exact ⟨_, _, rfl⟩

/-- A kernel with an account of the calls that reach it and of the level each is made at. -/
structure Accounted (κ : Type) where
  kernel : κ
  calls : List (Bool × Call)

instance {κ : Type} [CallServer κ] : CallServer (Accounted κ) where
  run privileged call k :=
    let (reply, kernel) := CallServer.run privileged call k.kernel
    (reply, ⟨kernel, k.calls ++ [(privileged, call)]⟩)

theorem Accounted.run_eq {κ : Type} [CallServer κ] (privileged : Bool) (call : Call) (k : Accounted κ) :
    CallServer.run privileged call k = ((CallServer.run privileged call k.kernel).1,
      ⟨(CallServer.run privileged call k.kernel).2, k.calls ++ [(privileged, call)]⟩) := rfl

open Transparency (servedAt passed cost)

theorem World.call_creation {κ : Type} [CallServer κ] (route : Route) (placement : Placement)
    (definition : Ref TaskDefinition) (slot : Ref Address) (w : World κ) :
    World.call route (placement.call definition slot) w =
      ((CallServer.run (servedAt route w.gate) (placement.call definition slot) w.kernel).1,
        ⟨passed route w.gate, (CallServer.run (servedAt route w.gate) (placement.call definition slot) w.kernel).2⟩) := by
  cases route with
  | direct => rfl
  | gated =>
    have hunderlying : (placement.call definition slot).underlying = placement.call definition slot := by
      cases placement <;> rfl
    have hwhole : ∀ reply, (placement.call definition slot).answer reply = reply := by
      intro reply
      cases placement <;> rfl
    show World.gated _ w = _
    rw [World.gated_eq, World.raised_eq, hunderlying, Call.map_answer_of_whole hwhole]
    rfl

/-! ## The descriptor -/

namespace RestrictedTask

/-- A descriptor that says what is known of a task. -/
structure Describes (t : RestrictedTask) (d : TaskDefinition) : Prop where
  entry : d.entry = t.entry
  name : d.name = t.name
  stackDepth : d.stackDepth.toNat = t.stack.length
  parameters : d.parameters = t.parameters
  priority : d.priority = t.priority
  stack : d.stack = t.stack.address
  regions : d.regions = t.regions
  taskBuffer : d.taskBuffer = t.taskBuffer.getD 0

theorem definition_of_lt {t : RestrictedTask} (h : 65535 < t.stack.length) : t.definition = .error .stackTooLarge :=
  if_pos h

theorem definition_of_le {t : RestrictedTask} (h : t.stack.length ≤ 65535) :
    ∃ d, t.definition = .ok d ∧ t.Describes d := by
  unfold definition
  rw [if_neg (Nat.not_lt.2 h)]
  exact ⟨_, rfl, rfl, rfl, UInt16.toNat_ofNat_of_lt' (Nat.lt_succ_of_le h), rfl, rfl, rfl, rfl, rfl⟩

end RestrictedTask

/-- Whether a launch lacks a task buffer that it needs. -/
def Placement.LacksBuffer (p : Placement) (t : RestrictedTask) : Prop := p = .static ∧ t.taskBuffer = none
  deriving Decidable

theorem Placement.definition_of_lacksBuffer {p : Placement} {t : RestrictedTask} (h : p.LacksBuffer t) :
    p.definition t = .error .noTaskBuffer := if_pos h

theorem Placement.definition_of_not_lacksBuffer {p : Placement} {t : RestrictedTask} (h : ¬ p.LacksBuffer t) :
    p.definition t = t.definition := if_neg h

namespace Launcher

variable {κ : Type}

/-! ## The answer of the kernel -/

/-- The event that a creation is worth. -/
def eventOf (code : Int32) (written : Option (Handle .task)) : LaunchEvent :=
  if code = Code.pass then written.elim .noHandle fun h => .created h.address else .refused code

structure Ends (code : Int32) (written : Option (Handle .task)) (outcome : Except LaunchError (Handle .task)) :
    Prop where
  refused : outcome = .error (.kernel code) ↔ code ≠ Code.pass
  noHandle : outcome = .error .noHandle ↔ code = Code.pass ∧ written = none
  created (h : Handle .task) : outcome = .ok h ↔ code = Code.pass ∧ written = some h

/-- What the kernel answers is never one of the errors found before it is asked. -/
theorem Ends.answered {code : Int32} {written : Option (Handle .task)}
    {outcome : Except LaunchError (Handle .task)} (h : Ends code written outcome) :
    outcome ≠ .error .noTaskBuffer ∧ outcome ≠ .error .stackTooLarge := by
  by_cases hcode : code = Code.pass
  · cases hwritten : written with
    | none =>
      rw [h.noHandle.2 ⟨hcode, hwritten⟩]
      simp
    | some handle =>
      rw [(h.created handle).2 ⟨hcode, hwritten⟩]
      simp
  · rw [h.refused.2 hcode]
    simp

theorem finish_eq (code : Int32) (written : Option (Handle .task)) (l : Launcher κ) :
    Ends code written (finish code (Handle.toAddress written) l).1 ∧
      (finish code (Handle.toAddress written) l).2 = l.record (eventOf code written) := by
  unfold finish eventOf
  by_cases hcode : code = Code.pass
  · subst hcode
    rw [if_neg (by simp), if_pos rfl, Handle.ofAddress?_toAddress]
    cases written with
    | none => exact ⟨⟨by simp, by simp, by simp⟩, rfl⟩
    | some h => exact ⟨⟨by simp, by simp, fun h' => by simp⟩, rfl⟩
  · rw [if_pos hcode, if_neg hcode]
    exact ⟨⟨by simp [hcode], by simp [hcode], by simp [hcode]⟩, rfl⟩

/-! ## Launches -/

variable [CallServer κ]

/-- What a launch that can be described comes to, by what the kernel answers. -/
structure Asked (route : Route) (call : Call) (code : Int32) (written : Option (Handle .task))
    (outcome : Except LaunchError (Handle .task)) (l l' : Launcher (Accounted κ)) : Prop where
  answered : CallServer.run (servedAt route l.world.gate) call l.world.kernel.kernel =
    (.ok (.created code (some (Handle.toAddress written))), l'.world.kernel.kernel)
  once : l'.world.kernel.calls = l.world.kernel.calls ++ [(servedAt route l.world.gate, call)]
  ends : Ends code written outcome
  traced : l'.trace = (l.record (eventOf code written)).trace
  level : l'.world.isPrivileged = l.world.isPrivileged
  price : (l'.world.ecalls : Int) - l.world.ecalls = cost route l.world.gate

theorem launch_of_error {placement : Placement} {task : RestrictedTask} {e : LaunchError}
    (h : placement.definition task = .error e) (route : Route) (definitionAt slotAt : Address) (l : Launcher κ) :
    launch route placement task definitionAt slotAt l = (.ok (.error e), l) := by
  unfold launch
  rw [h]

theorem launch_of_created {placement : Placement} {task : RestrictedTask} {d : TaskDefinition} {route : Route}
    {definitionAt slotAt : Address} {code : Int32} {written : Option (Handle .task)} {l : Launcher κ} {world : World κ}
    (h : placement.definition task = .ok d)
    (hcall : World.call route (placement.call ⟨definitionAt, d⟩ ⟨slotAt, 0⟩) l.world =
      (.ok (.created code (some (Handle.toAddress written))), world)) :
    ∃ outcome, Ends code written outcome ∧ launch route placement task definitionAt slotAt l =
      (.ok outcome, ⟨world, (l.record (eventOf code written)).trace⟩) := by
  obtain ⟨hends, hafter⟩ := finish_eq code written { l with world }
  refine ⟨_, hends, ?_⟩
  unfold launch
  rw [h]
  dsimp only
  rw [hcall]
  dsimp only [Reply.creation, Option.getD_some]
  rw [hafter]
  rfl

theorem asked_of_ok [CreatesTasks κ] {placement : Placement} {task : RestrictedTask} {d : TaskDefinition}
    (h : placement.definition task = .ok d) (route : Route) (definitionAt slotAt : Address)
    (l : Launcher (Accounted κ)) :
    ∃ code written outcome, (launch route placement task definitionAt slotAt l).1 = .ok outcome ∧
      Asked route (placement.call ⟨definitionAt, d⟩ ⟨slotAt, 0⟩) code written outcome l
        (launch route placement task definitionAt slotAt l).2 := by
  obtain ⟨code, written, hanswer⟩ := CreatesTasks.creates (servedAt route l.world.gate) placement
    ⟨definitionAt, d⟩ ⟨slotAt, 0⟩ l.world.kernel.kernel
  have hcall := World.call_creation route placement ⟨definitionAt, d⟩ ⟨slotAt, 0⟩ l.world
  rw [Accounted.run_eq, hanswer] at hcall
  obtain ⟨outcome, hends, hlaunch⟩ := launch_of_created h hcall
  refine ⟨code, written, outcome, by rw [hlaunch], ?_⟩
  rw [hlaunch]
  exact {
    answered := Prod.ext hanswer rfl
    once := rfl
    ends := hends
    traced := rfl
    level := Transparency.isPrivileged_passed route l.world.gate
    price := Transparency.ecalls_passed route l.world.gate }

/-- A launch without a task buffer it needs, or else with a stack of more than 65535 words, ends with that
error and changes nothing. In every other case the kernel is asked once, with the descriptor of the caller,
and its answer is the end of the launch. -/
theorem launch_ends_as_answered [CreatesTasks κ] (route : Route) (placement : Placement) (task : RestrictedTask)
    (definitionAt slotAt : Address) (l : Launcher (Accounted κ)) :
    ((launch route placement task definitionAt slotAt l).1 = .ok (.error .noTaskBuffer) ↔
        placement.LacksBuffer task) ∧
      ((launch route placement task definitionAt slotAt l).1 = .ok (.error .stackTooLarge) ↔
        ¬ placement.LacksBuffer task ∧ 65535 < task.stack.length) ∧
      (placement.LacksBuffer task ∨ 65535 < task.stack.length →
        (launch route placement task definitionAt slotAt l).2 = l) ∧
      (¬ placement.LacksBuffer task → task.stack.length ≤ 65535 →
        ∃ d code written outcome, task.Describes d ∧
          (launch route placement task definitionAt slotAt l).1 = .ok outcome ∧
          Asked route (placement.call ⟨definitionAt, d⟩ ⟨slotAt, 0⟩) code written outcome l
            (launch route placement task definitionAt slotAt l).2) := by
  by_cases hbuffer : placement.LacksBuffer task
  · rw [launch_of_error (Placement.definition_of_lacksBuffer hbuffer)]
    exact ⟨by simp [hbuffer], by simp [hbuffer], fun _ => rfl, fun h => absurd hbuffer h⟩
  · have hdefinition := Placement.definition_of_not_lacksBuffer hbuffer
    rcases Nat.lt_or_ge 65535 task.stack.length with hlong | hfits
    · rw [launch_of_error (hdefinition.trans (RestrictedTask.definition_of_lt hlong))]
      exact ⟨by simp [hbuffer], by simp [hbuffer, hlong], fun _ => rfl, fun _ h => absurd hlong (Nat.not_lt.2 h)⟩
    · obtain ⟨d, hd, hdescribes⟩ := RestrictedTask.definition_of_le hfits
      obtain ⟨code, written, outcome, hresult, hasked⟩ :=
        asked_of_ok (hdefinition.trans hd) route definitionAt slotAt l
      have hanswered := hasked.ends.answered
      refine ⟨?_, ?_, ?_, fun _ _ => ⟨d, code, written, outcome, hdescribes, hresult, hasked⟩⟩
      · rw [hresult]
        exact ⟨fun h => absurd (Except.ok.inj h) hanswered.1, fun h => absurd h hbuffer⟩
      · rw [hresult]
        exact ⟨fun h => absurd (Except.ok.inj h) hanswered.2, fun h => absurd h.2 (Nat.not_lt.2 hfits)⟩
      · rintro (h | h)
        · exact absurd h hbuffer
        · exact absurd h (Nat.not_lt.2 hfits)

/-- A task with a stack of some words, and a task buffer or none. -/
def taskOf (words : Nat) (taskBuffer : Option Address) : RestrictedTask where
  entry := 0x1c010000
  name := ⟨0x1c0000f0, "worker"⟩
  stack := ⟨0x1c020000, words⟩
  parameters := 0
  priority := 3
  regions := Mpu.Regions.unused
  taskBuffer := taskBuffer

/-- A host kernel that refuses every restricted task, with a caller at user level. -/
def refusing : Launcher (Accounted Host.Kernel) :=
  boot (World.boot ⟨Host.Kernel.boot { Host.Settings.default with createResult := -3 }, []⟩ |>.atLevel false)

theorem refusing_answers_gated_launches :
    (launch .gated .static (taskOf 70000 none) 0x1c030000 0x1c030100 refusing).1 = .ok (.error .noTaskBuffer) ∧
      (launch .gated .dynamic (taskOf 65536 none) 0x1c030000 0x1c030100 refusing).1 =
        .ok (.error .stackTooLarge) ∧
      (launch .gated .dynamic (taskOf 65536 none) 0x1c030000 0x1c030100 refusing).2 = refusing ∧
      (launch .gated .static (taskOf 65535 (some 0x1c040000)) 0x1c030000 0x1c030100 refusing).1 =
        .ok (.error (.kernel (-3))) ∧
      (launch .gated .static (taskOf 65535 (some 0x1c040000)) 0x1c030000 0x1c030100 refusing).2.world.isPrivileged =
        false ∧
      (launch .gated .static (taskOf 65535 (some 0x1c040000)) 0x1c030000 0x1c030100 refusing).2.world.ecalls = 2 ∧
      ∃ d, (taskOf 65535 (some 0x1c040000)).Describes d ∧
        (launch .gated .static (taskOf 65535 (some 0x1c040000)) 0x1c030000 0x1c030100 refusing).2.world.kernel.calls =
          [(true, .task (.createRestrictedStatic ⟨0x1c030000, d⟩ (some ⟨0x1c030100, 0⟩)))] := by
  obtain ⟨hnone, -, -, -⟩ := launch_ends_as_answered .gated .static (taskOf 70000 none) 0x1c030000 0x1c030100 refusing
  obtain ⟨-, hlong, hkept, -⟩ :=
    launch_ends_as_answered .gated .dynamic (taskOf 65536 none) 0x1c030000 0x1c030100 refusing
  obtain ⟨-, -, -, hasked⟩ :=
    launch_ends_as_answered .gated .static (taskOf 65535 (some 0x1c040000)) 0x1c030000 0x1c030100 refusing
  obtain ⟨d, code, written, outcome, hd, -, hask⟩ := hasked (by decide) (by decide)
  refine ⟨hnone.2 (by decide), hlong.2 (by decide), hkept (.inr (by decide)), rfl, hask.level, ?_, d, hd, hask.once⟩
  have hprice : (_ : Int) - (0 : Nat) = 2 := hask.price
  omega

end Launcher

end Sallyport
