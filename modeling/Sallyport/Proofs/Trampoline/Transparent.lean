/-
The trampoline is transparent: each call shows the same through the gate as it does directly, is served
privileged, and costs two environment calls for a caller at user level and none for a privileged one. One
call comes down, on both routes, to how the kernel serves it, at which level, and what happens to the
gate (`call_eq`).
-/
import Sallyport.Trampoline.Transparency
import Sallyport.Proofs.Gate.Level
import Sallyport.Proofs.Host.Log

namespace Sallyport

/-! ## A region on the hart -/

namespace Gate

/-- What a caller at a level pays for a region. -/
def price (level : Bool) : Int := if level then 0 else 2

/-- The level comes back, and a caller at user level pays one environment call for each. -/
theorem raise_reset (g : Gate Hart) :
    (g.raise.2.reset g.isPrivileged).isPrivileged = g.isPrivileged ∧
      ((g.raise.2.reset g.isPrivileged).context.ecalls : Int) = g.context.ecalls + price g.isPrivileged := by
  constructor
  · rw [isPrivileged_reset, isPrivileged_raise, Bool.and_true]
  · rw [context_reset, context_raise]
    cases g.isPrivileged with
    | true => simp [price]
    | false =>
      simp only [Bool.false_eq_true, if_false, Hart.ecalls_setPrivileged, price]
      omega

end Gate

/-! ## One call -/

/-- A service without a reply of its own gives back whole what was forwarded for it. -/
theorem Call.map_answer_of_whole {c : Call} (h : ∀ reply, c.answer reply = reply) (result : Except Fault Reply) :
    result.map c.answer = result := by
  cases result with
  | error fault => rfl
  | ok reply => exact congrArg Except.ok (h reply)

namespace World

variable {κ : Type} [CallServer κ]

/-- A call in a region reaches the kernel privileged, and the gate is raised and reset around it. -/
theorem raised_eq (c : Call) (w : World κ) :
    raised c w = ((CallServer.run true c w.kernel).1,
      ⟨w.gate.raise.2.reset w.gate.isPrivileged, (CallServer.run true c w.kernel).2⟩) := by
  rw [raised, Gate.withPrivilege_eq, Gate.isPrivileged_raise]

theorem gated_eq (c : Call) (w : World κ) :
    gated c w = ((raised c.underlying w).1.map c.answer, (raised c.underlying w).2) := by
  unfold gated
  obtain ⟨reply, w'⟩ := raised c.underlying w
  cases reply <;> rfl

end World

namespace Transparency

open Host (Kernel)

theorem run_underlying (privileged : Bool) (c : Call) (k : Kernel) :
    Kernel.run privileged c k =
      ((Kernel.run privileged c.underlying k).1.map c.answer, (Kernel.run privileged c.underlying k).2) := by
  -- Only timer commands have a reply of their own.
  cases c with
  | timer c => cases c <;> rfl
  | queue c =>
    rw [Call.map_answer_of_whole fun _ => rfl]
    cases c <;> rfl
  | _ =>
    rw [Call.map_answer_of_whole fun _ => rfl]
    rfl

/-- What a call shows. -/
structure Observation where
  /-- The result with the out-parameters, or the panic. -/
  reply : Except Fault Reply
  /-- What the call added to the log of the kernel. -/
  logged : List Host.Logged
  /-- The kernel it left, without the log. -/
  kernel : Kernel
  level : Bool
  /-- The environment calls it took. -/
  cost : Int

/-- The part of an observation that has to be the same on both routes. -/
def Observation.shown (o : Observation) : Except Fault Reply × List String × Kernel :=
  (o.reply, o.logged.map (·.name), o.kernel)

/-- Makes a call and looks at what came of it. -/
def observe (route : Route) (c : Call) (w : World Kernel) : Observation where
  reply := (World.call route c w).1
  logged := (World.call route c w).2.kernel.log.drop w.kernel.log.length
  kernel := (World.call route c w).2.kernel.unlogged
  level := (World.call route c w).2.isPrivileged
  cost := (World.call route c w).2.ecalls - w.ecalls

/-- Makes calls one after another and looks at each. -/
def observations (route : Route) : List Call → World Kernel → List Observation
  | [], _ => []
  | c :: cs, w => observe route c w :: observations route cs (World.call route c w).2

/-- The level at which the kernel serves a call. -/
def servedAt : Route → Gate Hart → Bool
  | .direct, gate => gate.isPrivileged
  | .gated, _ => true

/-- The gate once a call is over. -/
def passed : Route → Gate Hart → Gate Hart
  | .direct, gate => gate
  | .gated, gate => gate.raise.2.reset gate.isPrivileged

/-- What a call costs. -/
def cost : Route → Gate Hart → Int
  | .direct, _ => 0
  | .gated, gate => Gate.price gate.isPrivileged

theorem isPrivileged_passed (route : Route) (gate : Gate Hart) :
    (passed route gate).isPrivileged = gate.isPrivileged := by
  cases route with
  | direct => rfl
  | gated => exact (Gate.raise_reset gate).1

theorem ecalls_passed (route : Route) (gate : Gate Hart) :
    ((passed route gate).context.ecalls : Int) - gate.context.ecalls = cost route gate := by
  cases route with
  | direct => exact Int.sub_self _
  | gated =>
    have h := (Gate.raise_reset gate).2
    simp only [passed, cost]
    omega

/-- A call on a route: the kernel serves it and logs it with the level of the route. -/
theorem call_eq (route : Route) (c : Call) (w : World Kernel) :
    World.call route c w = ((Kernel.serve c w.kernel).1, ⟨passed route w.gate,
      { (Kernel.serve c w.kernel).2 with log := w.kernel.log ++ Kernel.entries (servedAt route w.gate) c }⟩) := by
  have hrun : World.call route c w = ((Kernel.run (servedAt route w.gate) c w.kernel).1,
      ⟨passed route w.gate, (Kernel.run (servedAt route w.gate) c w.kernel).2⟩) := by
    cases route with
    | direct => rfl
    | gated =>
      -- What the gate forwards is the underlying service, which the kernel serves like the call itself.
      show World.gated c w = _
      rw [World.gated_eq, World.raised_eq, run_underlying _ c]
      rfl
  rw [hrun, Kernel.run_eq]

theorem observe_eq (route : Route) (c : Call) (w : World Kernel) :
    observe route c w =
      { reply := (Kernel.serve c w.kernel).1
        logged := Kernel.entries (servedAt route w.gate) c
        kernel := (Kernel.serve c w.kernel).2.unlogged
        level := w.gate.isPrivileged
        cost := cost route w.gate } := by
  unfold observe
  rw [call_eq, ← ecalls_passed, ← isPrivileged_passed route]
  simp only [List.drop_left]
  rfl

/-! ## Runs -/

/-- Runs of the same calls show the same if their kernels agree but for the logs. -/
theorem shown_congr (route route' : Route) (cs : List Call) : ∀ (w w' : World Kernel),
    w.kernel.unlogged = w'.kernel.unlogged →
      (observations route cs w).map Observation.shown = (observations route' cs w').map Observation.shown := by
  induction cs with
  | nil => intro w w' _; rfl
  | cons c cs ih =>
    intro w w' h
    obtain ⟨hreply, hkernel⟩ := Kernel.serve_congr h c
    have hone : (observe route c w).shown = (observe route' c w').shown := by
      rw [observe_eq, observe_eq]
      simp only [Observation.shown, Kernel.names_entries, hreply, hkernel]
    have hnext : (World.call route c w).2.kernel.unlogged = (World.call route' c w').2.kernel.unlogged := by
      rw [call_eq, call_eq]
      exact hkernel
    rw [observations, observations, List.map_cons, List.map_cons, hone, ih _ _ hnext]

/-- Every call is served at the level of its route, gives the level back, and has the price of its route. -/
theorem mem_observations (route : Route) (cs : List Call) : ∀ (w : World Kernel), ∀ o ∈ observations route cs w,
    (∀ e ∈ o.logged, e.privileged = servedAt route w.gate) ∧ o.level = w.isPrivileged ∧
      o.cost = cost route w.gate := by
  induction cs with
  | nil => intro w o ho; cases ho
  | cons c cs ih =>
    intro w o ho
    rcases List.mem_cons.1 ho with rfl | ho
    · rw [observe_eq]
      exact ⟨fun e he => Kernel.privileged_of_mem_entries he, rfl, rfl⟩
    · have hlevel : (World.call route c w).2.gate.isPrivileged = w.gate.isPrivileged := by
        rw [call_eq]
        exact isPrivileged_passed route w.gate
      obtain ⟨hlogged, hl, hc⟩ := ih _ o ho
      refine ⟨fun e he => (hlogged e he).trans ?_, hl.trans hlevel, hc.trans ?_⟩
      · cases route with
        | direct => exact hlevel
        | gated => rfl
      · cases route with
        | direct => rfl
        | gated => exact congrArg Gate.price hlevel

theorem calls_eq_observations (route : Route) (cs : List Call) : ∀ w : World Kernel,
    (World.calls route cs w).1 = (observations route cs w).map (·.reply) ∧
      (World.calls route cs w).2.kernel.log = w.kernel.log ++ (observations route cs w).flatMap (·.logged) := by
  induction cs with
  | nil => intro w; exact ⟨rfl, (List.append_nil _).symm⟩
  | cons c cs ih =>
    intro w
    obtain ⟨hreplies, hlog⟩ := ih (World.call route c w).2
    constructor
    · show (World.call route c w).1 :: (World.calls route cs (World.call route c w).2).1 = _
      rw [hreplies]
      rfl
    · show (World.calls route cs (World.call route c w).2).2.kernel.log = _
      rw [hlog, observations, List.flatMap_cons, observe_eq, call_eq]
      simp only [List.append_assoc]

/-- The trampoline is transparent: calls made through the gate and directly show the same one by one, panics
included. Through the gate each is served privileged, gives back the level of the caller, and costs two
environment calls from user level and none from machine level. -/
theorem gated_transparent (cs : List Call) (kernel : Kernel) (gate plain : Gate Hart) :
    (observations .gated cs ⟨gate, kernel⟩).map Observation.shown =
        (observations .direct cs ⟨plain, kernel⟩).map Observation.shown ∧
      (∀ o ∈ observations .gated cs ⟨gate, kernel⟩, (∀ e ∈ o.logged, e.privileged = true) ∧
        o.level = gate.isPrivileged ∧ o.cost = if gate.isPrivileged then 0 else 2) ∧
      (World.calls .gated cs ⟨gate, kernel⟩).1 = (World.calls .direct cs ⟨plain, kernel⟩).1 ∧
      (World.calls .gated cs ⟨gate, kernel⟩).2.kernel.log =
        kernel.log ++ (observations .gated cs ⟨gate, kernel⟩).flatMap (·.logged) ∧
      (World.calls .direct cs ⟨plain, kernel⟩).2.kernel.log =
        kernel.log ++ (observations .direct cs ⟨plain, kernel⟩).flatMap (·.logged) := by
  have hshown := shown_congr .gated .direct cs ⟨gate, kernel⟩ ⟨plain, kernel⟩ rfl
  obtain ⟨hgated, hgatedLog⟩ := calls_eq_observations .gated cs ⟨gate, kernel⟩
  obtain ⟨hdirect, hdirectLog⟩ := calls_eq_observations .direct cs ⟨plain, kernel⟩
  refine ⟨hshown, mem_observations .gated cs ⟨gate, kernel⟩, ?_, hgatedLog, hdirectLog⟩
  have := congrArg (List.map Prod.fst) hshown
  rw [List.map_map, List.map_map] at this
  rw [hgated, hdirect]
  exact this

end Transparency

end Sallyport
