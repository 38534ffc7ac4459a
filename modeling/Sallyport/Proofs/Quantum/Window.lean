/-
No request waits longer than one quantum: among as many consecutive ticks as the quantum has there is a
boundary. Where the tick counter starts over it is at zero, which is a boundary of every quantum.
-/
import Sallyport.Machine
import Sallyport.Proofs.Quantum

namespace Sallyport.QuantumGate

/-! ## Consecutive ticks -/

/-- Calls on consecutive ticks, one for each request. The tick counter is a word: after its largest
value it starts over at zero. -/
def onTicks : UInt32 → List UInt32 → List (UInt32 × UInt32)
  | _, [] => []
  | tick, schedule :: schedules => (tick, schedule) :: onTicks (tick + 1) schedules

theorem getElem?_onTicks (schedules : List UInt32) : ∀ (tick : UInt32) (k : ℕ),
    (onTicks tick schedules)[k]? = schedules[k]?.map fun schedule => (tick + UInt32.ofNat k, schedule) := by
  induction schedules with
  | nil => intro tick k; rfl
  | cons schedule schedules ih =>
    intro tick k
    cases k with
    | zero => simp [onTicks]
    | succ k =>
      simp only [onTicks, List.getElem?_cons_succ, ih]
      have hnext : tick + 1 + UInt32.ofNat k = tick + UInt32.ofNat (k + 1) := by
        rw [UInt32.ofNat_add, UInt32.add_assoc, UInt32.add_comm 1]
        rfl
      rw [hnext]

theorem exists_boundary {quantum : UInt32} (h : quantum ≠ 0) (tick : UInt32) :
    ∃ k < quantum.toNat, (tick + UInt32.ofNat k) % quantum = 0 := by
  have hquantum : 0 < quantum.toNat := Nat.pos_of_ne_zero fun h0 => h (UInt32.toNat_inj.1 h0)
  have hlt := quantum.toNat_lt
  have htick := tick.toNat_lt
  -- How far the next multiple of the quantum is, were the ticks not to start over.
  obtain ⟨k, hk, hmul⟩ : ∃ k < quantum.toNat, (tick.toNat + k) % quantum.toNat = 0 := by
    rcases Nat.eq_zero_or_pos (tick.toNat % quantum.toNat) with hz | hpos
    · exact ⟨0, hquantum, hz⟩
    · refine ⟨quantum.toNat - tick.toNat % quantum.toNat, by omega, ?_⟩
      have hle := Nat.mod_lt tick.toNat hquantum
      rw [Nat.add_mod, Nat.mod_eq_of_lt (show quantum.toNat - tick.toNat % quantum.toNat < _ by omega),
        Nat.add_sub_cancel' hle.le, Nat.mod_self]
  have hword : ∀ j < quantum.toNat, (tick + UInt32.ofNat j).toNat = (tick.toNat + j) % 2 ^ 32 := by
    intro j hj
    rw [UInt32.toNat_add, UInt32.toNat_ofNat_of_lt' (by show j < 2 ^ 32; omega)]
  by_cases hwrap : tick.toNat + k < 2 ^ 32
  · refine ⟨k, hk, UInt32.toNat_inj.1 ?_⟩
    rw [UInt32.toNat_mod, hword k hk, Nat.mod_eq_of_lt hwrap, hmul]
    rfl
  · -- The counter starts over before that, and zero is a boundary.
    refine ⟨2 ^ 32 - tick.toNat, by omega, UInt32.toNat_inj.1 ?_⟩
    rw [UInt32.toNat_mod, hword _ (by omega), Nat.add_sub_cancel' htick.le, Nat.mod_self, Nat.zero_mod]
    rfl

/-! ## One request -/

/-- Whether a word asks for the switch that a bit stands for. -/
def Asks (w : UInt32) (bit : ℕ) : Prop := w.toNat.testBit bit = true

theorem asks_or {v w : UInt32} {bit : ℕ} : Asks (v ||| w) bit ↔ Asks v bit ∨ Asks w bit := by
  unfold Asks
  rw [UInt32.toNat_or, Nat.testBit_or, Bool.or_eq_true]

variable {g : QuantumGate} {bit : ℕ}

theorem quantum_check (g : QuantumGate) (tick schedule : UInt32) :
    (g.check tick schedule).2.quantum = g.quantum := by
  unfold check
  split <;> rfl

theorem asks_check_of_boundary {tick : UInt32} (h : tick % g.quantum = 0) (schedule : UInt32) :
    Asks (g.check tick schedule).1 bit ↔ Asks g.pending bit ∨ Asks schedule bit := by
  unfold check
  simp only [h, if_true, asks_or]

theorem asks_pending_of_off {tick : UInt32} (h : tick % g.quantum ≠ 0) (schedule : UInt32) :
    Asks (g.check tick schedule).2.pending bit ↔ Asks g.pending bit ∨ Asks schedule bit := by
  unfold check
  simp only [h, if_false, asks_or]

theorem asks_run_of_boundary (calls : List (UInt32 × UInt32)) : ∀ (call : UInt32 × UInt32) (g : QuantumGate),
    (∃ boundary ∈ call :: calls, boundary.1 % g.quantum = 0) → Asks g.pending bit ∨ Asks call.2 bit →
      Asks (together (run (call :: calls) g).1) bit := by
  induction calls with
  | nil =>
    rintro call g ⟨boundary, hmem, hboundary⟩ hbit
    obtain rfl := List.mem_singleton.1 hmem
    rw [run_cons, together_cons, asks_or]
    exact .inl ((asks_check_of_boundary hboundary _).2 hbit)
  | cons next calls ih =>
    rintro call g ⟨boundary, hmem, hboundary⟩ hbit
    rw [run_cons, together_cons, asks_or]
    by_cases hb : call.1 % g.quantum = 0
    · exact .inl ((asks_check_of_boundary hb _).2 hbit)
    · -- Off the boundaries the request is kept, and the boundary is still to come.
      have hlater : boundary ∈ next :: calls := by
        rcases List.mem_cons.1 hmem with rfl | hlater
        · exact absurd hboundary hb
        · exact hlater
      refine .inr (ih next _ ⟨boundary, hlater, ?_⟩ (.inl ((asks_pending_of_off hb _).2 hbit)))
      rw [quantum_check]
      exact hboundary

/-! ## The tick handler -/

/-- The tick handler of a machine whose gate is free asks the gate, tick by tick. -/
theorem run_checkQuantum (calls : List (UInt32 × UInt32)) : ∀ {g : QuantumGate} {m : Machine},
    m.quantum = Cell.new g → (Machine.run (calls.map fun call => .checkQuantum call.1 call.2) m).1 =
      (run calls g).1.map fun out => .ok (.word out) := by
  induction calls with
  | nil => intro g m _; rfl
  | cons call calls ih =>
    intro g m hm
    have hstep : Machine.step (.checkQuantum call.1 call.2) m =
        (.ok (.word (g.check call.1 call.2).1), { m with quantum := Cell.new (g.check call.1 call.2).2 }) := by
      simp only [Machine.step, Machine.word, Machine.checkQuantum, hm, Cell.use_new]
    rw [List.map_cons, Machine.run, hstep, run_cons, List.map_cons]
    exact congrArg _ (ih rfl)

/-! ## A window of ticks -/

/-- Requests are delivered within one quantum: calls on as many consecutive ticks, wherever they start and
also where the counter starts over, release what was pending and what the first of them asks for. -/
theorem requests_delivered_within_quantum (g : QuantumGate) (tick : UInt32) (schedules : List UInt32)
    (h : schedules.length = g.quantum.toNat) :
    let calls := onTicks tick schedules
    ∃ first, schedules.head? = some first ∧
      (∀ bit, Asks g.pending bit ∨ Asks first bit → Asks (together (run calls g).1) bit) ∧
      ∀ m : Machine, m.quantum = Cell.new g →
        (Machine.run (calls.map fun call => .checkQuantum call.1 call.2) m).1 =
          (run calls g).1.map fun out => .ok (.word out) := by
  intro calls
  have hmachine : ∀ m : Machine, m.quantum = Cell.new g →
      (Machine.run (calls.map fun call => .checkQuantum call.1 call.2) m).1 =
        (run calls g).1.map fun out => .ok (.word out) := fun m hm => run_checkQuantum calls hm
  obtain ⟨k, hk, hboundary⟩ := exists_boundary g.quantum_ne_zero tick
  cases schedules with
  | nil => exact absurd h (by rw [List.length_nil]; omega)
  | cons first rest =>
    refine ⟨first, rfl, fun bit hbit => ?_, hmachine⟩
    have hcall : calls[k]? = some (tick + UInt32.ofNat k, (first :: rest)[k]) := by
      rw [getElem?_onTicks, List.getElem?_eq_getElem (h ▸ hk)]
      rfl
    exact asks_run_of_boundary _ (tick, first) g ⟨_, List.mem_of_getElem? hcall, hboundary⟩ hbit

/-- Seven ticks over the end of the counter, of which only the tick zero is a boundary. -/
theorem requests_delivered_past_the_last_tick :
    let g : QuantumGate := ⟨7, by decide, 8⟩
    let calls := onTicks 0xfffffffe [1, 0, 0, 0, 0, 0, 2]
    [1, 0, 0, 0, 0, 0, 2].length = g.quantum.toNat ∧ calls[2]? = some (0, 0) ∧
      Asks (together (run calls g).1) 0 ∧ Asks (together (run calls g).1) 3 := by
  intro g calls
  obtain ⟨first, hfirst, hasks, -⟩ := requests_delivered_within_quantum g 0xfffffffe [1, 0, 0, 0, 0, 0, 2] rfl
  obtain rfl := Option.some.inj hfirst
  exact ⟨rfl, rfl, hasks 0 (.inr (by unfold Asks; decide)), hasks 3 (.inl (by unfold Asks; decide))⟩

end Sallyport.QuantumGate
