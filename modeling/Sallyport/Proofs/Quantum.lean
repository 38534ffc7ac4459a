/-
The preemption quantum keeps every request: what is pending is what the calls since the last boundary have
asked for. So no request is lost, none is made up, and none is released twice.
-/
import Sallyport.Quantum
import Mathlib.Data.List.DropRight

namespace Sallyport.QuantumGate

/-! ## Requests taken together -/

/-- All requests of a list in one word. -/
def together (requests : List UInt32) : UInt32 := requests.foldl (· ||| ·) 0

@[simp] theorem together_nil : together [] = 0 := rfl

theorem together_concat (requests : List UInt32) (r : UInt32) :
    together (requests ++ [r]) = together requests ||| r := by
  unfold together
  rw [List.foldl_append]
  rfl

theorem together_cons (r : UInt32) (requests : List UInt32) :
    together (r :: requests) = r ||| together requests := by
  unfold together
  rw [List.foldl_cons, UInt32.or_comm 0 r, List.foldl_assoc]

/-! ## The requests that wait -/

/-- Whether a call is off every boundary of a quantum. -/
def offBoundary (quantum : UInt32) (step : UInt32 × UInt32) : Bool := step.1 % quantum ≠ 0

/-- The requests made by calls since the last call on a boundary. -/
def waiting (quantum : UInt32) (calls : List (UInt32 × UInt32)) : List UInt32 :=
  (calls.rtakeWhile (offBoundary quantum)).map (·.2)

/-- What a call has to return after the calls before it. -/
def verdict (quantum : UInt32) (before : List (UInt32 × UInt32)) (call : UInt32 × UInt32) : UInt32 :=
  if call.1 % quantum = 0 then together (waiting quantum before ++ [call.2]) else 0

theorem waiting_concat_of_boundary {quantum tick : UInt32} (h : tick % quantum = 0)
    (before : List (UInt32 × UInt32)) (schedule : UInt32) :
    waiting quantum (before ++ [(tick, schedule)]) = [] := by
  unfold waiting
  rw [List.rtakeWhile_concat_neg _ _ _ (by simp [offBoundary, h])]
  rfl

theorem waiting_concat_of_off {quantum tick : UInt32} (h : tick % quantum ≠ 0)
    (before : List (UInt32 × UInt32)) (schedule : UInt32) :
    waiting quantum (before ++ [(tick, schedule)]) = waiting quantum before ++ [schedule] := by
  unfold waiting
  rw [List.rtakeWhile_concat_pos _ _ _ (by simp [offBoundary, h]), List.map_append]
  rfl

/-! ## One call -/

/-- A gate after calls: what they ask for since the last boundary is pending. -/
structure Holds (quantum : UInt32) (calls : List (UInt32 × UInt32)) (g : QuantumGate) : Prop where
  quantum_eq : g.quantum = quantum
  pending_eq : g.pending = together (waiting quantum calls)

theorem Holds.check {quantum : UInt32} {before : List (UInt32 × UInt32)} {g : QuantumGate}
    (h : Holds quantum before g) (tick schedule : UInt32) :
    (g.check tick schedule).1 = verdict quantum before (tick, schedule) ∧
      Holds quantum (before ++ [(tick, schedule)]) (g.check tick schedule).2 := by
  obtain ⟨rfl, hpending⟩ := h
  unfold QuantumGate.check verdict
  by_cases hb : tick % g.quantum = 0
  · simp only [hb, if_true]
    refine ⟨?_, rfl, ?_⟩
    · rw [together_concat, hpending]
    · rw [waiting_concat_of_boundary hb, together_nil]
  · simp only [hb, if_false]
    refine ⟨trivial, rfl, ?_⟩
    rw [waiting_concat_of_off hb, together_concat, hpending]

/-- What a call releases and leaves pending is what was pending and its own request. -/
theorem check_keeps (g : QuantumGate) (tick schedule : UInt32) :
    (g.check tick schedule).1 ||| (g.check tick schedule).2.pending = g.pending ||| schedule := by
  unfold QuantumGate.check
  by_cases hb : tick % g.quantum = 0
  · simp [hb]
  · simp [hb]

/-! ## Runs -/

theorem run_cons (call : UInt32 × UInt32) (calls : List (UInt32 × UInt32)) (g : QuantumGate) :
    run (call :: calls) g =
      ((g.check call.1 call.2).1 :: (run calls (g.check call.1 call.2).2).1, (run calls (g.check call.1 call.2).2).2) :=
  rfl

theorem Holds.run {quantum : UInt32} (calls : List (UInt32 × UInt32)) :
    ∀ (before : List (UInt32 × UInt32)) (g : QuantumGate), Holds quantum before g →
      ∀ k, (QuantumGate.run calls g).1[k]? = calls[k]?.map (verdict quantum (before ++ calls.take k)) := by
  induction calls with
  | nil => intro before g _ k; rfl
  | cons call calls ih =>
    intro before g h k
    obtain ⟨hout, hnext⟩ := h.check call.1 call.2
    rw [run_cons]
    cases k with
    | zero => simpa using hout
    | succ k =>
      have := ih _ _ hnext k
      simpa using this

/-- What a run releases and leaves pending is what was pending and all its requests. -/
theorem run_keeps (calls : List (UInt32 × UInt32)) : ∀ g : QuantumGate,
    together (run calls g).1 ||| (run calls g).2.pending = g.pending ||| together (calls.map (·.2)) := by
  induction calls with
  | nil => intro g; simp [run]
  | cons call calls ih =>
    intro g
    rw [run_cons, together_cons, UInt32.or_assoc, ih, ← UInt32.or_assoc, check_keeps, List.map_cons, together_cons,
      UInt32.or_assoc]

/-- The quantum keeps every request: a call on a boundary returns the requests made since the boundary before,
its own included, and any other call nothing; what is returned and what is left pending is all that was
requested. -/
theorem requests_released_at_boundaries (quantum : UInt32) (h : quantum ≠ 0) :
    ∃ g, new? quantum = some g ∧ ∀ calls : List (UInt32 × UInt32),
      (∀ k, (run calls g).1[k]? = calls[k]?.map fun call =>
        if call.1 % quantum = 0 then together (waiting quantum (calls.take k) ++ [call.2]) else 0) ∧
      together (run calls g).1 ||| (run calls g).2.pending = together (calls.map (·.2)) := by
  refine ⟨⟨quantum, h, 0⟩, by simp [new?, h], fun calls => ⟨fun k => ?_, ?_⟩⟩
  · have hstart : Holds quantum [] ⟨quantum, h, 0⟩ := ⟨rfl, rfl⟩
    exact hstart.run calls [] _ k
  · simpa using run_keeps calls ⟨quantum, h, 0⟩

/-- Two boundaries with ticks that run backwards, and a request that is still pending at the end. -/
theorem requests_released_every_four_ticks :
    (4 : UInt32) ≠ 0 ∧ ∃ g, new? 4 = some g ∧
      (run [(5, 1), (6, 2), (8, 4), (3, 8), (0, 0), (7, 16)] g).1[2]? = some 7 ∧
      (run [(5, 1), (6, 2), (8, 4), (3, 8), (0, 0), (7, 16)] g).1[4]? = some 8 ∧
      together (run [(5, 1), (6, 2), (8, 4), (3, 8), (0, 0), (7, 16)] g).1 |||
        (run [(5, 1), (6, 2), (8, 4), (3, 8), (0, 0), (7, 16)] g).2.pending = 31 := by
  obtain ⟨g, hg, hrun⟩ := requests_released_at_boundaries 4 (by decide)
  obtain ⟨hout, hall⟩ := hrun [(5, 1), (6, 2), (8, 4), (3, 8), (0, 0), (7, 16)]
  exact ⟨by decide, g, hg, (hout 2).trans (by decide), (hout 4).trans (by decide), hall.trans (by decide)⟩

end Sallyport.QuantumGate
