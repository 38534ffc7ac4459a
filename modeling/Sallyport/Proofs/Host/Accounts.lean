/-
The heap of the host kernel keeps its accounts: what it reports as free and the blocks alive always make
up the whole heap. Where blocks lie is up to the memory of the host, and blocks at one address are freed
together. The blocks kept are those that the history shows to be alive (`blocks_after`).
-/
import Sallyport.Proofs.Host.Routes

namespace Sallyport.Host.Heap

open World

/-! ## What a history shows -/

/-- The block that a call handed out. -/
def handedOut? : Call × Except Fault Reply → Option Block
  | (.heap (.malloc size), .ok (.address a)) => if a = 0 then none else some ⟨a, size.toNat⟩
  | _ => none

/-- Whether a call frees a block. -/
def frees (b : Block) : Call → Bool
  | .heap (.free a) => b.address = a
  | _ => false

/-- The blocks that were handed out and that no later call has freed. -/
def live : History → List Block
  | [] => []
  | e :: later => (handedOut? e).toList.filter (fun b => !later.any fun e' => frees b e'.1) ++ live later

theorem live_concat (h : History) (e : Call × Except Fault Reply) :
    live (h ++ [e]) = (live h).filter (fun b => !frees b e.1) ++ (handedOut? e).toList := by
  induction h with
  | nil => simp [live]
  | cons a h ih => simp [live, ih, List.filter_filter, Bool.and_comm]

theorem address_ne_zero_of_handedOut {e : Call × Except Fault Reply} {b : Block} (h : handedOut? e = some b) :
    b.address ≠ 0 := by
  unfold handedOut? at h
  split at h
  · next size a =>
    split at h
    · cases h
    · next hplaced =>
      obtain rfl := Option.some.inj h
      exact hplaced
  · cases h

theorem address_ne_zero_of_mem_live {h : History} {b : Block} (hb : b ∈ live h) : b.address ≠ 0 := by
  induction h with
  | nil => cases hb
  | cons e later ih =>
    rcases List.mem_append.1 hb with hnew | hlater
    · exact address_ne_zero_of_handedOut (Option.mem_toList.1 (List.mem_filter.1 hnew).1)
    · exact ih hlater

/-- The sizes of blocks, summed up. -/
def total : List Block → Nat
  | [] => 0
  | b :: blocks => b.size + total blocks

theorem used_eq_total (h : Heap) : h.used = total h.blocks := by
  unfold used
  induction h.blocks with
  | nil => rfl
  | cons b blocks ih => rw [List.foldr_cons, ih, total]

/-- Where no two blocks share an address, a free takes one block from the total. -/
theorem total_filter_frees {blocks : List Block} (hnodup : (blocks.map (·.address)).Nodup) {b : Block}
    (hb : b ∈ blocks) :
    total (blocks.filter fun b' => !frees b' (.heap (.free b.address))) + b.size = total blocks := by
  induction blocks with
  | nil => cases hb
  | cons a blocks ih =>
    rw [List.map_cons, List.nodup_cons] at hnodup
    obtain ⟨hnew, hnodup⟩ := hnodup
    rcases List.mem_cons.1 hb with rfl | hb
    · have hothers : blocks.filter (fun b' => !frees b' (.heap (.free b.address))) = blocks := by
        refine List.filter_eq_self.2 fun b' hb' => ?_
        have hne : b'.address ≠ b.address := fun h => hnew (List.mem_map.2 ⟨b', hb', h⟩)
        simpa [frees] using hne
      rw [List.filter_cons_of_neg (by simp [frees]), hothers, total, Nat.add_comm]
    · have hne : a.address ≠ b.address := fun h => hnew (List.mem_map.2 ⟨b, hb, h.symm⟩)
      have hrest := ih hnodup hb
      rw [List.filter_cons_of_pos (by simpa [frees] using hne), total, total, Nat.add_assoc, hrest]

/-! ## One call -/

theorem filter_frees_of_not {c : Call} (h : ∀ b, frees b c = false) (blocks : List Block) :
    blocks.filter (fun b => !frees b c) = blocks := by
  simp [h]

theorem step_malloc {h : Heap} (hused : h.used ≤ capacity) (size : UInt64) : step (.malloc size) h =
    if size = 0 ∨ capacity - total h.blocks < size.toNat then (.ok (.address 0), h)
    else (.ok (.address h.nextAddress),
      { h with blocks := h.blocks ++ [⟨h.nextAddress, size.toNat⟩], handedOut := h.handedOut + 1 }) := by
  rw [← used_eq_total]
  simp only [step, malloc_eq hused]
  split <;> rfl

theorem nextAddress_ne_zero (h : Heap) : h.nextAddress ≠ 0 := h.sites.addressOf_ne_zero h.handedOut

theorem blocks_step {h : Heap} (hused : h.used ≤ capacity) (c : HeapCall) : (step c h).2.blocks =
    h.blocks.filter (fun b => !frees b (.heap c)) ++ (handedOut? (.heap c, (step c h).1)).toList := by
  cases c with
  | malloc size =>
    rw [filter_frees_of_not fun _ => rfl, step_malloc hused]
    split
    · exact (List.append_nil _).symm
    · simp [handedOut?, nextAddress_ne_zero]
  | free a => simp [step, free, frees, handedOut?]
  | initialiseBlocks | freeSize =>
    rw [filter_frees_of_not fun _ => rfl]
    exact (List.append_nil _).symm

theorem free_eq_self {h : Heap} {a : Address} (ha : ∀ b ∈ h.blocks, b.address ≠ a) : h.free a = h := by
  unfold free
  rw [List.filter_eq_self.2 (by simpa using ha)]

/-! ## Calls of a run -/

section Calls

variable {w : World Kernel} {m : Routed} {c : HeapCall}

theorem result_issue_of (h : m.call = .heap c) (w : World Kernel) : (issue m w).1 = (step c w.kernel.heap).1 := by
  rw [result_issue, h]
  rfl

theorem unlogged_issue_of (h : m.call = .heap c) (hc : (step c w.kernel.heap).2 = w.kernel.heap) :
    (issue m w).2.kernel.unlogged = w.kernel.unlogged := by
  refine unlogged_issue ?_
  rw [h]
  show { w.kernel with heap := (step c w.kernel.heap).2 } = w.kernel
  rw [hc]

theorem blocks_issue (hw : w.kernel.Within) (m : Routed) : (issue m w).2.kernel.heap.blocks =
    w.kernel.heap.blocks.filter (fun b => !frees b m.call) ++ (handedOut? (m.call, (issue m w).1)).toList := by
  rw [kernel_issue, result_issue]
  cases hc : m.call with
  | heap c => exact blocks_step hw.heap c
  | _ =>
    rw [filter_frees_of_not fun _ => rfl]
    exact (List.append_nil _).symm

theorem result_freeSize (hw : w.kernel.Within) (h : m.call = .heap .freeSize) :
    (issue m w).1 = .ok (.size (UInt64.ofNat (capacity - total w.kernel.heap.blocks))) := by
  rw [result_issue_of h, ← used_eq_total]
  simp only [step, room_eq hw.heap]
  rfl

theorem total_le (hw : w.kernel.Within) : total w.kernel.heap.blocks ≤ 4096 := by
  rw [← used_eq_total]
  exact hw.heap

end Calls

/-! ## Runs -/

theorem blocks_after (settings : Settings) (gate : Gate Hart) (ms : List Routed) :
    (after ms ⟨gate, Kernel.boot settings⟩).kernel.heap.blocks = live (history ms ⟨gate, Kernel.boot settings⟩) := by
  let Kept (past : History) (w : World Kernel) : Prop := w.kernel.Within ∧ w.kernel.heap.blocks = live past
  have hstart : Kept [] ⟨gate, Kernel.boot settings⟩ := ⟨Kernel.within_boot settings, rfl⟩
  have hissue : ∀ {past w} (m : Routed), Kept past w → Kept (past ++ [(m.call, (issue m w).1)]) (issue m w).2 := by
    rintro past w m ⟨hw, hblocks⟩
    refine ⟨within_issue hw m, ?_⟩
    rw [blocks_issue hw, live_concat, hblocks]
  exact (history_keeps_all Kept hissue ms hstart).2

theorem blocks_after_frees (fs : List Routed) : ∀ {w : World Kernel}, w.kernel.Within →
    (∀ f ∈ fs, ∃ a, f.call = .heap (.free a)) → (after fs w).kernel.heap.blocks =
      w.kernel.heap.blocks.filter fun b => !fs.any fun f => frees b f.call := by
  induction fs with
  | nil => exact fun _ _ => (List.filter_eq_self.2 fun _ _ => rfl).symm
  | cons f fs ih =>
    intro w hw hfs
    obtain ⟨a, hf⟩ := hfs f List.mem_cons_self
    have hnext := ih (within_issue hw f) fun g hg => hfs g (List.mem_cons_of_mem _ hg)
    show (after fs (issue f w).2).kernel.heap.blocks = _
    rw [hnext, blocks_issue hw, hf]
    simp [handedOut?, List.filter_filter, hf, Bool.and_comm]

theorem blocks_after_frees_of_all {fs : List Routed} {w : World Kernel} (hw : w.kernel.Within)
    (hfs : (fs.map (·.call)).Perm (w.kernel.heap.blocks.map fun b => .heap (.free b.address))) :
    (after fs w).kernel.heap.blocks = [] := by
  have hfrees : ∀ f ∈ fs, ∃ a, f.call = .heap (.free a) := by
    intro f hf
    obtain ⟨b, -, hb⟩ := List.mem_map.1 (hfs.subset (List.mem_map_of_mem hf))
    exact ⟨b.address, hb.symm⟩
  rw [blocks_after_frees fs hw hfrees, List.filter_eq_nil_iff]
  intro b hb
  obtain ⟨f, hf, hfree⟩ := List.mem_map.1 (hfs.symm.subset (List.mem_map_of_mem hb))
  have hfreed : (fs.any fun f => frees b f.call) = true := List.any_eq_true.2 ⟨f, hf, by simp [hfree, frees]⟩
  simp [hfreed]

/-- What calls on the heap come to while these blocks are in use. -/
structure Accounted (blocks : List Block) (w : World Kernel) : Prop where
  total_le : total blocks ≤ 4096
  freeSize : ∀ m, m.call = .heap .freeSize → ∃ free : UInt64, (issue m w).1 = .ok (.size free) ∧
    free.toNat = 4096 - total blocks
  malloc : ∀ m size, m.call = .heap (.malloc size) → ∃ a, (issue m w).1 = .ok (.address a) ∧
    (a = 0 ↔ size = 0 ∨ 4096 - total blocks < size.toNat) ∧
      (a = 0 → (issue m w).2.kernel.unlogged = w.kernel.unlogged)
  free_other : ∀ m a, m.call = .heap (.free a) → (∀ b ∈ blocks, b.address ≠ a) →
    (issue m w).2.kernel.unlogged = w.kernel.unlogged
  address_ne_zero : ∀ b ∈ blocks, b.address ≠ 0
  /-- Where no two blocks share an address, a free takes back one alone. -/
  free_block : (blocks.map (·.address)).Nodup → ∀ b ∈ blocks, ∀ m, m.call = .heap (.free b.address) →
    ∀ m', m'.call = .heap .freeSize → ∃ free : UInt64, (issue m' (issue m w).2).1 = .ok (.size free) ∧
      free.toNat = 4096 - total blocks + b.size
  free_all : ∀ fs : List Routed, (fs.map (·.call)).Perm (blocks.map fun b => .heap (.free b.address)) →
    ∀ m, m.call = .heap .freeSize → (issue m (after fs w)).1 = .ok (.size 4096)

theorem toNat_free (n : Nat) : (UInt64.ofNat (capacity - n)).toNat = 4096 - n :=
  UInt64.toNat_ofNat_of_lt' (Nat.lt_of_le_of_lt (Nat.sub_le ..) (by decide))

theorem accounted {w : World Kernel} (hw : w.kernel.Within) (hplaced : ∀ b ∈ w.kernel.heap.blocks, b.address ≠ 0) :
    Accounted w.kernel.heap.blocks w where
  total_le := total_le hw
  freeSize m h := ⟨_, result_freeSize hw h, toNat_free _⟩
  malloc m size h := by
    have hmalloc := step_malloc hw.heap size
    rw [capacity] at hmalloc
    rw [result_issue_of h]
    by_cases hrefused : size = 0 ∨ 4096 - total w.kernel.heap.blocks < size.toNat
    · rw [if_pos hrefused] at hmalloc
      refine ⟨0, by rw [hmalloc], iff_of_true rfl hrefused, fun _ => unlogged_issue_of h ?_⟩
      rw [hmalloc]
    · rw [if_neg hrefused] at hmalloc
      have hplaced := nextAddress_ne_zero w.kernel.heap
      exact ⟨_, by rw [hmalloc], iff_of_false hplaced hrefused, fun hnull => absurd hnull hplaced⟩
  free_other m a h ha := unlogged_issue_of h (free_eq_self ha)
  address_ne_zero := hplaced
  free_block hnodup b hb m h m' h' := by
    refine ⟨_, result_freeSize (within_issue hw m) h', ?_⟩
    have htotal := total_filter_frees hnodup hb
    have hle := total_le hw
    rw [toNat_free, blocks_issue hw, h]
    simp only [handedOut?, Option.toList_none, List.append_nil]
    omega
  free_all fs hfs m h := by
    rw [result_freeSize (within_after fs hw) h, blocks_after_frees_of_all hw hfs]
    rfl

/-- The heap keeps exact accounts after every run, wherever blocks are placed: the free bytes and the blocks
alive make up the heap, a block is refused iff it is empty or larger than what is free, and freeing all blocks
gives the whole heap back. -/
theorem heap_accounts_exact (settings : Settings) (gate : Gate Hart) (ms : List Routed) :
    let start : World Kernel := ⟨gate, Kernel.boot settings⟩
    Accounted (live (history ms start)) (after ms start) := by
  intro start
  have hw : (after ms start).kernel.Within := within_after ms (Kernel.within_boot settings)
  have hblocks : (after ms start).kernel.heap.blocks = live (history ms start) := blocks_after settings gate ms
  rw [← hblocks]
  refine accounted hw fun b hb => ?_
  rw [hblocks] at hb
  exact address_ne_zero_of_mem_live hb

/-- With one place for all blocks, the last one is still there after its address was freed twice before. -/
theorem heap_accounts_exact_at_one_place :
    let settings := { Settings.default with sites := ⟨fun _ => 0x1000, fun _ => by decide⟩ }
    let ms : List Routed := [⟨.gated, false, .heap (.malloc 4096)⟩, ⟨.direct, true, .heap (.malloc 1)⟩,
      ⟨.gated, false, .heap (.free 0x1000)⟩, ⟨.gated, true, .heap (.free 0x1000)⟩,
      ⟨.direct, false, .heap (.malloc 100)⟩]
    let start : World Kernel := ⟨Gate.around Hart.boot, Kernel.boot settings⟩
    let freed := after [⟨.gated, false, .heap (.free 0x1000)⟩] (after ms start)
    Accounted [⟨0x1000, 100⟩] (after ms start) ∧
      (issue ⟨.gated, false, .heap .freeSize⟩ freed).1 = .ok (.size 4096) := by
  intro settings ms start freed
  have hlive : live (history ms start) = [⟨0x1000, 100⟩] := by decide
  have h : Accounted (live (history ms start)) (after ms start) :=
    heap_accounts_exact settings (Gate.around Hart.boot) ms
  rw [hlive] at h
  exact ⟨h, h.free_all _ (.refl _) ⟨.gated, false, .heap .freeSize⟩ rfl⟩

end Sallyport.Host.Heap
