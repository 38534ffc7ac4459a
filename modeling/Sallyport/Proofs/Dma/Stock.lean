/-
A pool does what two finite sets would do. The sets are a machine of their own (`Stock`) with the uses
of a pool; one use of the pool is one step of it, and a run follows by induction over the uses.
-/
import Sallyport.Proofs.Dma.Pool
import Mathlib.Data.Finset.Max
import Mathlib.Data.Finset.Sort

namespace Sallyport.Dma

open Pool (Use Seen)

/-! ## Two finite sets -/

/-- The channels a pool owns and, among them, those that are free. -/
structure Stock where
  owned : Finset ℕ
  free : Finset ℕ

namespace Stock

/-- All channels below a count, owned and free. -/
def full (count : ℕ) : Stock := ⟨Finset.range count, Finset.range count⟩

/-- The lowest free channel. -/
def lowest? (s : Stock) : Option ℕ := if h : s.free.Nonempty then some (s.free.min' h) else none

/-- What a use shows, and the sets it leaves. -/
def step (s : Stock) : Use → Seen × Stock
  | .alloc =>
    match s.lowest? with
    | some i => (.channel (some (UInt32.ofNat i)), { s with free := s.free.erase i })
    | none => (.channel none, s)
  | .drain => (.channels (s.free.sort.map UInt32.ofNat), { s with free := ∅ })
  | .release id => (.nothing, if id.toNat ∈ s.owned then { s with free := insert id.toNat s.free } else s)
  | .reserve id => (.nothing, ⟨s.owned.erase id.toNat, s.free.erase id.toNat⟩)
  | .isFree id => (.truth (decide (id.toNat ∈ s.free)), s)
  | .available => (.count s.free.card, s)

theorem lowest?_eq_none {s : Stock} (h : s.free = ∅) : s.lowest? = none := by
  unfold lowest?
  rw [dif_neg (by simp [h])]

theorem lowest?_eq_some {s : Stock} {i : ℕ} (hi : i ∈ s.free) (hmin : ∀ j ∈ s.free, i ≤ j) : s.lowest? = some i := by
  unfold lowest?
  rw [dif_pos ⟨i, hi⟩]
  congr 1
  exact le_antisymm (s.free.min'_le i hi) (s.free.le_min' _ i hmin)

theorem owned_step_subset (s : Stock) (u : Use) : (s.step u).2.owned ⊆ s.owned := by
  cases u with
  | alloc =>
    simp only [step]
    split
    · exact Finset.Subset.refl _
    · exact Finset.Subset.refl _
  | release id =>
    simp only [step]
    split
    · exact Finset.Subset.refl _
    · exact Finset.Subset.refl _
  | reserve id => exact Finset.erase_subset _ _
  | drain => exact Finset.Subset.refl _
  | isFree id => exact Finset.Subset.refl _
  | available => exact Finset.Subset.refl _

end Stock

namespace Pool

/-! ## One use -/

/-- Each bitmap of the pool holds the numbers of one set. -/
structure StandsFor (p : Pool) (words : ℕ) (s : Stock) : Prop where
  sound : p.Sound
  length_eq : p.present.length = words
  owned_eq : p.present.ids = s.owned
  free_eq : p.free.ids = s.free

theorem StandsFor.new {words : ℕ} (h : 32 * words ≤ 2 ^ 32) (count : UInt32) :
    (Pool.new words count).StandsFor words (Stock.full (min count.toNat (32 * words))) :=
  ⟨sound_new h count, Bitmap.length_below _ _, Bitmap.ids_below _ _, Bitmap.ids_below _ _⟩

variable {p : Pool} {words : ℕ} {s : Stock}

theorem StandsFor.alloc (h : p.StandsFor words s) :
    (p.step .alloc).1 = (s.step .alloc).1 ∧ (p.step .alloc).2.StandsFor words (s.step .alloc).2 := by
  rcases ha : p.alloc with ⟨taken, q⟩
  unfold step Stock.step
  rw [ha]
  cases taken with
  | none =>
    obtain ⟨hempty, rfl⟩ := alloc_eq_none ha
    rw [Stock.lowest?_eq_none (by rw [← h.free_eq, hempty])]
    exact ⟨rfl, h⟩
  | some id =>
    obtain ⟨hmem, hmin, hids, hpresent, hq⟩ := alloc_eq_some h.sound ha
    rw [h.free_eq] at hmem hmin hids
    rw [Stock.lowest?_eq_some hmem hmin]
    refine ⟨?_, hq, ?_, ?_, hids⟩
    · simp only [UInt32.ofNat_toNat]
    · rw [hpresent, h.length_eq]
    · rw [hpresent, h.owned_eq]

theorem StandsFor.release (h : p.StandsFor words s) (id : UInt32) :
    (p.release id).StandsFor words (s.step (.release id)).2 := by
  have hfree := ids_release h.sound id
  rw [h.owned_eq, h.free_eq] at hfree
  unfold Stock.step
  dsimp only
  by_cases hid : id.toNat ∈ s.owned
  · rw [if_pos hid] at hfree ⊢
    exact ⟨h.sound.release id, by rw [release_present, h.length_eq], by rw [release_present, h.owned_eq], hfree⟩
  · rw [if_neg hid] at hfree ⊢
    exact ⟨h.sound.release id, by rw [release_present, h.length_eq], by rw [release_present, h.owned_eq], hfree⟩

theorem StandsFor.reserve (h : p.StandsFor words s) (id : UInt32) :
    (p.reserve id).StandsFor words (s.step (.reserve id)).2 := by
  refine ⟨h.sound.reserve id, ?_, ?_, ?_⟩
  · exact (Bitmap.length_erase _ _).trans h.length_eq
  · exact (Bitmap.ids_erase _ _).trans (by rw [h.owned_eq]; rfl)
  · exact (Bitmap.ids_erase _ _).trans (by rw [h.free_eq]; rfl)

/-- With fuel for all free channels, draining hands them out in ascending order. -/
theorem StandsFor.drainAux (fuel : ℕ) : ∀ {p : Pool} {s : Stock}, p.StandsFor words s → s.free.card < fuel →
    (Pool.drainAux fuel p).1 = s.free.sort.map UInt32.ofNat ∧
      (Pool.drainAux fuel p).2.StandsFor words { s with free := ∅ } := by
  induction fuel with
  | zero => intro p s _ hf; cases hf
  | succ fuel ih =>
    intro p s h hf
    rcases ha : p.alloc with ⟨taken, q⟩
    unfold Pool.drainAux
    rw [ha]
    cases taken with
    | none =>
      obtain ⟨hempty, rfl⟩ := alloc_eq_none ha
      rw [h.free_eq] at hempty
      rw [hempty, Finset.sort_empty]
      exact ⟨rfl, h.sound, h.length_eq, h.owned_eq, h.free_eq.trans hempty⟩
    | some id =>
      obtain ⟨hmem, hmin, hids, hpresent, hq⟩ := alloc_eq_some h.sound ha
      rw [h.free_eq] at hmem hmin hids
      have hnext : q.StandsFor words { s with free := s.free.erase id.toNat } :=
        ⟨hq, by rw [hpresent, h.length_eq], by rw [hpresent, h.owned_eq], hids⟩
      have hcard : (s.free.erase id.toNat).card < fuel := by
        rw [Finset.card_erase_of_mem hmem]
        have := Finset.card_pos.2 ⟨_, hmem⟩
        omega
      obtain ⟨hlist, hend⟩ := ih hnext hcard
      refine ⟨?_, hend⟩
      -- The lowest channel comes first, and the rest follow in their order.
      have hsort : s.free.sort = id.toNat :: (s.free.erase id.toNat).sort := by
        conv_lhs => rw [← Finset.insert_erase hmem]
        exact Finset.sort_insert _ (fun j hj => hmin j (Finset.mem_of_mem_erase hj)) (Finset.notMem_erase _ _)
      rw [hsort, List.map_cons, UInt32.ofNat_toNat, ← hlist]

theorem StandsFor.drain (h : p.StandsFor words s) :
    (p.step .drain).1 = (s.step .drain).1 ∧ (p.step .drain).2.StandsFor words (s.step .drain).2 := by
  have hcard : s.free.card < p.capacity + 1 := by
    have hsub : p.free.ids ⊆ Finset.range p.capacity := fun i hi => Finset.mem_range.2 (Bitmap.lt_of_mem_ids hi)
    have := Finset.card_le_card hsub
    rw [Finset.card_range, h.free_eq] at this
    omega
  obtain ⟨hlist, hend⟩ := h.drainAux _ hcard
  exact ⟨congrArg Seen.channels hlist, hend⟩

/-- A use shows of the pool what it shows of the two sets, and leaves a pool that stands for the new ones. -/
theorem StandsFor.step (h : p.StandsFor words s) (u : Use) :
    (p.step u).1 = (s.step u).1 ∧ (p.step u).2.StandsFor words (s.step u).2 := by
  cases u with
  | alloc => exact h.alloc
  | drain => exact h.drain
  | release id => exact ⟨rfl, h.release id⟩
  | reserve id => exact ⟨rfl, h.reserve id⟩
  | isFree id =>
    refine ⟨congrArg Seen.truth ?_, h⟩
    rw [Bool.eq_iff_iff, isFree_iff, h.free_eq, decide_eq_true_iff]
  | available =>
    refine ⟨congrArg Seen.count ?_, h⟩
    rw [available_eq_card, h.free_eq]

/-! ## Runs -/

/-- What uses in a row show, of anything used like a pool, and the state they leave. -/
def Use.run {σ : Type} (step : σ → Use → Seen × σ) : List Use → σ → List Seen × σ
  | [], s => ([], s)
  | u :: us, s =>
    let (seen, s) := step s u
    let (seens, s) := Use.run step us s
    (seen :: seens, s)

theorem StandsFor.run (uses : List Use) : ∀ {p : Pool} {s : Stock}, p.StandsFor words s →
    (Use.run Pool.step uses p).1 = (Use.run Stock.step uses s).1 ∧
      (Use.run Pool.step uses p).2.StandsFor words (Use.run Stock.step uses s).2 := by
  induction uses with
  | nil => intro p s h; exact ⟨rfl, h⟩
  | cons u us ih =>
    intro p s h
    obtain ⟨hseen, hnext⟩ := h.step u
    obtain ⟨hseens, hend⟩ := ih hnext
    refine ⟨?_, hend⟩
    show (p.step u).1 :: (Use.run Pool.step us (p.step u).2).1 = (s.step u).1 :: (Use.run Stock.step us (s.step u).2).1
    rw [hseen, hseens]

theorem owned_run_subset (uses : List Use) : ∀ s : Stock, (Use.run Stock.step uses s).2.owned ⊆ s.owned := by
  induction uses with
  | nil => intro s; exact Finset.Subset.refl _
  | cons u us ih => intro s; exact (ih _).trans (s.owned_step_subset u)

/-- A pool is two finite sets. In any run of uses of a new pool, whatever numbers they name, it shows what the
sets show; all along, number `i` is in a set iff bit `i mod 32` of word `i / 32` is set in its bitmap. -/
theorem pool_shows_two_sets (words : ℕ) (h : 32 * words < 2 ^ 32) (count : UInt32) (uses : List Use) :
    let pool := Use.run Pool.step uses (Pool.new words count)
    let stock := Use.run Stock.step uses (Stock.full (min count.toNat (32 * words)))
    pool.1 = stock.1 ∧
      (∀ i, i ∈ stock.2.free ↔ (pool.2.free.getD (i / 32) 0).toNat.testBit (i % 32) = true) ∧
      (∀ i, i ∈ stock.2.owned ↔ (pool.2.present.getD (i / 32) 0).toNat.testBit (i % 32) = true) ∧
      pool.2.free.length = words ∧ pool.2.present.length = words ∧
      stock.2.free ⊆ stock.2.owned ∧ ∀ i ∈ stock.2.owned, i < min count.toNat (32 * words) := by
  intro pool stock
  obtain ⟨hseen, hend⟩ := (StandsFor.new (Nat.le_of_lt h) count).run uses
  refine ⟨hseen, fun i => ?_, fun i => ?_, ?_, hend.length_eq, ?_, fun i hi => ?_⟩
  · rw [← hend.free_eq, Bitmap.mem_ids, Word.mem_bits]
  · rw [← hend.owned_eq, Bitmap.mem_ids, Word.mem_bits]
  · rw [hend.sound.length_eq, hend.length_eq]
  · rw [← hend.owned_eq, ← hend.free_eq]
    exact hend.sound.subset
  · exact Finset.mem_range.1 (owned_run_subset uses _ hi)

/-- Releases of a free, a reserved, an unknown and a handed out channel, on both sides of a word. -/
def boundaryUses : List Use :=
  [.reserve 0, .alloc, .release 33, .release 70, .reserve 32, .release 32, .isFree 32, .isFree 33, .available,
    .release 1, .alloc]

theorem pool_of_forty_shows_two_sets :
    32 * 2 < 2 ^ 32 ∧
      (Use.run Pool.step boundaryUses (Pool.new 2 40)).1 =
        [.nothing, .channel (some 1), .nothing, .nothing, .nothing, .nothing, .truth false, .truth true, .count 37,
          .nothing, .channel (some 1)] ∧
      (Use.run Stock.step boundaryUses (Stock.full 40)).1 =
        (Use.run Pool.step boundaryUses (Pool.new 2 40)).1 ∧
      33 ∈ (Use.run Stock.step boundaryUses (Stock.full 40)).2.free := by
  obtain ⟨hseen, hfree, _⟩ := pool_shows_two_sets 2 (by decide) 40 boundaryUses
  have hcount : min (40 : UInt32).toNat (32 * 2) = 40 := by decide
  rw [hcount] at hseen hfree
  refine ⟨by decide, by decide, hseen.symm, ?_⟩
  rw [hfree]
  decide

end Pool

end Sallyport.Dma
