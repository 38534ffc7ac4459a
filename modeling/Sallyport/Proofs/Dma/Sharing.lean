/-
Whether one number can name two channels. A number is held from two pools at once in some run exactly if
both hand it out at all: to hold it, drain both. A base that is given is compared with nothing, so a
configuration is accepted whose FIFO channels have the numbers of linear ones.
-/
import Sallyport.Proofs.Dma.Numbers

namespace Sallyport.Dma

/-! ## Ranges that lie apart -/

theorem Word.eq_zero_iff {n : UInt32} : n = 0 ↔ n.toNat = 0 := by
  rw [← UInt32.toNat_inj]
  rfl

namespace Layout

variable {l : Layout} {j k : Kind}

/-- The ranges of two kinds lie apart: one is empty, or one ends before the other begins. -/
def Apart (l : Layout) (j k : Kind) : Prop :=
  l.count j = 0 ∨ l.count k = 0 ∨ (l.base j).toNat + (l.count j).toNat ≤ (l.base k).toNat ∨
    (l.base k).toNat + (l.count k).toNat ≤ (l.base j).toNat

instance : Decidable (l.Apart j k) := inferInstanceAs (Decidable (_ ∨ _))

/-- Ranges that do not lie apart have the larger of their bases in common. -/
theorem apart_iff : l.Apart j k ↔ ∀ id, l.InRange j id → ¬ l.InRange k id := by
  unfold Apart InRange
  rw [Word.eq_zero_iff, Word.eq_zero_iff]
  constructor
  · intro h id hj hk
    omega
  · intro h
    have hbase := h (l.base j)
    have hbase' := h (l.base k)
    omega

theorem Apart.symm (h : l.Apart j k) : l.Apart k j := by
  obtain h | h | h | h := h
  · exact Or.inr (Or.inl h)
  · exact Or.inl h
  · exact Or.inr (Or.inr (Or.inr h))
  · exact Or.inr (Or.inr (Or.inl h))

theorem separate_iff_forall : l.Separate ↔ ∀ j k, j ≠ k → l.Apart j k := by
  constructor
  · intro h j k hne
    exact apart_iff.2 fun id hj hk => hne (h j k id hj hk)
  · intro h j k id hj hk
    by_contra hne
    exact apart_iff.1 (h j k hne) id hj hk

theorem separate_iff : l.Separate ↔ l.Apart .linear .twoD ∧ l.Apart .linear .fifo ∧ l.Apart .twoD .fifo := by
  rw [separate_iff_forall]
  constructor
  · intro h
    exact ⟨h _ _ (by decide), h _ _ (by decide), h _ _ (by decide)⟩
  · rintro ⟨hlinearTwoD, hlinearFifo, htwoDFifo⟩ j k hne
    match j, k with
    | .linear, .twoD => exact hlinearTwoD
    | .linear, .fifo => exact hlinearFifo
    | .twoD, .fifo => exact htwoDFifo
    | .twoD, .linear => exact hlinearTwoD.symm
    | .fifo, .linear => exact hlinearFifo.symm
    | .fifo, .twoD => exact htwoDFifo.symm
    | .linear, .linear | .twoD, .twoD | .fifo, .fifo => exact absurd rfl hne

/-- Whether the pool of a kind ever hands a number out: it is in range, and not reserved. -/
def HandsOut (l : Layout) (k : Kind) (id : UInt32) : Prop :=
  (l.base k).toNat ≤ id.toNat ∧ id.toNat - (l.base k).toNat ∈ l.places k

instance {id : UInt32} : Decidable (l.HandsOut k id) := inferInstanceAs (Decidable (_ ∧ _))

theorem HandsOut.inRange {id : UInt32} (h : l.HandsOut k id) : l.InRange k id := by
  obtain ⟨hbase, hplace⟩ := h
  have := lt_of_mem_places hplace
  exact ⟨hbase, by omega⟩

end Layout

/-! ## Draining pools -/

namespace Tenancy

variable {l : Layout} {t : Tenancy} {j k : Kind}

theorem Inv.handsOut_of_held (h : Inv l t) {id : UInt32} (hid : id ∈ t.held k) : l.HandsOut k id := by
  obtain ⟨hbase, hplace, -⟩ := (h.held k id).1 hid
  exact ⟨hbase, hplace⟩

theorem Inv.held_of_drained (h : Inv l t) (hfree : (t.channels.pool k).free.ids = ∅) {id : UInt32}
    (hid : l.HandsOut k id) : id ∈ t.held k := by
  refine (h.held k id).2 ⟨hid.1, hid.2, ?_⟩
  rw [hfree]
  exact Finset.notMem_empty _

theorem held_subset_alloc (t : Tenancy) (j k : Kind) : t.held j ⊆ (t.step (.alloc k)).held j := by
  unfold step
  dsimp only
  rcases t.channels.alloc k with ⟨_ | id, channels⟩
  · exact Finset.Subset.refl _
  · show t.held j ⊆ Function.update t.held k (insert id (t.held k)) j
    by_cases hj : j = k
    · subst hj
      rw [Function.update_self]
      exact Finset.subset_insert ..
    · rw [Function.update_of_ne hj]

theorem Inv.available_alloc (h : Inv l t) (k : Kind) :
    ((t.step (.alloc k)).channels.pool k).available = (t.channels.pool k).available - 1 := by
  rw [channels_step_alloc]
  cases ha : t.channels.alloc k with
  | mk given channels =>
    cases given with
    | none =>
      obtain ⟨hfree, rfl⟩ := Channels.alloc_eq_none ha
      rw [Pool.available_eq_card, hfree, Finset.card_empty]
    | some id =>
      obtain ⟨index, pool, hp, -, rfl⟩ := Channels.alloc_eq_some ha
      obtain ⟨hmem, -, hfree, -⟩ := Pool.alloc_eq_some (h.sound k) hp
      rw [Channels.pool_setPool, if_pos rfl, Pool.available_eq_card, Pool.available_eq_card, hfree,
        Finset.card_erase_of_mem hmem]

/-- The uses that drain the pool of a kind. -/
def drain (l : Layout) (k : Kind) : List Channels.Use := List.replicate (l.unreserved k) (.alloc k)

theorem held_subset_allocs (t : Tenancy) (j k : Kind) (n : ℕ) :
    t.held j ⊆ (t.run (List.replicate n (.alloc k))).held j := by
  induction n generalizing t with
  | zero => exact Finset.Subset.refl _
  | succ n ih => exact (held_subset_alloc t j k).trans (ih _)

theorem Inv.available_allocs (hl : l.Fits) (h : Inv l t) (k : Kind) (n : ℕ) :
    ((t.run (List.replicate n (.alloc k))).channels.pool k).available = (t.channels.pool k).available - n := by
  induction n generalizing t with
  | zero => rfl
  | succ n ih =>
    have hrest := ih (h.alloc hl k)
    rw [h.available_alloc, Nat.sub_sub, Nat.add_comm 1 n] at hrest
    exact hrest

/-- From wherever it is drained, a pool has then handed out all it ever does. -/
theorem Inv.held_drain (hl : l.Fits) (h : Inv l t) {id : UInt32} (hid : l.HandsOut k id) :
    id ∈ (t.run (drain l k)).held k := by
  have hinv := h.run hl (drain l k)
  have hcount := h.available_allocs hl k (l.unreserved k)
  have hall := h.card_held hl k
  refine hinv.held_of_drained ?_ hid
  rw [← Finset.card_eq_zero, ← Pool.available_eq_card]
  exact hcount.trans (by omega)

theorem held_twice_iff (hl : l.Fits) {id : UInt32} :
    (∃ uses, id ∈ (after l uses).held j ∧ id ∈ (after l uses).held k) ↔ l.HandsOut j id ∧ l.HandsOut k id := by
  constructor
  · rintro ⟨uses, hj, hk⟩
    have hinv := (inv_new hl).run hl uses
    exact ⟨hinv.handsOut_of_held hj, hinv.handsOut_of_held hk⟩
  · rintro ⟨hj, hk⟩
    have hinv := (inv_new hl).run hl (drain l j)
    refine ⟨drain l j ++ drain l k, ?_⟩
    have hrun : after l (drain l j ++ drain l k) = (after l (drain l j)).run (drain l k) :=
      List.foldl_append
    rw [hrun]
    exact ⟨held_subset_allocs _ j k _ ((inv_new hl).held_drain hl hj), hinv.held_drain hl hk⟩

end Tenancy

end Sallyport.Dma

namespace Sallyport.Platform

open Dma (Layout Kind Channels Tenancy)

namespace ChannelConfig

variable {c : ChannelConfig} {l : Layout}

/-! ## Bases that are given and bases that are not -/

/-- A configuration whose kinds keep apart, on sums without bound. -/
structure KeepsApart (c : ChannelConfig) : Prop where
  linear_twoD : c.twoD = 0 ∨ c.linear.toNat ≤ c.firstTwoD
  linear_fifo : c.fifo = 0 ∨ c.linear.toNat ≤ c.firstFifo
  twoD_fifo : c.twoD = 0 ∨ c.fifo = 0 ∨ c.firstTwoD + c.twoD.toNat ≤ c.firstFifo ∨
    c.firstFifo + c.fifo.toNat ≤ c.firstTwoD

theorem toNat_base_twoD (c : ChannelConfig) : (c.layout.base .twoD).toNat = c.firstTwoD := c.toNat_twoDBase

theorem Nameable.toNat_base_fifo (h : c.Nameable) : (c.layout.base .fifo).toNat = c.firstFifo :=
  toNat_fifoBase (Nat.le_trans h.twoD_end (by decide))

/-- Linear channels start at the lowest number, so a kind lies apart from them only behind them. -/
theorem Nameable.apart_linear_iff (h : c.Nameable) {k : Kind} :
    c.layout.Apart .linear k ↔ c.layout.count k = 0 ∨ c.linear.toNat ≤ (c.layout.base k).toNat := by
  have hpos := h.linear_pos
  have hcount : c.layout.count .linear = c.linear := rfl
  have hbase : (c.layout.base .linear).toNat = 0 := rfl
  unfold Layout.Apart
  rw [Dma.Word.eq_zero_iff, Dma.Word.eq_zero_iff, hcount, hbase]
  omega

theorem Nameable.separate_iff (h : c.Nameable) : c.layout.Separate ↔ c.KeepsApart := by
  rw [Layout.separate_iff, h.apart_linear_iff, h.apart_linear_iff, Layout.Apart, toNat_base_twoD, h.toNat_base_fifo]
  exact ⟨fun ⟨h₁, h₂, h₃⟩ => ⟨h₁, h₂, h₃⟩, fun ⟨h₁, h₂, h₃⟩ => ⟨h₁, h₂, h₃⟩⟩

theorem Nameable.apart_of_twoDBase_none (h : c.Nameable) (hbase : c.twoDBase = none) :
    c.layout.Apart .linear .twoD := by
  refine h.apart_linear_iff.2 (Or.inr ?_)
  rw [toNat_base_twoD, firstTwoD, hbase]
  exact Nat.le_refl _

theorem Nameable.apart_of_fifoBase_none (h : c.Nameable) (hbase : c.fifoBase = none) :
    c.layout.Apart .twoD .fifo := by
  refine Or.inr (Or.inr (Or.inl ?_))
  rw [toNat_base_twoD, h.toNat_base_fifo, firstFifo, hbase]
  exact Nat.le_refl _

theorem keepsApart_of_none (htwoD : c.twoDBase = none) (hfifo : c.fifoBase = none) : c.KeepsApart := by
  have hfirst : c.firstTwoD = c.linear.toNat := by rw [firstTwoD, htwoD]; rfl
  have hnext : c.firstFifo = c.linear.toNat + c.twoD.toNat := by rw [firstFifo, hfifo, ← hfirst]; rfl
  exact ⟨Or.inr hfirst.ge, Or.inr (hnext ▸ Nat.le_add_right ..), Or.inr (Or.inr (Or.inl (hfirst ▸ hnext.ge)))⟩

/-- Only a base that is given can make two kinds share a number: the ranges are separate exactly if the sums
without bound keep apart, as they do if no base is given. A number is held from two pools at once in some run
exactly if both of them hand it out. -/
theorem only_given_bases_share_numbers (h : c.accept = .ok l) :
    (l.Separate ↔ c.KeepsApart) ∧
    (c.twoDBase = none → c.fifoBase = none → l.Separate) ∧
    (c.twoDBase = none → l.Apart .linear .twoD) ∧
    (c.fifoBase = none → l.Apart .twoD .fifo) ∧
    (∀ j k id, (∃ uses, id ∈ (Tenancy.after l uses).held j ∧ id ∈ (Tenancy.after l uses).held k) ↔
      l.HandsOut j id ∧ l.HandsOut k id) ∧
    (l.Separate → ∀ uses j k id, id ∈ (Tenancy.after l uses).held j → id ∈ (Tenancy.after l uses).held k →
      j = k) := by
  obtain ⟨hc, rfl⟩ := accept_eq_ok_iff.1 h
  have htwice : ∀ j k id, (∃ uses, id ∈ (Tenancy.after c.layout uses).held j ∧
      id ∈ (Tenancy.after c.layout uses).held k) ↔ c.layout.HandsOut j id ∧ c.layout.HandsOut k id :=
    fun j k id => Tenancy.held_twice_iff hc.fits
  refine ⟨hc.separate_iff, fun htwoD hfifo => hc.separate_iff.2 (keepsApart_of_none htwoD hfifo),
    hc.apart_of_twoDBase_none, hc.apart_of_fifoBase_none, htwice, fun hs uses j k id hj hk => ?_⟩
  obtain ⟨hj, hk⟩ := (htwice j k id).1 ⟨uses, hj, hk⟩
  exact hs j k id hj.inRange hk.inRange

/-- The ranges meet at one number, but its channel is reserved, so it is never held from both pools. -/
theorem reserved_channel_shares_no_number :
    ∃ l, accept { default with twoD := 1, twoDBase := some 31 } = .ok l ∧ ¬ l.Separate ∧
      ∀ uses, ¬ (31 ∈ (Tenancy.after l uses).held .linear ∧ 31 ∈ (Tenancy.after l uses).held .twoD) := by
  have haccept : accept { default with twoD := 1, twoDBase := some 31 } =
      .ok (layout { default with twoD := 1, twoDBase := some 31 }) := by decide
  obtain ⟨hseparate, -, -, -, htwice, -⟩ := only_given_bases_share_numbers haccept
  refine ⟨_, haccept, fun hs => ?_, fun uses hheld => ?_⟩
  · have hapart := (hseparate.1 hs).linear_twoD
    exact absurd hapart (by decide)
  · have hout := ((htwice .linear .twoD 31).1 ⟨uses, hheld⟩).2
    exact absurd hout (by decide)

/-- A table with FIFO channels from zero on is accepted, and then one number is held from two pools. -/
theorem fifoBase_zero_shares_number :
    let c := { default with fifoBase := some 0 }
    let uses := [.alloc .linear, .alloc .fifo, .alloc .fifo]
    sectionOr default ofDocument? (some "[udma]\nfifo_base = 0\n") = .ok c ∧
    ∃ l, c.accept = .ok l ∧
      (generate .channels (some "[udma]\nfifo_base = 0\n") .usable).file = .ok (file (constants l)) ∧
      ¬ l.Separate ∧ 1 ∈ (Tenancy.after l uses).held .linear ∧ 1 ∈ (Tenancy.after l uses).held .fifo := by
  intro c uses
  have hsection : sectionOr default ofDocument? (some "[udma]\nfifo_base = 0\n") = .ok c := by decide +kernel
  have haccept : c.accept = .ok c.layout := by decide
  refine ⟨hsection, c.layout, haccept, ?_, fun hs => ?_, by decide, by decide⟩
  · rw [generate_channels hsection, haccept]
    rfl
  · have hapart := Dma.Layout.separate_iff_forall.1 hs .linear .fifo (by decide)
    exact absurd hapart (by decide)

end ChannelConfig

end Sallyport.Platform
