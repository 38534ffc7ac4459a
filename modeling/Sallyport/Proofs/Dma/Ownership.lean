/-
Exclusive ownership of transfer channels in any run of allocations and releases, with whatever numbers
are released. The numbers held of a kind are those of the channels that its pool owns and that are not
free (`Tenancy.Inv`).
-/
import Sallyport.Proofs.Dma.Pool
import Sallyport.Proofs.Platform.Channels

namespace Sallyport.Dma

/-! ## The numbers of a layout -/

namespace Layout

/-- Whether a number lies in the range of a kind. -/
def InRange (l : Layout) (k : Kind) (id : UInt32) : Prop :=
  (l.base k).toNat ≤ id.toNat ∧ id.toNat < (l.base k).toNat + (l.count k).toNat

/-- No number lies in the ranges of two kinds. -/
def Separate (l : Layout) : Prop := ∀ j k id, l.InRange j id → l.InRange k id → j = k

/-- How many channels of a kind are not reserved. -/
def unreserved (l : Layout) (k : Kind) : ℕ := (l.count k).toNat - if reservesFirst k then 1 else 0

/-- The places of the channels of a kind that are not reserved. -/
def places (l : Layout) (k : Kind) : Finset ℕ :=
  if reservesFirst k then (Finset.range (l.count k).toNat).erase 0 else Finset.range (l.count k).toNat

theorem lt_of_mem_places {l : Layout} {k : Kind} {i : ℕ} (h : i ∈ l.places k) : i < (l.count k).toNat := by
  unfold places at h
  split at h
  · exact Finset.mem_range.1 (Finset.mem_of_mem_erase h)
  · exact Finset.mem_range.1 h

theorem ne_zero_of_mem_places {l : Layout} {k : Kind} {i : ℕ} (hr : reservesFirst k = true) (h : i ∈ l.places k) :
    i ≠ 0 := by
  rw [places, if_pos hr] at h
  exact Finset.ne_of_mem_erase h

theorem card_places (l : Layout) (k : Kind) : (l.places k).card = l.unreserved k := by
  unfold places unreserved
  cases hr : reservesFirst k with
  | false => simp
  | true =>
    by_cases h0 : (l.count k).toNat = 0
    · simp [h0]
    · rw [if_pos rfl, if_pos rfl, Finset.card_erase_of_mem (Finset.mem_range.2 (Nat.pos_of_ne_zero h0)),
        Finset.card_range]

theorem pool_eq (l : Layout) (k : Kind) :
    l.pool k = if reservesFirst k then (Pool.new (l.words k) (l.count k)).reserve 0
      else Pool.new (l.words k) (l.count k) := rfl

theorem Fits.sound_pool {l : Layout} (h : l.Fits) (k : Kind) : (l.pool k).Sound := by
  have hnew := Pool.sound_new (h.words_le k) (l.count k)
  rw [pool_eq]
  split
  · exact hnew.reserve 0
  · exact hnew

/-- At first a pool owns the channels of its kind that are not reserved, and all of them are free. -/
theorem Fits.ids_pool {l : Layout} (h : l.Fits) (k : Kind) :
    (l.pool k).present.ids = l.places k ∧ (l.pool k).free.ids = l.places k := by
  have hbelow : Bitmap.ids (Bitmap.below (l.words k) (l.count k).toNat) = Finset.range (l.count k).toNat := by
    rw [Bitmap.ids_below, Nat.min_eq_left (h.count_le k)]
  rw [pool_eq, places]
  cases reservesFirst k with
  | false => exact ⟨hbelow, hbelow⟩
  | true =>
    have herase : Bitmap.ids (Bitmap.erase (Bitmap.below (l.words k) (l.count k).toNat) 0) =
        (Finset.range (l.count k).toNat).erase 0 := by
      rw [Bitmap.ids_erase, hbelow]
      rfl
    exact ⟨herase, herase⟩

end Layout

/-! ## Runs -/

/-- One use of the channels. -/
inductive Channels.Use where
  | alloc (kind : Kind)
  | release (kind : Kind) (id : UInt32)
  deriving DecidableEq, Repr

/-- The pools, and for each kind the numbers that are held: handed out and not released since. -/
structure Tenancy where
  channels : Channels
  held : Kind → Finset UInt32

/-! ## One allocation, one release -/

namespace Channels

theorem setPool_pool (c : Channels) (k : Kind) : c.setPool k (c.pool k) = c := by
  cases k <;> rfl

theorem alloc_eq_none {c c' : Channels} {k : Kind} (h : c.alloc k = (none, c')) :
    (c.pool k).free.ids = ∅ ∧ c' = c := by
  rw [alloc] at h
  cases hp : (c.pool k).alloc with
  | mk index pool =>
    rw [hp] at h
    obtain ⟨hindex, rfl⟩ := Prod.mk.inj h
    obtain rfl := Option.map_eq_none_iff.1 hindex
    obtain ⟨hfree, rfl⟩ := Pool.alloc_eq_none hp
    exact ⟨hfree, setPool_pool c k⟩

theorem alloc_eq_some {c c' : Channels} {k : Kind} {id : UInt32} (h : c.alloc k = (some id, c')) :
    ∃ index pool, (c.pool k).alloc = (some index, pool) ∧ id = index + c.layout.base k ∧
      c' = c.setPool k pool := by
  rw [alloc] at h
  cases hp : (c.pool k).alloc with
  | mk index pool =>
    rw [hp] at h
    obtain ⟨hindex, rfl⟩ := Prod.mk.inj h
    obtain ⟨i, rfl, rfl⟩ := Option.map_eq_some_iff.1 hindex
    exact ⟨i, pool, rfl, rfl, rfl⟩

theorem pool_release (c : Channels) (j k : Kind) (id : UInt32) :
    (c.release k id).pool j =
      if j = k ∧ c.layout.base k ≤ id then (c.pool k).release (id - c.layout.base k) else c.pool j := by
  unfold release
  by_cases hb : c.layout.base k ≤ id
  · rw [if_pos hb, pool_setPool]
    simp [hb]
  · rw [if_neg hb, if_neg fun h => hb h.2]

theorem release_layout (c : Channels) (k : Kind) (id : UInt32) : (c.release k id).layout = c.layout := by
  unfold release
  split
  · exact setPool_layout ..
  · rfl

end Channels

namespace Tenancy

/-- Nothing is held of a layout at first. -/
def new (l : Layout) : Tenancy := ⟨Channels.new l, fun _ => ∅⟩

/-- Makes a use of the channels and keeps account of the numbers that are held. -/
def step (t : Tenancy) : Channels.Use → Tenancy
  | .alloc k =>
    match t.channels.alloc k with
    | (some id, channels) => ⟨channels, Function.update t.held k (insert id (t.held k))⟩
    | (none, channels) => ⟨channels, t.held⟩
  | .release k id => ⟨t.channels.release k id, Function.update t.held k ((t.held k).erase id)⟩

def run (t : Tenancy) (uses : List Channels.Use) : Tenancy := uses.foldl step t

/-- What uses from the start on come to. -/
def after (l : Layout) (uses : List Channels.Use) : Tenancy := (new l).run uses

/-- The invariant of a run: the numbers held are those of the channels that are owned and not free. -/
structure Inv (l : Layout) (t : Tenancy) : Prop where
  layout_eq : t.channels.layout = l
  sound (k : Kind) : (t.channels.pool k).Sound
  present (k : Kind) : (t.channels.pool k).present.ids = l.places k
  held (k : Kind) (id : UInt32) : id ∈ t.held k ↔ (l.base k).toNat ≤ id.toNat ∧
    id.toNat - (l.base k).toNat ∈ l.places k ∧ id.toNat - (l.base k).toNat ∉ (t.channels.pool k).free.ids

theorem inv_new {l : Layout} (h : l.Fits) : Inv l (new l) := by
  have hpool : ∀ k, (Channels.new l).pool k = l.pool k := fun k => by cases k <;> rfl
  refine ⟨rfl, fun k => ?_, fun k => ?_, fun k id => ?_⟩
  · rw [new, hpool]
    exact h.sound_pool k
  · rw [new, hpool]
    exact (h.ids_pool k).1
  · rw [new, hpool, (h.ids_pool k).2]
    refine iff_of_false (Finset.notMem_empty id) ?_
    rintro ⟨_, hmem, hfree⟩
    exact hfree hmem

/-- The number of a channel that a pool owns: no sum wraps. -/
theorem toNat_number {l : Layout} (hl : l.Fits) {k : Kind} (index : UInt32) (h : index.toNat ∈ l.places k) :
    (index + l.base k).toNat = index.toNat + (l.base k).toNat := by
  have hlt := Layout.lt_of_mem_places h
  have hend := hl.end_le k
  rw [UInt32.toNat_add]
  exact Nat.mod_eq_of_lt (by omega)

theorem Inv.mem_places {l : Layout} {t : Tenancy} (h : Inv l t) {k : Kind} {index : UInt32} {pool : Pool}
    (hp : (t.channels.pool k).alloc = (some index, pool)) : index.toNat ∈ l.places k := by
  rw [← h.present k]
  exact (h.sound k).subset (Pool.alloc_eq_some (h.sound k) hp).1

theorem Inv.alloc {l : Layout} (hl : l.Fits) {t : Tenancy} (h : Inv l t) (k : Kind) : Inv l (t.step (.alloc k)) := by
  rw [step]
  cases ha : t.channels.alloc k with
  | mk result channels =>
    cases result with
    | none =>
      obtain ⟨_, rfl⟩ := Channels.alloc_eq_none ha
      exact h
    | some id =>
      obtain ⟨index, pool, hp, rfl, rfl⟩ := Channels.alloc_eq_some ha
      obtain ⟨_, _, hfree, hpresent, hsound⟩ := Pool.alloc_eq_some (h.sound k) hp
      have hplace := h.mem_places hp
      have hnumber := toNat_number hl index hplace
      refine ⟨(Channels.setPool_layout ..).trans h.layout_eq, fun j => ?_, fun j => ?_, fun j id => ?_⟩
      · rw [Channels.pool_setPool]
        split
        · exact hsound
        · exact h.sound j
      · rw [Channels.pool_setPool]
        split
        · rename_i hj
          rw [hpresent, hj, h.present k]
        · exact h.present j
      · rw [Channels.pool_setPool, h.layout_eq]
        show id ∈ Function.update t.held k (insert (index + l.base k) (t.held k)) j ↔ _
        by_cases hj : j = k
        · subst hj
          -- A number is the new one iff its place is the one that was taken, for the sum does not wrap.
          have hid : id = index + l.base j ↔
              (l.base j).toNat ≤ id.toNat ∧ id.toNat - (l.base j).toNat = index.toNat := by
            rw [← UInt32.toNat_inj, hnumber]
            omega
          rw [if_pos rfl, Function.update_self, Finset.mem_insert, h.held, hfree, Finset.mem_erase, hid]
          constructor
          · rintro (⟨hb, hx⟩ | ⟨hb, hx, hn⟩)
            · exact ⟨hb, hx ▸ hplace, fun hx' => hx'.1 hx⟩
            · exact ⟨hb, hx, fun hx' => hn hx'.2⟩
          · rintro ⟨hb, hx, hn⟩
            by_cases hi : id.toNat - (l.base j).toNat = index.toNat
            · exact Or.inl ⟨hb, hi⟩
            · exact Or.inr ⟨hb, hx, fun hx' => hn ⟨hi, hx'⟩⟩
        · rw [if_neg hj, Function.update_of_ne hj]
          exact h.held j id

theorem Inv.release {l : Layout} {t : Tenancy} (h : Inv l t) (k : Kind) (id : UInt32) :
    Inv l (t.step (.release k id)) := by
  have hpool : ∀ j, (t.step (.release k id)).channels.pool j = if j = k ∧ l.base k ≤ id
      then (t.channels.pool k).release (id - l.base k) else t.channels.pool j := fun j => by
    rw [← h.layout_eq]
    exact Channels.pool_release ..
  refine ⟨(Channels.release_layout ..).trans h.layout_eq, fun j => ?_, fun j => ?_, fun j id' => ?_⟩
  · rw [hpool]
    split
    · exact (h.sound k).release _
    · exact h.sound j
  · rw [hpool]
    split
    · rename_i hj
      rw [Pool.release_present, hj.1, h.present k]
    · exact h.present j
  · rw [hpool]
    show id' ∈ Function.update t.held k ((t.held k).erase id) j ↔ _
    by_cases hj : j = k
    · subst hj
      rw [Function.update_self, Finset.mem_erase, h.held]
      by_cases hb : l.base j ≤ id
      · have hsub : (id - l.base j).toNat = id.toNat - (l.base j).toNat := UInt32.toNat_sub_of_le _ _ hb
        rw [UInt32.le_iff_toNat_le] at hb
        have hid : (l.base j).toNat ≤ id'.toNat →
            (id' = id ↔ id'.toNat - (l.base j).toNat = id.toNat - (l.base j).toNat) := fun hb' => by
          rw [← UInt32.toNat_inj]
          omega
        rw [if_pos ⟨rfl, UInt32.le_iff_toNat_le.2 hb⟩, Pool.ids_release (h.sound j), h.present j, hsub]
        -- A number without a place in the pool is none of those held, so its release is no loss.
        by_cases hx : id.toNat - (l.base j).toNat ∈ l.places j
        · rw [if_pos hx, Finset.mem_insert]
          constructor
          · rintro ⟨hne, hb', hx', hn⟩
            exact ⟨hb', hx', fun e => e.elim (fun e => hne ((hid hb').2 e)) hn⟩
          · rintro ⟨hb', hx', hn⟩
            exact ⟨fun e => hn (Or.inl ((hid hb').1 e)), hb', hx', fun e => hn (Or.inr e)⟩
        · rw [if_neg hx]
          refine and_iff_right_of_imp ?_
          rintro ⟨hb', hx', _⟩ e
          exact hx ((hid hb').1 e ▸ hx')
      · rw [if_neg fun e => hb e.2]
        refine and_iff_right_of_imp ?_
        rintro ⟨hb', _, _⟩ rfl
        exact hb (UInt32.le_iff_toNat_le.2 hb')
    · rw [if_neg fun e => hj e.1, Function.update_of_ne hj]
      exact h.held j id'

theorem Inv.run {l : Layout} (hl : l.Fits) {t : Tenancy} (h : Inv l t) (uses : List Channels.Use) :
    Inv l (t.run uses) := by
  induction uses generalizing t with
  | nil => exact h
  | cons use uses ih =>
    refine ih ?_
    cases use with
    | alloc k => exact h.alloc hl k
    | release k id => exact h.release k id

/-! ## What the invariant says -/

theorem Inv.inRange_of_held {l : Layout} {t : Tenancy} (h : Inv l t) {k : Kind} {id : UInt32} (hid : id ∈ t.held k) :
    l.InRange k id := by
  obtain ⟨hb, hx, _⟩ := (h.held k id).1 hid
  have := Layout.lt_of_mem_places hx
  exact ⟨hb, by omega⟩

theorem Inv.alloc_eq_some {l : Layout} (hl : l.Fits) (hs : l.Separate) {t : Tenancy} (h : Inv l t) {k : Kind}
    {id : UInt32} {channels : Channels} (ha : t.channels.alloc k = (some id, channels)) :
    l.InRange k id ∧ (∀ j, Layout.reservesFirst j = true → 0 < (l.count j).toNat → id ≠ l.base j) ∧
      ∀ j, id ∉ t.held j := by
  obtain ⟨index, pool, hp, rfl, rfl⟩ := Channels.alloc_eq_some ha
  obtain ⟨hmem, _⟩ := Pool.alloc_eq_some (h.sound k) hp
  have hplace := h.mem_places hp
  have hnumber := toNat_number hl index hplace
  rw [h.layout_eq]
  have hrange : l.InRange k (index + l.base k) := by
    have := Layout.lt_of_mem_places hplace
    exact ⟨by omega, by omega⟩
  refine ⟨hrange, fun j hj hcount e => ?_, fun j hj => ?_⟩
  · have hfirst : l.InRange j (l.base j) := ⟨Nat.le_refl _, by omega⟩
    rw [e] at hrange
    obtain rfl := hs j k _ hfirst hrange
    refine Layout.ne_zero_of_mem_places hj hplace ?_
    rw [← UInt32.toNat_inj, hnumber] at e
    omega
  · obtain rfl := hs j k _ (h.inRange_of_held hj) hrange
    obtain ⟨_, _, hn⟩ := (h.held j _).1 hj
    rw [hnumber, Nat.add_sub_cancel] at hn
    exact hn hmem

theorem Inv.release_of_not_held {l : Layout} {t : Tenancy} (h : Inv l t) {k : Kind} {id : UInt32}
    (hid : id ∉ t.held k) : t.channels.release k id = t.channels := by
  rw [h.held] at hid
  unfold Channels.release
  rw [h.layout_eq]
  by_cases hb : l.base k ≤ id
  · have hsub : (id - l.base k).toNat = id.toNat - (l.base k).toNat := UInt32.toNat_sub_of_le _ _ hb
    rw [if_pos hb, Pool.release_eq_self (h.sound k), Channels.setPool_pool]
    rw [hsub, h.present k]
    by_contra hn
    rw [not_or, not_not] at hn
    exact hid ⟨UInt32.le_iff_toNat_le.1 hb, hn.2, hn.1⟩
  · rw [if_neg hb]

theorem Inv.card_held {l : Layout} (hl : l.Fits) {t : Tenancy} (h : Inv l t) (k : Kind) :
    (t.held k).card + (t.channels.pool k).available = l.unreserved k := by
  have hsub : (t.channels.pool k).free.ids ⊆ l.places k := by
    rw [← h.present k]
    exact (h.sound k).subset
  -- Taking the base off is a bijection from the numbers held to the places that are not free.
  have hcard : (t.held k).card = (l.places k \ (t.channels.pool k).free.ids).card := by
    refine Finset.card_bij (fun id _ => id.toNat - (l.base k).toNat) (fun id hid => ?_) (fun id hid id' hid' e => ?_)
      fun i hi => ?_
    · obtain ⟨_, hx, hn⟩ := (h.held k id).1 hid
      exact Finset.mem_sdiff.2 ⟨hx, hn⟩
    · have h1 := ((h.held k id).1 hid).1
      have h2 := ((h.held k id').1 hid').1
      rw [← UInt32.toNat_inj]
      omega
    · obtain ⟨hx, hn⟩ := Finset.mem_sdiff.1 hi
      have hlt := Layout.lt_of_mem_places hx
      have hend := hl.end_le k
      have hi : (UInt32.ofNat i).toNat = i := UInt32.toNat_ofNat_of_lt' (by show i < 2 ^ 32; omega)
      have hnumber := toNat_number hl (UInt32.ofNat i) (by rw [hi]; exact hx)
      rw [hi] at hnumber
      have hback : (UInt32.ofNat i + l.base k).toNat - (l.base k).toNat = i := by omega
      refine ⟨UInt32.ofNat i + l.base k, (h.held k _).2 ⟨by omega, ?_⟩, hback⟩
      rw [hback]
      exact ⟨hx, hn⟩
  rw [hcard, Pool.available_eq_card, Finset.card_sdiff_of_subset hsub, ← Layout.card_places]
  exact Nat.sub_add_cancel (Finset.card_le_card hsub)

end Tenancy

/-! ## Exclusive ownership -/

/-- Exclusive ownership: after any run on an accepted configuration whose ranges do not overlap, the next
number handed out lies in the range of its kind, is not reserved and is held by nobody, and the release of a
number that its pool does not hold changes nothing. -/
theorem channels_exclusive {config : Platform.ChannelConfig} {l : Layout} (h : config.accept = .ok l)
    (hs : l.Separate) (uses : List Channels.Use) :
    (∀ k id channels, (Tenancy.after l uses).channels.alloc k = (some id, channels) →
      l.InRange k id ∧ (∀ j, Layout.reservesFirst j = true → 0 < (l.count j).toNat → id ≠ l.base j) ∧
        ∀ j, id ∉ (Tenancy.after l uses).held j) ∧
    (∀ k, ((Tenancy.after l uses).channels.alloc k).1 = none →
      ((Tenancy.after l uses).channels.pool k).available = 0) ∧
    (∀ k id, id ∉ (Tenancy.after l uses).held k →
      (Tenancy.after l uses).channels.release k id = (Tenancy.after l uses).channels) ∧
    ∀ k, ((Tenancy.after l uses).held k).card + ((Tenancy.after l uses).channels.pool k).available =
      l.unreserved k := by
  have hl := Platform.ChannelConfig.fits_of_accept h
  have hinv := (Tenancy.inv_new hl).run hl uses
  refine ⟨fun k id channels ha => hinv.alloc_eq_some hl hs ha, fun k hn => ?_,
    fun k id hid => hinv.release_of_not_held hid, hinv.card_held hl⟩
  obtain ⟨hempty, _⟩ := Channels.alloc_eq_none (Prod.ext hn rfl)
  rw [Pool.available_eq_card, hempty, Finset.card_empty]

theorem Layout.default_separate : Layout.default.Separate := by
  rintro j k id ⟨hj, hj'⟩ ⟨hk, hk'⟩
  cases j <;> cases k <;> simp [Layout.default, base, count] at hj hj' hk hk' ⊢ <;> omega

/-- A run with releases of a reserved number, of a number of another kind and of a free number. -/
def someUses : List Channels.Use :=
  [.alloc .linear, .alloc .twoD, .alloc .fifo, .release .linear 0, .release .fifo 33, .release .twoD 33,
    .release .twoD 33]

theorem default_exclusive :
    Platform.ChannelConfig.default.accept = .ok Layout.default ∧ Layout.default.Separate ∧
      (Tenancy.after Layout.default someUses).held .fifo = {40} ∧
      (∀ id channels, (Tenancy.after Layout.default someUses).channels.alloc .fifo = (some id, channels) →
        ∀ j, id ∉ (Tenancy.after Layout.default someUses).held j) ∧
      ((Tenancy.after Layout.default someUses).held .twoD).card +
        ((Tenancy.after Layout.default someUses).channels.pool .twoD).available = 7 := by
  have haccept : Platform.ChannelConfig.default.accept = .ok Layout.default := rfl
  obtain ⟨halloc, _, _, hcount⟩ := channels_exclusive haccept Layout.default_separate someUses
  exact ⟨haccept, Layout.default_separate, by decide, fun id channels h => (halloc .fifo id channels h).2.2,
    hcount .twoD⟩

end Sallyport.Dma
