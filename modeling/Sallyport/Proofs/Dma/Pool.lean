/-
A pool as two sets of channels, those it owns and, among them, those that are free. It is determined by
the two, and handing out, taking back and reserving are operations on them.
-/
import Sallyport.Dma.Pool
import Sallyport.Proofs.Dma.Bitmap

namespace Sallyport.Dma

/-! ## Bitmaps are determined by their sets -/

theorem Bitmap.eq_of_ids {b b' : Bitmap} (hlen : b.length = b'.length) (h : b.ids = b'.ids) : b = b' := by
  refine List.ext_getElem hlen fun k hk hk' => Word.bits_injective ?_
  ext i
  by_cases hi : i < 32
  · have hw : (32 * k + i) / 32 = k := by omega
    have hb : (32 * k + i) % 32 = i := by omega
    have := Bitmap.mem_ids (b := b) (i := 32 * k + i)
    rw [h, Bitmap.mem_ids, hw, hb, List.getD_eq_getElem _ _ hk, List.getD_eq_getElem _ _ hk'] at this
    exact this.symm
  · exact iff_of_false (fun h => hi (Word.lt_of_mem_bits h)) fun h => hi (Word.lt_of_mem_bits h)

/-! ## Pools -/

namespace Pool

/-- A pool in which no channel is free that is not owned, with words enough for both sets. -/
structure Sound (p : Pool) : Prop where
  subset : p.free.ids ⊆ p.present.ids
  length_eq : p.free.length = p.present.length
  fits : 32 * p.present.length ≤ 2 ^ 32

theorem eq_of_ids {p q : Pool} (hp : p.Sound) (hq : q.Sound) (hpresent : p.present = q.present)
    (hfree : p.free.ids = q.free.ids) : p = q := by
  have hlen : p.free.length = q.free.length := by rw [hp.length_eq, hq.length_eq, hpresent]
  cases p; cases q
  obtain rfl := Bitmap.eq_of_ids hlen hfree
  cases hpresent
  rfl

theorem available_eq_card (p : Pool) : p.available = p.free.ids.card := Bitmap.size_eq_card p.free

theorem isFree_iff {p : Pool} {id : UInt32} : p.isFree id = true ↔ id.toNat ∈ p.free.ids := Bitmap.contains_iff

theorem sound_new {words : ℕ} (h : 32 * words ≤ 2 ^ 32) (count : UInt32) : (Pool.new words count).Sound :=
  ⟨Finset.Subset.refl _, rfl, by simpa [Pool.new] using h⟩

theorem Sound.reserve {p : Pool} (h : p.Sound) (id : UInt32) : (p.reserve id).Sound := by
  refine ⟨?_, ?_, ?_⟩
  · show Bitmap.ids (p.free.erase id) ⊆ Bitmap.ids (p.present.erase id)
    rw [Bitmap.ids_erase, Bitmap.ids_erase]
    exact Finset.erase_subset_erase _ h.subset
  · show (p.free.erase id).length = (p.present.erase id).length
    rw [Bitmap.length_erase, Bitmap.length_erase, h.length_eq]
  · show 32 * (p.present.erase id).length ≤ 2 ^ 32
    rw [Bitmap.length_erase]
    exact h.fits

theorem alloc_eq_none {p q : Pool} (h : p.alloc = (none, q)) : p.free.ids = ∅ ∧ q = p := by
  rw [alloc] at h
  cases ht : p.free.takeLowest? with
  | none =>
    rw [ht] at h
    exact ⟨Bitmap.takeLowest?_eq_none ht, (Prod.mk.inj h).2.symm⟩
  | some taken => rw [ht] at h; cases h

/-- A pool hands out its lowest free channel, which is then not free; all else stays. -/
theorem alloc_eq_some {p q : Pool} {id : UInt32} (hp : p.Sound) (h : p.alloc = (some id, q)) :
    id.toNat ∈ p.free.ids ∧ (∀ j ∈ p.free.ids, id.toNat ≤ j) ∧ q.free.ids = p.free.ids.erase id.toNat ∧
      q.present = p.present ∧ q.Sound := by
  rw [alloc] at h
  cases ht : p.free.takeLowest? with
  | none => rw [ht] at h; cases h
  | some taken =>
    obtain ⟨i, free⟩ := taken
    rw [ht] at h
    obtain ⟨hid, rfl⟩ := Prod.mk.inj h
    obtain rfl := Option.some.inj hid
    obtain ⟨hmem, hmin, hids, hlen⟩ := Bitmap.takeLowest?_eq_some (by rw [hp.length_eq]; exact hp.fits) ht
    refine ⟨hmem, hmin, hids, rfl, ?_, hlen.trans hp.length_eq, hp.fits⟩
    show Bitmap.ids free ⊆ _
    rw [hids]
    exact (Finset.erase_subset _ _).trans hp.subset

theorem release_present (p : Pool) (id : UInt32) : (p.release id).present = p.present := by
  unfold release
  split <;> rfl

theorem ids_release {p : Pool} (hp : p.Sound) (id : UInt32) :
    (p.release id).free.ids = if id.toNat ∈ p.present.ids then insert id.toNat p.free.ids else p.free.ids := by
  unfold release
  by_cases h : p.present.contains id = true
  · have hmem := Bitmap.contains_iff.1 h
    have hlt := Bitmap.lt_of_mem_ids hmem
    rw [if_pos h, if_pos hmem]
    exact Bitmap.ids_insert p.free (by rw [hp.length_eq]; exact hlt)
  · rw [if_neg h, if_neg fun hmem => h (Bitmap.contains_iff.2 hmem)]

theorem Sound.release {p : Pool} (hp : p.Sound) (id : UInt32) : (p.release id).Sound := by
  refine ⟨?_, ?_, ?_⟩
  · rw [ids_release hp, release_present]
    split
    · exact Finset.insert_subset ‹_› hp.subset
    · exact hp.subset
  · rw [release_present, ← hp.length_eq]
    unfold Pool.release
    split
    · exact Bitmap.length_insert ..
    · rfl
  · rw [release_present]
    exact hp.fits

theorem release_eq_self {p : Pool} (hp : p.Sound) {id : UInt32}
    (h : id.toNat ∈ p.free.ids ∨ id.toNat ∉ p.present.ids) : p.release id = p := by
  refine eq_of_ids (hp.release id) hp (release_present p id) ?_
  rw [ids_release hp]
  rcases h with h | h
  · rw [Finset.insert_eq_of_mem h, ite_self]
  · rw [if_neg h]

end Pool

end Sallyport.Dma
