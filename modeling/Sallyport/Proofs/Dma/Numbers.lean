/-
The numbers of an accepted configuration are numbers that drivers can use. The image computes in words
that must not overflow (`Dma.Checked`); an accepted layout keeps every word within reach of an index,
where each of these functions has the result of the unchecked one.
-/
import Sallyport.Dma.Checked
import Sallyport.Platform.Generate
import Sallyport.Proofs.Dma.Boundary

namespace Sallyport.Dma

/-! ## Words that do not overflow -/

namespace Word

variable {a b : UInt32}

theorem mul?_of_lt (h : a.toNat * b.toNat < 2 ^ 32) : mul? a b = some (a * b) := if_pos h

theorem add?_of_lt (h : a.toNat + b.toNat < 2 ^ 32) : add? a b = some (a + b) := if_pos h

theorem sub?_of_le (h : b ≤ a) : sub? a b = some (a - b) := if_pos h

theorem bit?_of_lt {i : UInt32} (h : i < 32) : bit? i = some (bit i) := if_pos h

theorem toNat_add_of_lt (h : a.toNat + b.toNat < 2 ^ 32) : (a + b).toNat = a.toNat + b.toNat := by
  rw [UInt32.toNat_add]
  exact Nat.mod_eq_of_lt h

theorem start_of_lt {w : ℕ} (h : 32 * w < 2 ^ 32) :
    mul? (UInt32.ofNat w) 32 = some (UInt32.ofNat (32 * w)) ∧ (UInt32.ofNat (32 * w)).toNat = 32 * w := by
  have hw : (UInt32.ofNat w).toNat = w := UInt32.toNat_ofNat_of_lt' (by show w < 2 ^ 32; omega)
  have hstart : (UInt32.ofNat (32 * w)).toNat = 32 * w := UInt32.toNat_ofNat_of_lt' h
  have hfits : (UInt32.ofNat w).toNat * (32 : UInt32).toNat < 2 ^ 32 := by
    show (UInt32.ofNat w).toNat * 32 < 2 ^ 32
    omega
  refine ⟨?_, hstart⟩
  rw [mul?_of_lt hfits, Option.some.injEq, ← UInt32.toNat_inj, UInt32.toNat_mul, Nat.mod_eq_of_lt hfits, hstart]
  show (UInt32.ofNat w).toNat * 32 = 32 * w
  omega

end Word

/-! ## Pools -/

namespace Bitmap

/-- A word that ends within reach is computed without overflow. -/
theorem wordBelow?_eq {w : ℕ} (h : 32 * w + 32 < 2 ^ 32) (count : UInt32) :
    wordBelow? count w = some (if 32 * w + 32 ≤ count.toNat then 0xffffffff
      else if 32 * w < count.toNat then Word.bit (UInt32.ofNat (count.toNat - 32 * w)) - 1 else 0) := by
  obtain ⟨hstart, hs⟩ := Word.start_of_lt (w := w) (by omega)
  have hfits : (UInt32.ofNat (32 * w)).toNat + (32 : UInt32).toNat < 2 ^ 32 := by rw [hs]; exact h
  have ht : (UInt32.ofNat (32 * w) + 32).toNat = 32 * w + 32 := by rw [Word.toNat_add_of_lt hfits, hs]; rfl
  have hstop := Word.add?_of_lt hfits
  unfold wordBelow?
  simp only [hstart, hstop, Option.bind_eq_bind, Option.bind_some, UInt32.le_iff_toNat_le, UInt32.lt_iff_toNat_lt, hs, ht]
  split
  · rfl
  split
  · rename_i hfull hsome
    -- The number of channels that are left is the index of a bit, and that bit is not nothing.
    have hle : UInt32.ofNat (32 * w) ≤ count := by rw [UInt32.le_iff_toNat_le, hs]; omega
    have hrest : count - UInt32.ofNat (32 * w) = UInt32.ofNat (count.toNat - 32 * w) := by
      rw [← UInt32.toNat_inj, UInt32.toNat_sub_of_le _ _ hle, hs]
      exact (UInt32.toNat_ofNat_of_lt' (by have := count.toNat_lt; show _ < 2 ^ 32; omega)).symm
    have hlt : (UInt32.ofNat (count.toNat - 32 * w)).toNat < 32 := by
      rw [Word.toNat_ofNat_of_lt (by omega)]
      omega
    have hbit : Word.bit? (UInt32.ofNat (count.toNat - 32 * w)) = some (Word.bit _) :=
      Word.bit?_of_lt (UInt32.lt_iff_toNat_lt.2 hlt)
    have hone : 1 ≤ Word.bit (UInt32.ofNat (count.toNat - 32 * w)) := by
      rw [UInt32.le_iff_toNat_le, Word.toNat_bit hlt]
      exact Nat.one_le_two_pow
    rw [Word.sub?_of_le hle, hrest]
    simp only [Option.bind_some, hbit]
    exact Word.sub?_of_le hone
  · rfl

/-- The last word of all is out of reach, though the numbers in it are not. -/
example : wordBelow? 0xffffffff 0x7fffffe = some 0xffffffff ∧ wordBelow? 0xffffffff 0x7ffffff = none := by decide

theorem below?_eq {words : ℕ} (h : 32 * words < 2 ^ 32) (count : UInt32) :
    below? words count = some (below words count.toNat) := by
  have key : ∀ ws : List ℕ, (∀ w ∈ ws, 32 * w + 32 < 2 ^ 32) → ws.mapM (wordBelow? count) =
      some (ws.map fun w => if 32 * w + 32 ≤ count.toNat then 0xffffffff
        else if 32 * w < count.toNat then Word.bit (UInt32.ofNat (count.toNat - 32 * w)) - 1 else 0) := by
    intro ws hws
    induction ws with
    | nil => rfl
    | cons w ws ih =>
      rw [List.mapM_cons, wordBelow?_eq (hws w (List.mem_cons_self ..)), ih fun v hv => hws v (List.mem_cons_of_mem _ hv)]
      rfl
  refine key (List.range words) fun w hw => ?_
  have := List.mem_range.1 hw
  omega

end Bitmap

namespace Pool

theorem new?_eq {words : ℕ} (h : 32 * words < 2 ^ 32) (count : UInt32) : new? words count = some (new words count) := by
  unfold new?
  rw [Bitmap.below?_eq h]
  rfl

end Pool

/-! ## Channels -/

namespace Layout

variable {l : Layout}

theorem Fits.words_lt (h : l.Fits) (k : Kind) : 32 * l.words k < 2 ^ 32 := by
  cases k with
  | linear =>
    have hend := h.end_le .linear
    show 32 * ((l.linear.toNat + 31) / 32) < 2 ^ 32
    have : l.base .linear = 0 := rfl
    have : (l.count .linear).toNat = l.linear.toNat := rfl
    omega
  | twoD => exact (by decide : 32 * 1 < 2 ^ 32)
  | fifo => exact (by decide : 32 * 1 < 2 ^ 32)

theorem Fits.pool?_eq (h : l.Fits) (k : Kind) : l.pool? k = some (l.pool k) := by
  unfold pool?
  rw [Pool.new?_eq (h.words_lt k)]
  rfl

end Layout

theorem Tenancy.channels_step_alloc (t : Tenancy) (k : Kind) :
    (t.step (.alloc k)).channels = (t.channels.alloc k).2 := by
  unfold step
  dsimp only
  rcases t.channels.alloc k with ⟨_ | id, channels⟩ <;> rfl

namespace Channels

variable {l : Layout}

theorem new?_eq (h : l.Fits) : new? l = some (new l) := by
  unfold new?
  rw [h.pool?_eq, h.pool?_eq, h.pool?_eq]
  rfl

end Channels

/-! ## Accepted configurations -/

end Sallyport.Dma

namespace Sallyport.Platform

open Dma (Kind Channels Tenancy)

/-- Whatever reads it, an accepted configuration has the file of its layout generated. -/
theorem generate_channels {read : Reader} {config : Option String} {c : ChannelConfig}
    (h : sectionOr ChannelConfig.default ChannelConfig.ofDocument? config read = .ok c) :
    (generate .channels config .usable read).file = c.accept.map fun l => file (ChannelConfig.constants l) := by
  unfold generate constants
  rw [h]
  cases ha : c.accept with
  | error e => simp [bind, Except.bind, Except.map, ha]
  | ok l => simp [bind, Except.bind, Except.map, ha, Output.check, pure, Except.pure]

namespace ChannelConfig

/-- Eight FIFO channels may end at the largest number of drivers, and not behind it. -/
example : (accept { default with fifoBase := some 0x7ffffff7 }).isOk = true ∧
    (accept { default with fifoBase := some 0x7ffffff8 }).isOk = false := by decide

end ChannelConfig

end Sallyport.Platform
