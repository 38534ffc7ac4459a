/-
A channel configuration is accepted exactly if the numbers of every kind, added up without bound, end at or
below the largest number drivers can name and the kinds of one word fit it. Then the sums that stop at
the largest word have not stopped.
-/
import Sallyport.Platform.Channels
import Mathlib.Algebra.Group.Nat.Defs

namespace Sallyport.Dma

/-- The numbers are numbers to drivers, and the pools have words enough but no more than they can index. -/
structure Layout.Fits (l : Layout) : Prop where
  hasLinear : 0 < l.linear.toNat
  end_le (k : Kind) : (l.base k).toNat + (l.count k).toNat ≤ 0x7fffffff
  count_le (k : Kind) : (l.count k).toNat ≤ 32 * l.words k
  words_le (k : Kind) : 32 * l.words k ≤ 2 ^ 32

end Sallyport.Dma

namespace Sallyport.Platform

open Dma (Layout Kind)

/-! ## Sums that stop -/

theorem toNat_saturatingAdd (a b : UInt32) : (saturatingAdd a b).toNat = min (a.toNat + b.toNat) 0xffffffff :=
  UInt32.toNat_ofNat_of_lt' (Nat.lt_of_le_of_lt (Nat.min_le_right ..) (by decide))

theorem toNat_largestId : ChannelConfig.largestId.toNat = 0x7fffffff := rfl

/-- A sum that stops at the largest word is too large for drivers just if the true sum is. -/
theorem largestId_lt_saturatingAdd_iff {a b : UInt32} :
    ChannelConfig.largestId < saturatingAdd a b ↔ 0x7fffffff < a.toNat + b.toNat := by
  rw [UInt32.lt_iff_toNat_lt, toNat_saturatingAdd, toNat_largestId]
  omega

namespace ChannelConfig

variable {c : ChannelConfig} {l : Layout}

/-! ## What is accepted -/

/-- The number of the first two-dimensional channel. -/
def firstTwoD (c : ChannelConfig) : ℕ := (c.twoDBase.map UInt32.toNat).getD c.linear.toNat

/-- The number of the first FIFO channel, which is a sum without bound if none is given. -/
def firstFifo (c : ChannelConfig) : ℕ := (c.fifoBase.map UInt32.toNat).getD (c.firstTwoD + c.twoD.toNat)

/-- A linear channel, at most a word of each other kind, and no end beyond the largest number of drivers. -/
structure Nameable (c : ChannelConfig) : Prop where
  linear_pos : 1 ≤ c.linear.toNat
  twoD_le : c.twoD.toNat ≤ 32
  fifo_le : c.fifo.toNat ≤ 32
  linear_end : c.linear.toNat ≤ 0x7fffffff
  twoD_end : c.firstTwoD + c.twoD.toNat ≤ 0x7fffffff
  fifo_end : c.firstFifo + c.fifo.toNat ≤ 0x7fffffff

theorem toNat_twoDBase (c : ChannelConfig) : c.layout.twoDBase.toNat = c.firstTwoD := by
  unfold layout firstTwoD
  cases c.twoDBase <;> rfl

theorem toNat_fifoBase (h : c.firstTwoD + c.twoD.toNat ≤ 0xffffffff) : c.layout.fifoBase.toNat = c.firstFifo := by
  have hbase := c.toNat_twoDBase
  unfold layout firstFifo at *
  cases c.fifoBase with
  | some base => rfl
  | none =>
    show (saturatingAdd (c.twoDBase.getD c.linear) c.twoD).toNat = c.firstTwoD + c.twoD.toNat
    dsimp only at hbase
    rw [toNat_saturatingAdd, hbase]
    omega

theorem ends_le_iff : (∀ e ∈ ends c.layout, ¬ largestId < e) ↔ c.linear.toNat ≤ 0x7fffffff ∧
    c.firstTwoD + c.twoD.toNat ≤ 0x7fffffff ∧ c.firstFifo + c.fifo.toNat ≤ 0x7fffffff := by
  have hlinear : ¬ largestId < c.linear ↔ c.linear.toNat ≤ 0x7fffffff := by
    rw [UInt32.lt_iff_toNat_lt, toNat_largestId, Nat.not_lt]
  have htwoD : ¬ largestId < saturatingAdd c.layout.twoDBase c.twoD ↔
      c.firstTwoD + c.twoD.toNat ≤ 0x7fffffff := by
    rw [largestId_lt_saturatingAdd_iff, toNat_twoDBase, Nat.not_lt]
  have hends : (∀ e ∈ ends c.layout, ¬ largestId < e) ↔ ¬ largestId < c.linear ∧
      ¬ largestId < saturatingAdd c.layout.twoDBase c.twoD ∧
      ¬ largestId < saturatingAdd c.layout.fifoBase c.fifo := by
    unfold ends
    simp only [List.forall_mem_cons, List.not_mem_nil, false_implies, implies_true, and_true]
    rfl
  rw [hends, hlinear, htwoD, largestId_lt_saturatingAdd_iff, Nat.not_lt]
  -- A FIFO base that stopped is behind two-dimensional channels that end too late anyway.
  refine and_congr_right fun _ => and_congr_right fun h => ?_
  rw [toNat_fifoBase (by omega)]

theorem nameable_iff : c.Nameable ↔ c.linear ≠ 0 ∧ c.twoD ≤ wordBits ∧ c.fifo ≤ wordBits ∧
    ∀ e ∈ ends c.layout, ¬ largestId < e := by
  have hbits : wordBits.toNat = 32 := rfl
  have hzero : c.linear ≠ 0 ↔ 1 ≤ c.linear.toNat := by
    rw [ne_eq, ← UInt32.toNat_inj, Nat.one_le_iff_ne_zero]
    rfl
  rw [ends_le_iff, hzero, UInt32.le_iff_toNat_le, UInt32.le_iff_toNat_le, hbits]
  constructor
  · rintro ⟨hpos, htwoD, hfifo, hlinearEnd, htwoDEnd, hfifoEnd⟩
    exact ⟨hpos, htwoD, hfifo, hlinearEnd, htwoDEnd, hfifoEnd⟩
  · rintro ⟨hpos, htwoD, hfifo, hlinearEnd, htwoDEnd, hfifoEnd⟩
    exact ⟨hpos, htwoD, hfifo, hlinearEnd, htwoDEnd, hfifoEnd⟩

theorem accept_eq_ok_iff : c.accept = .ok l ↔ c.Nameable ∧ l = c.layout := by
  rw [nameable_iff]
  unfold accept
  simp only [← UInt32.not_lt]
  constructor
  · intro h
    split at h
    · cases h
    split at h
    · cases h
    split at h
    · cases h
    split at h
    · cases h
    rename_i hlinear htwoD hfifo hends
    obtain rfl := Except.ok.inj h
    exact ⟨⟨hlinear, htwoD, hfifo, fun e he hlt => hends (List.any_eq_true.2 ⟨e, he, decide_eq_true hlt⟩)⟩, rfl⟩
  · rintro ⟨⟨hlinear, htwoD, hfifo, hends⟩, rfl⟩
    have hany : ¬ (ends c.layout).any (largestId < ·) = true := by
      rw [List.any_eq_true]
      rintro ⟨e, he, hlt⟩
      exact hends e he (of_decide_eq_true hlt)
    rw [if_neg hlinear, if_neg htwoD, if_neg hfifo, if_neg hany]

/-! ## What acceptance is worth -/

theorem Nameable.fits (h : c.Nameable) : c.layout.Fits := by
  have htwoD := c.toNat_twoDBase
  have hfifo := toNat_fifoBase (Nat.le_trans h.twoD_end (by decide))
  have hwords : c.layout.linearWords = (c.linear.toNat + 31) / 32 := rfl
  have hlinear := h.linear_end
  refine ⟨h.linear_pos, fun k => ?_, fun k => ?_, fun k => ?_⟩
  · cases k with
    | linear =>
      show 0 + c.linear.toNat ≤ 0x7fffffff
      omega
    | twoD =>
      show c.layout.twoDBase.toNat + c.twoD.toNat ≤ 0x7fffffff
      rw [htwoD]
      exact h.twoD_end
    | fifo =>
      show c.layout.fifoBase.toNat + c.fifo.toNat ≤ 0x7fffffff
      rw [hfifo]
      exact h.fifo_end
  · cases k with
    | linear =>
      show c.linear.toNat ≤ 32 * c.layout.linearWords
      omega
    | twoD => exact h.twoD_le
    | fifo => exact h.fifo_le
  · cases k with
    | linear =>
      show 32 * c.layout.linearWords ≤ 2 ^ 32
      omega
    | twoD => exact (by decide : 32 * 1 ≤ 2 ^ 32)
    | fifo => exact (by decide : 32 * 1 ≤ 2 ^ 32)

theorem fits_of_accept (h : c.accept = .ok l) : l.Fits := by
  obtain ⟨hc, rfl⟩ := accept_eq_ok_iff.1 h
  exact hc.fits

end ChannelConfig

end Sallyport.Platform
