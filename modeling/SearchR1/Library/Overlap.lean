import Mathlib.Algebra.Order.Field.Basic
import Mathlib.Algebra.Order.Field.Rat
import Mathlib.Data.Multiset.UnionInter
import Mathlib.Tactic.FieldSimp
import Mathlib.Tactic.Ring

/-! # The overlap of two multisets -/

namespace Overlap

variable {α : Type*} [DecidableEq α] (s t : Multiset α)

/-- The share of common items in both multisets, zero when both are empty. -/
def dice : ℚ := 2 * ((s ∩ t).card : ℚ) / ((s.card : ℚ) + t.card)

theorem card_inter_le_left : (s ∩ t).card ≤ s.card := Multiset.card_le_card Multiset.inter_le_left

theorem card_inter_le_right : (s ∩ t).card ≤ t.card :=
  Multiset.card_le_card Multiset.inter_le_right

theorem dice_comm : dice s t = dice t s := by
  rw [dice, dice, Multiset.inter_comm, add_comm]

theorem dice_nonneg : 0 ≤ dice s t :=
  div_nonneg (mul_nonneg zero_le_two (Nat.cast_nonneg _))
    (add_nonneg (Nat.cast_nonneg _) (Nat.cast_nonneg _))

theorem dice_le_one : dice s t ≤ 1 := by
  have hleft : ((s ∩ t).card : ℚ) ≤ s.card := Nat.cast_le.mpr (card_inter_le_left s t)
  have hright : ((s ∩ t).card : ℚ) ≤ t.card := Nat.cast_le.mpr (card_inter_le_right s t)
  apply div_le_one_of_le₀
  · rw [two_mul]
    exact add_le_add hleft hright
  · exact add_nonneg (Nat.cast_nonneg _) (Nat.cast_nonneg _)

/-- The overlap is complete for equal multisets only. -/
theorem dice_eq_one_iff : dice s t = 1 ↔ s = t ∧ s ≠ 0 := by
  constructor
  · intro h
    have hne : (s.card : ℚ) + t.card ≠ 0 := by
      intro hzero
      rw [dice, hzero, div_zero] at h
      exact zero_ne_one h
    rw [dice, div_eq_one_iff_eq hne] at h
    have hcard : 2 * (s ∩ t).card = s.card + t.card := by exact_mod_cast h
    have hleft := card_inter_le_left s t
    have hright := card_inter_le_right s t
    have hs : s ∩ t = s := Multiset.eq_of_le_of_card_le Multiset.inter_le_left (by omega)
    have ht : s ∩ t = t := Multiset.eq_of_le_of_card_le Multiset.inter_le_right (by omega)
    refine ⟨hs.symm.trans ht, ?_⟩
    rintro rfl
    apply hne
    rw [← ht]
    simp
  · rintro ⟨rfl, hs⟩
    have hpos : (s.card : ℚ) ≠ 0 := Nat.cast_ne_zero.mpr (mt Multiset.card_eq_zero.mp hs)
    have hself : s ∩ s = s :=
      le_antisymm Multiset.inter_le_left (Multiset.le_inter le_rfl le_rfl)
    rw [dice, hself, two_mul, div_self]
    rw [← two_mul]
    exact mul_ne_zero two_ne_zero hpos

/-- The harmonic mean of the shares of the common items in the two multisets. -/
theorem harmonic_eq_dice (h : (s ∩ t).card ≠ 0) :
    2 * (((s ∩ t).card : ℚ) / s.card) * (((s ∩ t).card : ℚ) / t.card) /
        (((s ∩ t).card : ℚ) / s.card + ((s ∩ t).card : ℚ) / t.card) = dice s t := by
  have hleft := card_inter_le_left s t
  have hright := card_inter_le_right s t
  have hn : ((s ∩ t).card : ℚ) ≠ 0 := Nat.cast_ne_zero.mpr h
  have hs : (s.card : ℚ) ≠ 0 := Nat.cast_ne_zero.mpr (by omega)
  have ht : (t.card : ℚ) ≠ 0 := Nat.cast_ne_zero.mpr (by omega)
  unfold dice
  field_simp
  ring

end Overlap
