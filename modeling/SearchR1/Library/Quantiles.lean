import Mathlib.Algebra.BigOperators.Group.List.Lemmas
import Mathlib.Algebra.Order.BigOperators.Group.List
import Mathlib.Algebra.Order.Field.Basic
import Mathlib.Order.Defs.LinearOrder

/-! # Order statistics

The item at an index of a sorted list splits the list into the items up to it and the items
from it on, whatever ties there are. -/

namespace Quantiles

section Sorted

variable {α : Type*} [LinearOrder α] {xs : List α}

theorem le_getElem_of_mem_take (h : xs.Pairwise (· ≤ ·)) {i : ℕ} (hi : i < xs.length) {x : α}
    (hx : x ∈ xs.take (i + 1)) : x ≤ xs[i] := by
  obtain ⟨j, hj, rfl⟩ := List.mem_take_iff_getElem.mp hx
  have hji : j ≤ i := by omega
  exact h.rel_get_of_le (a := ⟨j, by omega⟩) (b := ⟨i, hi⟩) hji

theorem getElem_le_of_mem_drop (h : xs.Pairwise (· ≤ ·)) {i : ℕ} (hi : i < xs.length) {x : α}
    (hx : x ∈ xs.drop i) : xs[i] ≤ x := by
  obtain ⟨j, hj, rfl⟩ := List.mem_drop_iff_getElem.mp hx
  exact h.rel_get_of_le (a := ⟨i, hi⟩) (b := ⟨i + j, by omega⟩) (Nat.le_add_right i j)

/-- The items up to an index are at most the item there. -/
theorem lt_countP_le (h : xs.Pairwise (· ≤ ·)) {i : ℕ} (hi : i < xs.length) :
    i < xs.countP (· ≤ xs[i]) := by
  have htake : (xs.take (i + 1)).countP (· ≤ xs[i]) = i + 1 := by
    rw [List.countP_eq_length.mpr, List.length_take, Nat.min_eq_left hi]
    intro x hx
    simpa using le_getElem_of_mem_take h hi hx
  have hle := (List.take_sublist (i + 1) xs).countP_le (p := (· ≤ xs[i]))
  omega

/-- The items from an index on are at least the item there. -/
theorem length_sub_le_countP (h : xs.Pairwise (· ≤ ·)) {i : ℕ} (hi : i < xs.length) :
    xs.length - i ≤ xs.countP (xs[i] ≤ ·) := by
  have hdrop : (xs.drop i).countP (xs[i] ≤ ·) = xs.length - i := by
    rw [List.countP_eq_length.mpr, List.length_drop]
    intro x hx
    simpa using getElem_le_of_mem_drop h hi hx
  have hle := (List.drop_sublist i xs).countP_le (p := (xs[i] ≤ ·))
  omega

end Sorted

section Mean

variable {K : Type*} [Field K] [LinearOrder K] [IsStrictOrderedRing K] {xs : List K}

/-- A lower bound of the items is one of their mean. -/
theorem le_mean (hne : xs ≠ []) {a : K} (h : ∀ x ∈ xs, a ≤ x) : a ≤ xs.sum / xs.length := by
  have hlength : (0 : K) < xs.length := Nat.cast_pos.mpr (List.length_pos_iff.mpr hne)
  have hsum := List.card_nsmul_le_sum xs a h
  rw [nsmul_eq_mul] at hsum
  rw [le_div_iff₀ hlength, mul_comm]
  exact hsum

theorem mean_le (hne : xs ≠ []) {a : K} (h : ∀ x ∈ xs, x ≤ a) : xs.sum / xs.length ≤ a := by
  have hlength : (0 : K) < xs.length := Nat.cast_pos.mpr (List.length_pos_iff.mpr hne)
  have hsum := List.sum_le_card_nsmul xs a h
  rw [nsmul_eq_mul] at hsum
  rw [div_le_iff₀ hlength, mul_comm]
  exact hsum

end Mean

end Quantiles
