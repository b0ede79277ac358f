import Mathlib.Algebra.BigOperators.Group.Multiset.Basic
import Mathlib.Algebra.BigOperators.Group.Finset.Basic
import Mathlib.Algebra.BigOperators.Field
import Mathlib.Algebra.Order.BigOperators.Group.Multiset
import Mathlib.Algebra.Order.Field.Basic
import Mathlib.Data.Fintype.Basic

/-! # Mean and deviation of a group of values -/

namespace GroupStatistics

/-- A square root as far as signs go. -/
structure SquareRoot (K : Type*) [Zero K] [LE K] where
  toFun : K → K
  nonneg : ∀ x, 0 ≤ toFun x

/-- A square root of exact arithmetic. -/
structure ExactRoot (K : Type*) [Field K] [LE K] extends SquareRoot K where
  sq : ∀ x, 0 ≤ x → toFun x ^ 2 = x

section Definitions

variable {K : Type*} [Field K]

def mean (values : List K) : K := values.sum / values.length

/-- The unbiased variance. -/
def variance (values : List K) : K :=
  (values.map fun v => (v - mean values) ^ 2).sum / (values.length - 1)

/-- The variance of a whole population. -/
def populationVariance (values : List K) : K :=
  (values.map fun v => (v - mean values) ^ 2).sum / values.length

/-- The statistics of a group do not depend on the order of its values. -/
def groupMean (values : Multiset K) : K := values.sum / values.card

def groupVariance (values : Multiset K) : K :=
  (values.map fun v => (v - groupMean values) ^ 2).sum / (values.card - 1)

@[simp] theorem groupMean_coe (values : List K) : groupMean (values : Multiset K) = mean values := by
  simp [groupMean, mean]

@[simp] theorem groupVariance_coe (values : List K) :
    groupVariance (values : Multiset K) = variance values := by
  simp [groupVariance, variance]

end Definitions

variable {K : Type*} [Field K] [LinearOrder K]

def groupDeviation (sqrt : SquareRoot K) (values : Multiset K) : K :=
  sqrt.toFun (groupVariance values)

/-- A value relative to its group. -/
def standardize (sqrt : SquareRoot K) (epsilon : K) (byDeviation : Bool) (values : Multiset K)
    (v : K) : K :=
  if byDeviation then (v - groupMean values) / (groupDeviation sqrt values + epsilon)
  else v - groupMean values

/-! ## Signs -/

section Signs

variable [IsStrictOrderedRing K]

theorem standardize_eq_zero_iff (sqrt : SquareRoot K) {epsilon : K} (heps : 0 < epsilon)
    (byDeviation : Bool) (values : Multiset K) (v : K) :
    standardize sqrt epsilon byDeviation values v = 0 ↔ v = groupMean values := by
  have hpos : groupDeviation sqrt values + epsilon ≠ 0 :=
    (add_pos_of_nonneg_of_pos (sqrt.nonneg _) heps).ne'
  unfold standardize
  split
  · rw [div_eq_zero_iff, or_iff_left hpos, sub_eq_zero]
  · rw [sub_eq_zero]

theorem standardize_strictMono (sqrt : SquareRoot K) {epsilon : K} (heps : 0 < epsilon)
    (byDeviation : Bool) (values : Multiset K) :
    StrictMono (standardize sqrt epsilon byDeviation values) := by
  have hpos : 0 < groupDeviation sqrt values + epsilon :=
    add_pos_of_nonneg_of_pos (sqrt.nonneg _) heps
  intro v w hvw
  have hsub : v - groupMean values < w - groupMean values := sub_lt_sub_right hvw _
  cases byDeviation with
  | true =>
      simp only [standardize, ite_true]
      exact div_lt_div_of_pos_right hsub hpos
  | false =>
      simp only [standardize, Bool.false_eq_true, ite_false]
      exact hsub

theorem groupVariance_nonneg {values : Multiset K} (hcard : values ≠ 0) :
    0 ≤ groupVariance values := by
  have hsize : (1 : K) ≤ values.card := by
    exact_mod_cast Multiset.card_pos.mpr hcard
  apply div_nonneg
  · apply Multiset.sum_nonneg
    intro x hx
    rcases Multiset.mem_map.mp hx with ⟨v, _, rfl⟩
    exact sq_nonneg _
  · exact sub_nonneg.mpr hsize

/-- The deviations from the mean cancel. -/
theorem sum_sub_groupMean (values : Multiset K) :
    (values.map fun v => v - groupMean values).sum = 0 := by
  rw [Multiset.sum_map_sub, Multiset.map_id', Multiset.map_const', Multiset.sum_replicate,
    nsmul_eq_mul, groupMean]
  by_cases hzero : values = 0
  · simp [hzero]
  · have hcard : (values.card : K) ≠ 0 := by
      exact_mod_cast Multiset.card_eq_zero.not.mpr hzero
    rw [mul_div_cancel₀ _ hcard, sub_self]

theorem sum_standardize (sqrt : SquareRoot K) (epsilon : K) (byDeviation : Bool)
    (values : Multiset K) :
    (values.map fun v => standardize sqrt epsilon byDeviation values v).sum = 0 := by
  cases byDeviation with
  | true =>
      simp only [standardize, ite_true]
      rw [Multiset.sum_map_div, sum_sub_groupMean, zero_div]
  | false =>
      simp only [standardize, Bool.false_eq_true, ite_false]
      exact sum_sub_groupMean values

end Signs

/-! ## Values without deviation -/

section Constant

variable [IsStrictOrderedRing K]

end Constant

/-! ## Shifts -/

section Shifts

variable [IsStrictOrderedRing K]

theorem groupMean_shift {values : Multiset K} (hcard : values ≠ 0) (c : K) :
    groupMean (values.map (· + c)) = groupMean values + c := by
  have hne : (values.card : K) ≠ 0 := by
    exact_mod_cast Multiset.card_eq_zero.not.mpr hcard
  rw [groupMean, groupMean, Multiset.sum_map_add, Multiset.map_id', Multiset.map_const',
    Multiset.sum_replicate, nsmul_eq_mul, Multiset.card_map, add_div, mul_div_cancel_left₀ _ hne]

theorem groupVariance_shift {values : Multiset K} (hcard : values ≠ 0) (c : K) :
    groupVariance (values.map (· + c)) = groupVariance values := by
  rw [groupVariance, groupVariance, groupMean_shift hcard, Multiset.map_map, Multiset.card_map]
  simp only [Function.comp_apply, add_sub_add_right_eq_sub]

/-- The standardised values do not see a constant added to the whole group. -/
theorem standardize_shift (sqrt : SquareRoot K) (epsilon : K) (byDeviation : Bool)
    {values : Multiset K} (hcard : values ≠ 0) (c v : K) :
    standardize sqrt epsilon byDeviation (values.map (· + c)) (v + c) =
      standardize sqrt epsilon byDeviation values v := by
  simp only [standardize, groupDeviation, groupMean_shift hcard, groupVariance_shift hcard,
    add_sub_add_right_eq_sub]

end Shifts

/-! ## Groups of rows -/

section Rows

variable {ι κ U V : Type*} [Fintype ι] [Fintype κ] [DecidableEq U] [DecidableEq V]

/-- The values of the rows of a group that satisfy `p`. -/
def groupValues {α : Type*} (index : ι → U) (p : ι → Bool) (x : ι → α) (u : U) : Multiset α :=
  (Finset.univ.filter fun i => index i = u ∧ p i).val.map x

theorem groupValues_congr {α : Type*} {index : ι → U} {p : ι → Bool} {x y : ι → α}
    (h : ∀ i, p i → x i = y i) (u : U) : groupValues index p x u = groupValues index p y u := by
  apply Multiset.map_congr rfl
  intro i hi
  exact h i (Finset.mem_filter.mp hi).2.2

theorem groupValues_eq_subtype {α : Type*} (index : ι → U) (p : ι → Bool) (x : ι → α) (u : U) :
    groupValues index p x u =
      (Finset.univ.filter fun i : {i // index i = u} => (p i.1 : Prop)).val.map fun i => x i.1 := by
  have hmap : (Finset.univ.filter fun i => index i = u ∧ p i) =
      (Finset.univ.filter fun i : {i // index i = u} => (p i.1 : Prop)).map
        (Function.Embedding.subtype fun i => index i = u) := by
    ext i
    simp [and_comm]
  rw [groupValues, hmap, Finset.map_val, Multiset.map_map]
  rfl

/-- Rows that correspond one to one give the same values, in whatever batch they stand. -/
theorem groupValues_of_equiv {α : Type*} {index : ι → U} {index' : κ → V} {p : ι → Bool}
    {p' : κ → Bool} {x : ι → α} {x' : κ → α} {u : U} {v : V}
    (σ : {i // index i = u} ≃ {j // index' j = v}) (hp : ∀ i, p' (σ i).1 = p i.1)
    (hx : ∀ i, x' (σ i).1 = x i.1) : groupValues index' p' x' v = groupValues index p x u := by
  have hfilter : (Finset.univ.filter fun j : {j // index' j = v} => (p' j.1 : Prop)) =
      (Finset.univ.filter fun i : {i // index i = u} => (p i.1 : Prop)).map σ.toEmbedding := by
    ext j
    simp only [Finset.mem_filter, Finset.mem_univ, true_and, Finset.mem_map,
      Equiv.coe_toEmbedding]
    constructor
    · intro hj
      refine ⟨σ.symm j, ?_, σ.apply_symm_apply j⟩
      rwa [← hp, Equiv.apply_symm_apply]
    · intro h
      rcases h with ⟨i, hi, rfl⟩
      rw [hp]
      exact hi
  rw [groupValues_eq_subtype, groupValues_eq_subtype, hfilter, Finset.map_val, Multiset.map_map]
  apply Multiset.map_congr rfl
  intro i _
  exact hx i

end Rows

end GroupStatistics
