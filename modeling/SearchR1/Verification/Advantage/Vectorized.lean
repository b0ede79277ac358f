import SearchR1.Model.AsciiRuntime
import SearchR1.Model.GrpoVectorized
import SearchR1.Verification.Advantage.Isolation
import Mathlib.Analysis.Real.Sqrt

/-! # The vectorised GRPO advantage against the loop -/

namespace SearchR1.CoreAlgos

open PyText IndexLoop GroupStatistics

variable {n L : ℕ}

/-! ## One round -/

theorem mem_maskWhere (mask : Fin n → Bool) (i : Fin n) : i ∈ maskWhere mask ↔ mask i := by
  simp [maskWhere]

section Round

variable {K : Type*} [Field K] [LinearOrder K] (sqrt : SquareRoot K) (epsilon : K)
  (normAdvByStdInGrpo : Bool) (g : Fin n → ℤ) (mask : Fin n → Bool)

/-- What a round gathers are the values of the valid rows of its group. -/
theorem coe_gather_maskWhere {α : Type*} (scores : Fin n → α) (ug : ℤ) :
    (gather scores (maskWhere fun i => mask i && decide (g i = ug)) : Multiset α) =
      groupValues g mask scores ug := by
  rw [← coe_gather_npWhere, npWhere, List.filter_filter]
  rfl

/-- A round writes the scalars of its group from the scores it finds there. -/
theorem normalizeGroupInPlace_apply (scores : Fin n → K) (ug : ℤ) (i : Fin n) :
    normalizeGroupInPlace sqrt epsilon normAdvByStdInGrpo g mask scores ug i =
      if g i = ug then groupScalar sqrt epsilon normAdvByStdInGrpo g mask scores i
      else scores i := by
  have hvalues := coe_gather_maskWhere g mask scores ug
  have hcard : (maskWhere fun i => mask i && decide (g i = ug)).length =
      (groupValues g mask scores ug).card := by
    rw [← hvalues, gather, Multiset.coe_card, List.length_map]
  have hscatter : ∀ f : K → K,
      scatter scores (maskWhere fun i => mask i && decide (g i = ug))
        ((gather scores (maskWhere fun i => mask i && decide (g i = ug))).map f) i =
          if mask i ∧ g i = ug then f (scores i) else scores i := by
    intro f
    rw [gather, List.map_map, scatter_map]
    simp only [mem_maskWhere, Bool.and_eq_true, decide_eq_true_eq, Function.comp_apply]
  simp only [normalizeGroupInPlace, hcard]
  by_cases hug : g i = ug
  · subst hug
    rw [if_pos rfl, groupScalar]
    by_cases hlt : (groupValues g mask scores (g i)).card < 2
    · simp only [hlt, ite_true, true_or]
      rw [fill_apply, if_pos (by simp [mem_maskWhere])]
    · simp only [hlt, ite_false, false_or]
      rw [fill_apply]
      by_cases hmask : mask i
      · have hkept : i ∉ maskWhere fun j => decide (g j = g i) && !mask j := by
          simp [mem_maskWhere, hmask]
        rw [if_neg hkept, if_neg (not_not_intro hmask)]
        cases normAdvByStdInGrpo with
        | true =>
            rw [if_pos rfl, hscatter, if_pos ⟨hmask, rfl⟩]
            simp only [ite_true, standardize, groupDeviation, ← hvalues, groupMean_coe,
              groupVariance_coe]
        | false =>
            rw [if_neg Bool.false_ne_true, hscatter, if_pos ⟨hmask, rfl⟩]
            simp only [Bool.false_eq_true, ite_false, standardize, ← hvalues, groupMean_coe]
      · have hzeroed : i ∈ maskWhere fun j => decide (g j = g i) && !mask j := by
          simp [mem_maskWhere, hmask]
        rw [if_pos hzeroed, if_pos hmask]
  · rw [if_neg hug]
    split
    · rw [fill_apply, if_neg (by simp [mem_maskWhere, hug])]
    · rw [fill_apply, if_neg (by simp [mem_maskWhere, hug])]
      cases normAdvByStdInGrpo with
      | true => simp only [ite_true, hscatter, hug, and_false, ite_false]
      | false => simp only [Bool.false_eq_true, ite_false, hscatter, hug, and_false]

/-- A round reads the scores of its own group only. -/
theorem groupScalar_of_group {scores scores' : Fin n → K} {i : Fin n}
    (h : ∀ j, g j = g i → scores j = scores' j) :
    groupScalar sqrt epsilon normAdvByStdInGrpo g mask scores i =
      groupScalar sqrt epsilon normAdvByStdInGrpo g mask scores' i := by
  have hvalues : groupValues g mask scores (g i) = groupValues g mask scores' (g i) := by
    apply Multiset.map_congr rfl
    intro j hj
    have hgroup := Finset.mem_filter.mp (Finset.mem_def.mpr hj)
    exact h j hgroup.2.1
  simp only [groupScalar, hvalues, h i rfl]

/-- Although the scores are overwritten group by group, the loop computes every row's scalar from
the scores it started with. -/
theorem foldl_normalizeGroupInPlace (scores : Fin n → K) (i : Fin n) :
    (npUnique g).foldl (normalizeGroupInPlace sqrt epsilon normAdvByStdInGrpo g mask) scores i =
      groupScalar sqrt epsilon normAdvByStdInGrpo g mask scores i := by
  rw [foldl_labels_of_local g _ _ (nodup_npUnique g), if_pos (mem_npUnique g i),
    normalizeGroupInPlace_apply, if_pos rfl]
  · intro x u j hj
    rw [normalizeGroupInPlace_apply, if_neg hj]
  · rintro x y u h j rfl
    simp only [normalizeGroupInPlace_apply, ite_true]
    exact groupScalar_of_group sqrt epsilon normAdvByStdInGrpo g mask h

end Round

/-! ## Labels -/

/-- Two labellings with the same groups give the same scalars. -/
theorem groupScalar_of_labels {K U V : Type*} [Field K] [LinearOrder K] [LinearOrder U]
    [LinearOrder V] (sqrt : SquareRoot K) (epsilon : K) (normAdvByStdInGrpo : Bool)
    {index : Fin n → U} {index' : Fin n → V} (h : ∀ i j, index' i = index' j ↔ index i = index j)
    (mask : Fin n → Bool) (scores : Fin n → K) :
    groupScalar sqrt epsilon normAdvByStdInGrpo index' mask scores =
      groupScalar sqrt epsilon normAdvByStdInGrpo index mask scores := by
  funext i
  have hvalues : groupValues index' mask scores (index' i) =
      groupValues index mask scores (index i) := by
    simp only [groupValues, h]
  simp only [groupScalar, hvalues]

/-- Equal strings become equal integers. -/
theorem asTorchIndex_congr {F : Type} (py : Python F) {index : Fin n → Text} {i j : Fin n}
    (h : index i = index j) :
    asTorchIndex py (.strs index) i = asTorchIndex py (.strs index) j := by
  simp only [asTorchIndex]
  split <;> simp only [h]

/-- Strings that are not all numbers keep their groups. -/
theorem asTorchIndex_injective {F : Type} (py : Python F) {index : Fin n → Text}
    (hnumeric : ∃ i, toInt64 py (index i) = none) {i j : Fin n}
    (h : asTorchIndex py (.strs index) i = asTorchIndex py (.strs index) j) :
    index i = index j := by
  have hnot : ¬ ∀ i, (toInt64 py (index i)).isSome := by
    rcases hnumeric with ⟨k, hk⟩
    intro hall
    have hsome := hall k
    rw [hk] at hsome
    cases hsome
  simp only [asTorchIndex, hnot, ite_false, Nat.cast_inj] at h
  exact (List.idxOf_inj (mem_npUnique index i)).mp h

/-! ## Agreement -/

/-- Under a mask the loop and the vectorised version agree on integer labels, and on strings that
`as_torch_index` keeps apart. -/
theorem computeGrpoVectorizedOutcomeAdvantage_eq {F : Type} {K : Type*} (py : Python F)
    [Field K] [LinearOrder K] (sqrt : SquareRoot K) (rewards responseMask : Fin n → Fin L → K)
    (epsilon : K) (normAdvByStdInGrpo : Bool) (validSampleMask : Fin n → Bool) :
    (∀ index : Fin n → Text,
      (∀ i j, asTorchIndex py (.strs index) i = asTorchIndex py (.strs index) j →
        index i = index j) →
      computeGrpoVectorizedOutcomeAdvantage py sqrt rewards responseMask (.strs index) epsilon
          normAdvByStdInGrpo (some validSampleMask) =
        some (computeGrpoOutcomeAdvantage sqrt rewards responseMask index epsilon
          normAdvByStdInGrpo (some validSampleMask))) ∧
    ∀ index : Fin n → ℤ,
      computeGrpoVectorizedOutcomeAdvantage py sqrt rewards responseMask (.ints index) epsilon
          normAdvByStdInGrpo (some validSampleMask) =
        some (computeGrpoOutcomeAdvantage sqrt rewards responseMask index epsilon
          normAdvByStdInGrpo (some validSampleMask)) := by
  have hagree : ∀ {U : Type} [LinearOrder U] (labels : GroupIndex n) (index : Fin n → U),
      (∀ i j, asTorchIndex py labels i = asTorchIndex py labels j ↔ index i = index j) →
      computeGrpoVectorizedOutcomeAdvantage py sqrt rewards responseMask labels epsilon
          normAdvByStdInGrpo (some validSampleMask) =
        some (computeGrpoOutcomeAdvantage sqrt rewards responseMask index epsilon
          normAdvByStdInGrpo (some validSampleMask)) := by
    intro U _ labels index hlabels
    rw [computeGrpoVectorizedOutcomeAdvantage, Option.some_inj]
    funext i t
    rw [foldl_normalizeGroupInPlace, computeGrpoOutcomeAdvantage_apply, Option.getD_some,
      groupScalar_of_labels sqrt epsilon normAdvByStdInGrpo hlabels]
  constructor
  · intro index hinjective
    exact hagree (.strs index) index fun i j => ⟨hinjective i j, asTorchIndex_congr py⟩
  · intro index
    exact hagree (.ints index) index fun _ _ => Iff.rfl

/-- Two prompts, the first with two trajectories around the other's. -/
def promptLabels (i : Fin 3) : Text := if i.val = 1 then lit "prompt-b" else lit "prompt-a"

theorem computeGrpoVectorizedOutcomeAdvantage_promptLabels :
    computeGrpoVectorizedOutcomeAdvantage asciiPython ⟨Real.sqrt, Real.sqrt_nonneg⟩
        (fun i (_ : Fin 1) => (i.val : ℝ)) (fun _ _ => 1) (.strs promptLabels) 1 true
        (some fun _ => true) =
      some (computeGrpoOutcomeAdvantage ⟨Real.sqrt, Real.sqrt_nonneg⟩ (fun i _ => (i.val : ℝ))
        (fun _ _ => 1) promptLabels 1 true (some fun _ => true)) := by
  apply (computeGrpoVectorizedOutcomeAdvantage_eq asciiPython _ _ _ _ _ _).1
  intro i j
  exact asTorchIndex_injective asciiPython ⟨0, by decide⟩

end SearchR1.CoreAlgos
