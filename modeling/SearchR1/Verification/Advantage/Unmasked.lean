import SearchR1.Verification.Advantage.Vectorized

/-! # The GRPO advantage without a mask -/

namespace SearchR1.CoreAlgos

open PyText IndexLoop GroupStatistics

variable {n L : ℕ}

/-! ## Group statistics -/

section Statistics

variable {K : Type*} [Field K] [LinearOrder K] (sqrt : SquareRoot K) (g : Fin n → ℤ)
  (scores : Fin n → K)

/-- The values of a whole group. -/
def wholeGroup (u : ℤ) : Multiset K := groupValues g (fun _ => true) scores u

omit [LinearOrder K] in
theorem groupSum_congr {x y : Fin n → K} {u : ℤ} (h : ∀ i, g i = u → x i = y i) :
    groupSum g x u = groupSum g y u := by
  apply Finset.sum_congr rfl
  intro i _
  split
  · exact h i ‹g i = u›
  · rfl

omit [LinearOrder K] in
/-- A sum over the rows of a group is a sum over its values. -/
theorem groupSum_eq (f : K → K) (u : ℤ) :
    groupSum g (fun i => f (scores i)) u = ((wholeGroup g scores u).map f).sum := by
  rw [groupSum, ← Finset.sum_filter, wholeGroup, groupValues, Multiset.map_map]
  simp only [and_true]
  rfl

omit [LinearOrder K] in
theorem groupSum_one (u : ℤ) : groupSum g (fun _ => (1 : K)) u = (wholeGroup g scores u).card := by
  rw [groupSum_eq g scores fun _ => 1, Multiset.map_const', Multiset.sum_replicate, nsmul_one]

variable [IsStrictOrderedRing K]

/-- A group of one row has mean zero and deviation one. -/
theorem groupMeanStd_of_card_lt {u : ℤ} (hcard : (wholeGroup g scores u).card < 2) :
    groupMeanStd sqrt scores g 0 u = (0, 1) := by
  have hsmall : ((wholeGroup g scores u).card : K) ≤ 1 := by
    exact_mod_cast Nat.lt_succ_iff.mp hcard
  simp only [groupMeanStd, groupSum_one g scores, hsmall, ite_true]

/-- Groups of two or more rows have their mean and sample deviation. -/
theorem groupMeanStd_of_le_card {u : ℤ} (hcard : 2 ≤ (wholeGroup g scores u).card) :
    groupMeanStd sqrt scores g 0 u =
      (groupMean (wholeGroup g scores u), groupDeviation sqrt (wholeGroup g scores u)) := by
  have htwo : (2 : K) ≤ (wholeGroup g scores u).card := by
    exact_mod_cast hcard
  have hone : (1 : K) < (wholeGroup g scores u).card := lt_of_lt_of_le one_lt_two htwo
  have hmean : groupSum g scores u / max ((wholeGroup g scores u).card : K) 1 =
      groupMean (wholeGroup g scores u) := by
    rw [max_eq_left hone.le, groupMean]
    congr 1
    have hsum := groupSum_eq g scores id u
    rwa [Multiset.map_id] at hsum
  have hdenom : max ((wholeGroup g scores u).card - 1 : K) 1 = (wholeGroup g scores u).card - 1 := by
    apply max_eq_left
    linarith
  have hcentered : groupSum g (fun i =>
      (scores i - groupSum g scores (g i) / max ((wholeGroup g scores (g i)).card : K) 1) *
        (scores i - groupSum g scores (g i) / max ((wholeGroup g scores (g i)).card : K) 1)) u =
      ((wholeGroup g scores u).map fun v => (v - groupMean (wholeGroup g scores u)) ^ 2).sum := by
    rw [← groupSum_eq]
    apply groupSum_congr
    intro i hi
    rw [hi, hmean, sq]
  have hne : wholeGroup g scores u ≠ 0 := by
    intro hzero
    rw [hzero, Multiset.card_zero] at hcard
    omega
  simp only [groupMeanStd, groupSum_one g scores]
  rw [if_neg (not_le.mpr hone), hmean, hdenom, hcentered, max_eq_left]
  · rfl
  · exact groupVariance_nonneg hne

end Statistics

/-! ## Rows -/

/-- The number of trajectories in the group of one. -/
def groupSize {U : Type*} [LinearOrder U] (index : Fin n → U) (i : Fin n) : ℕ :=
  (Finset.univ.filter fun j => index j = index i).card

theorem card_wholeGroup {α : Type*} (g : Fin n → ℤ) (scores : Fin n → α) (i : Fin n) :
    (groupValues g (fun _ => true) scores (g i)).card = groupSize g i := by
  rw [card_groupValues, groupSize]
  simp only [and_true]

section Rows

variable {K : Type*} [Field K] [LinearOrder K] (sqrt : SquareRoot K) (epsilon : K)
  (normAdvByStdInGrpo : Bool)

/-- What a trajectory alone in its group gets: its score, over the deviation one. -/
def singletonScalar (score : K) : K :=
  if normAdvByStdInGrpo then score / (1 + epsilon) else score

theorem groupScalar_of_groupSize_lt {g : Fin n → ℤ} (scores : Fin n → K) {i : Fin n}
    (hsize : groupSize g i < 2) :
    groupScalar sqrt epsilon normAdvByStdInGrpo g (fun _ => true) scores i = 0 := by
  simp [groupScalar, card_wholeGroup, hsize]

theorem groupScalar_of_le_groupSize {g : Fin n → ℤ} (scores : Fin n → K) {i : Fin n}
    (hsize : ¬ groupSize g i < 2) :
    groupScalar sqrt epsilon normAdvByStdInGrpo g (fun _ => true) scores i =
      standardize sqrt epsilon normAdvByStdInGrpo (wholeGroup g scores (g i)) (scores i) := by
  simp [groupScalar, card_wholeGroup, hsize, wholeGroup]

/-- Without a mask the vectorised version gives lone trajectories their score and the others the
scalar of the loop. -/
theorem computeGrpoVectorizedOutcomeAdvantage_none {F : Type} (py : Python F)
    [IsStrictOrderedRing K] (rewards responseMask : Fin n → Fin L → K) (labels : GroupIndex n) :
    computeGrpoVectorizedOutcomeAdvantage py sqrt rewards responseMask labels epsilon
        normAdvByStdInGrpo none =
      if ∃ i, asTorchIndex py labels i < 0 then none
      else some fun i t =>
        (if groupSize (asTorchIndex py labels) i < 2 then
          singletonScalar epsilon normAdvByStdInGrpo (sequenceScores rewards i)
        else groupScalar sqrt epsilon normAdvByStdInGrpo (asTorchIndex py labels) (fun _ => true)
          (sequenceScores rewards) i) * responseMask i t := by
  simp only [computeGrpoVectorizedOutcomeAdvantage]
  congr 2
  funext i t
  congr 1
  have hsize : (wholeGroup (asTorchIndex py labels) (sequenceScores rewards)
      (asTorchIndex py labels i)).card = groupSize (asTorchIndex py labels) i := card_wholeGroup _ _ _
  by_cases hlt : groupSize (asTorchIndex py labels) i < 2
  · rw [if_pos hlt, groupMeanStd_of_card_lt sqrt _ _ (by omega)]
    simp only [singletonScalar, sub_zero]
  · rw [if_neg hlt, groupMeanStd_of_le_card sqrt _ _ (by omega), groupScalar_of_le_groupSize _ _ _ _ hlt]
    rfl

/-- With a mask that is true everywhere it gives every trajectory the scalar of the loop. -/
theorem computeGrpoVectorizedOutcomeAdvantage_all {F : Type} (py : Python F)
    (rewards responseMask : Fin n → Fin L → K) (labels : GroupIndex n) :
    computeGrpoVectorizedOutcomeAdvantage py sqrt rewards responseMask labels epsilon
        normAdvByStdInGrpo (some fun _ => true) =
      some fun i t => groupScalar sqrt epsilon normAdvByStdInGrpo (asTorchIndex py labels)
        (fun _ => true) (sequenceScores rewards) i * responseMask i t := by
  simp only [computeGrpoVectorizedOutcomeAdvantage, foldl_normalizeGroupInPlace]

/-! ## No mask against a mask that is true everywhere -/

/-- For the loop no mask is the mask that is true everywhere. The vectorised version needs labels
that are not negative; then the two masks agree on every trajectory with another one in its group,
and a lone trajectory keeps its score without a mask and gets zero with one. On the former the two
functions agree when the labels keep their groups. -/
theorem computeGrpoVectorizedOutcomeAdvantage_unmasked {F : Type} (py : Python F)
    [IsStrictOrderedRing K] (rewards responseMask : Fin n → Fin L → K) :
    (∀ (U : Type) [LinearOrder U] (index : Fin n → U),
      computeGrpoOutcomeAdvantage sqrt rewards responseMask index epsilon normAdvByStdInGrpo none =
        computeGrpoOutcomeAdvantage sqrt rewards responseMask index epsilon normAdvByStdInGrpo
          (some fun _ => true)) ∧
    (∀ labels : GroupIndex n, (∃ i, asTorchIndex py labels i < 0) →
      computeGrpoVectorizedOutcomeAdvantage py sqrt rewards responseMask labels epsilon
        normAdvByStdInGrpo none = none) ∧
    (∀ labels : GroupIndex n, (∀ i, 0 ≤ asTorchIndex py labels i) →
      ∃ unmasked masked,
        computeGrpoVectorizedOutcomeAdvantage py sqrt rewards responseMask labels epsilon
          normAdvByStdInGrpo none = some unmasked ∧
        computeGrpoVectorizedOutcomeAdvantage py sqrt rewards responseMask labels epsilon
          normAdvByStdInGrpo (some fun _ => true) = some masked ∧
        ∀ i t,
          (2 ≤ groupSize (asTorchIndex py labels) i → unmasked i t = masked i t) ∧
          (groupSize (asTorchIndex py labels) i < 2 →
            unmasked i t = singletonScalar epsilon normAdvByStdInGrpo (sequenceScores rewards i) *
              responseMask i t ∧
            masked i t = 0)) ∧
    (∀ (U : Type) [LinearOrder U] (labels : GroupIndex n) (index : Fin n → U),
      (∀ i j, asTorchIndex py labels i = asTorchIndex py labels j ↔ index i = index j) →
      ∀ unmasked,
        computeGrpoVectorizedOutcomeAdvantage py sqrt rewards responseMask labels epsilon
          normAdvByStdInGrpo none = some unmasked →
        ∀ i t, 2 ≤ groupSize index i →
          unmasked i t = computeGrpoOutcomeAdvantage sqrt rewards responseMask index epsilon
            normAdvByStdInGrpo none i t) := by
  refine ⟨?_, ?_, ?_, ?_⟩
  · intro U _ index
    rfl
  · intro labels hneg
    rw [computeGrpoVectorizedOutcomeAdvantage_none, if_pos hneg]
  · intro labels hnonneg
    have hneg : ¬ ∃ i, asTorchIndex py labels i < 0 := by
      intro h
      rcases h with ⟨i, hi⟩
      exact absurd hi (not_lt.mpr (hnonneg i))
    rw [computeGrpoVectorizedOutcomeAdvantage_none, computeGrpoVectorizedOutcomeAdvantage_all,
      if_neg hneg]
    refine ⟨_, _, rfl, rfl, ?_⟩
    intro i t
    constructor
    · intro hsize
      rw [if_neg (not_lt.mpr hsize)]
    · intro hsize
      rw [if_pos hsize, groupScalar_of_groupSize_lt _ _ _ _ hsize, zero_mul]
      exact ⟨rfl, rfl⟩
  · intro U _ labels index hlabels unmasked hunmasked i t hsize
    have hsizes : groupSize (asTorchIndex py labels) i = groupSize index i := by
      simp only [groupSize, hlabels]
    rw [computeGrpoVectorizedOutcomeAdvantage_none] at hunmasked
    split at hunmasked
    · cases hunmasked
    · rw [← Option.some.inj hunmasked, computeGrpoOutcomeAdvantage_apply, Option.getD_none,
        ← groupScalar_of_labels sqrt epsilon normAdvByStdInGrpo hlabels]
      simp only [hsizes, not_lt.mpr hsize, ite_false]

end Rows

/-! ## Two prompts -/

theorem asTorchIndex_promptLabels (i : Fin 3) :
    asTorchIndex asciiPython (.strs promptLabels) i = if i.val = 1 then 1 else 0 := by
  revert i
  decide

theorem asTorchIndex_promptLabels_iff (i j : Fin 3) :
    asTorchIndex asciiPython (.strs promptLabels) i =
        asTorchIndex asciiPython (.strs promptLabels) j ↔
      promptLabels i = promptLabels j :=
  ⟨asTorchIndex_injective asciiPython ⟨0, by decide⟩, asTorchIndex_congr asciiPython⟩

/-- The rewards of three trajectories, the second of them alone in its group. -/
noncomputable def promptRewards (i : Fin 3) (_ : Fin 1) : ℝ := i.val

theorem computeGrpoVectorizedOutcomeAdvantage_unmasked_promptLabels :
    (∃ unmasked,
      computeGrpoVectorizedOutcomeAdvantage asciiPython ⟨Real.sqrt, Real.sqrt_nonneg⟩
        promptRewards (fun _ _ => 1) (.strs promptLabels) 1 true none = some unmasked ∧
      ∀ i t, 2 ≤ groupSize promptLabels i →
        unmasked i t = computeGrpoOutcomeAdvantage ⟨Real.sqrt, Real.sqrt_nonneg⟩ promptRewards
          (fun _ _ => 1) promptLabels 1 true none i t) ∧
    computeGrpoVectorizedOutcomeAdvantage asciiPython ⟨Real.sqrt, Real.sqrt_nonneg⟩
      promptRewards (fun _ _ => 1) (.ints fun _ => -1) 1 true none = none := by
  have hspec := computeGrpoVectorizedOutcomeAdvantage_unmasked ⟨Real.sqrt, Real.sqrt_nonneg⟩ 1
    true asciiPython promptRewards fun _ _ => 1
  have hnonneg : ∀ i, 0 ≤ asTorchIndex asciiPython (.strs promptLabels) i := by
    intro i
    rw [asTorchIndex_promptLabels]
    split <;> decide
  constructor
  · rcases hspec.2.2.1 (.strs promptLabels) hnonneg with ⟨unmasked, _, hunmasked, _, _⟩
    refine ⟨unmasked, hunmasked, ?_⟩
    exact hspec.2.2.2 _ _ _ asTorchIndex_promptLabels_iff unmasked hunmasked
  · exact hspec.2.1 (.ints fun _ => -1) ⟨0, by decide⟩

/-- The lone trajectory has reward 1: without a mask its advantage is 1/2, else 0. -/
theorem computeGrpoVectorizedOutcomeAdvantage_lone_trajectory :
    ∃ unmasked masked,
      computeGrpoVectorizedOutcomeAdvantage asciiPython ⟨Real.sqrt, Real.sqrt_nonneg⟩
        promptRewards (fun _ _ => 1) (.strs promptLabels) 1 true none = some unmasked ∧
      computeGrpoVectorizedOutcomeAdvantage asciiPython ⟨Real.sqrt, Real.sqrt_nonneg⟩
        promptRewards (fun _ _ => 1) (.strs promptLabels) 1 true (some fun _ => true) =
          some masked ∧
      unmasked 1 0 = 1 / 2 ∧ masked 1 0 = 0 ∧
      computeGrpoOutcomeAdvantage ⟨Real.sqrt, Real.sqrt_nonneg⟩ promptRewards (fun _ _ => 1)
        promptLabels 1 true none 1 0 = 0 := by
  have hneg : ¬ ∃ i, asTorchIndex asciiPython (.strs promptLabels) i < 0 := by
    simp only [asTorchIndex_promptLabels]
    decide
  have hsize : groupSize (asTorchIndex asciiPython (.strs promptLabels)) 1 < 2 := by
    simp only [groupSize, asTorchIndex_promptLabels]
    decide
  rw [computeGrpoVectorizedOutcomeAdvantage_none, computeGrpoVectorizedOutcomeAdvantage_all,
    if_neg hneg]
  refine ⟨_, _, rfl, rfl, ?_, ?_, ?_⟩
  · rw [if_pos hsize]
    simp [singletonScalar, sequenceScores, promptRewards]
    norm_num
  · rw [groupScalar_of_groupSize_lt _ _ _ _ hsize, zero_mul]
  · rw [computeGrpoOutcomeAdvantage_apply, Option.getD_none,
      ← groupScalar_of_labels _ 1 true asTorchIndex_promptLabels_iff,
      groupScalar_of_groupSize_lt _ _ _ _ hsize, zero_mul]

end SearchR1.CoreAlgos
