import SearchR1.Model.OutcomeAdvantages
import SearchR1.Verification.Advantage.Isolation
import Mathlib.Algebra.Order.Ring.Rat
import Mathlib.Tactic.Ring
import Mathlib.Tactic.Linarith

/-! # Leave-one-out and length-weighted baselines -/

namespace SearchR1.CoreAlgos

open GroupStatistics

variable {K U : Type*} [Field K] [LinearOrder U] {n L : ℕ}

/-! ## The trajectories of a prompt -/

section Prompt

variable (index : Fin n → U) (i : Fin n)

/-- The rows of the prompt of a row. -/
def siblings : Finset (Fin n) := Finset.univ.filter fun j => index j = index i

theorem mem_siblings {j : Fin n} : j ∈ siblings index i ↔ index j = index i := by simp [siblings]

omit [Field K] in
theorem id2score_eq {α : Type*} (scores : Fin n → α) :
    id2score index scores i = ((List.finRange n).filter fun j => index j = index i).map scores := by
  have hmem : index i ∈ ((List.finRange n).map fun j => (index j, scores j)).map Prod.fst := by
    rw [List.map_map]
    exact List.mem_map_of_mem (f := fun j => index j) (List.mem_finRange i)
  rw [id2score, Dict.get?_collect, if_pos hmem, Option.getD_some, Dict.valuesOf, List.filter_map,
    List.map_map]
  rfl

omit [Field K] in
theorem length_id2score {α : Type*} (scores : Fin n → α) :
    (id2score index scores i).length = (siblings index i).card := by
  rw [id2score_eq, List.length_map]
  rfl

theorem sum_id2score (scores : Fin n → K) :
    (id2score index scores i).sum = ∑ j ∈ siblings index i, scores j := by
  rw [id2score_eq]
  rfl

/-- A trajectory has siblings when it is not alone in its group. -/
theorem one_lt_card_siblings_iff :
    1 < (siblings index i).card ↔ ∃ j, j ≠ i ∧ index j = index i := by
  constructor
  · intro h
    rcases Finset.exists_mem_ne h i with ⟨j, hj, hji⟩
    exact ⟨j, hji, (mem_siblings index i).mp hj⟩
  · intro h
    rcases h with ⟨j, hji, hj⟩
    exact Finset.one_lt_card.mpr
      ⟨j, (mem_siblings index i).mpr hj, i, (mem_siblings index i).mpr rfl, hji⟩

theorem siblings_congr {j : Fin n} (h : index j = index i) :
    siblings index j = siblings index i := by
  rw [siblings, siblings, h]

end Prompt

/-! ## Leaving one out -/

section LeaveOneOut

variable [LinearOrder K] [IsStrictOrderedRing K] (tokenLevelRewards responseMask : Fin n → Fin L → K)
  (index : Fin n → U)

/-- The mean score of the other trajectories of the prompt. -/
def othersMean (scores : Fin n → K) (i : Fin n) : K :=
  (∑ j ∈ (siblings index i).erase i, scores j) / (((siblings index i).card : K) - 1)

/-- A score less the mean of the others, over a common denominator. -/
theorem sub_othersMean (scores : Fin n → K) {i : Fin n} (htwo : 1 < (siblings index i).card) :
    scores i - othersMean index scores i =
      ((siblings index i).card * scores i - ∑ j ∈ siblings index i, scores j) /
        (((siblings index i).card : K) - 1) := by
  have hmem : i ∈ siblings index i := (mem_siblings index i).mpr rfl
  have hcard : ((siblings index i).card : K) - 1 ≠ 0 := by
    have hone : (1 : K) < (siblings index i).card := by exact_mod_cast htwo
    exact (sub_pos.mpr hone).ne'
  rw [othersMean, ← Finset.add_sum_erase _ _ hmem, eq_div_iff hcard, sub_mul, div_mul_cancel₀ _ hcard]
  ring

theorem computeRlooOutcomeAdvantage_apply (i : Fin n) (t : Fin L) :
    computeRlooOutcomeAdvantage tokenLevelRewards responseMask index i t =
      (if 1 < (siblings index i).card then
        sequenceScores tokenLevelRewards i - othersMean index (sequenceScores tokenLevelRewards) i
      else sequenceScores tokenLevelRewards i) * responseMask i t := by
  simp only [computeRlooOutcomeAdvantage, length_id2score]
  by_cases htwo : 1 < (siblings index i).card
  · have hone : (1 : K) < (siblings index i).card := by exact_mod_cast htwo
    have hcard : ((siblings index i).card : K) - 1 ≠ 0 := (sub_pos.mpr hone).ne'
    have hcard' : ((siblings index i).card : K) ≠ 0 := (zero_lt_one.trans hone).ne'
    rw [if_pos htwo, if_pos htwo, sub_othersMean index _ htwo, id2mean, length_id2score,
      if_neg (by omega), mean, length_id2score, sum_id2score, div_mul_cancel₀ _ hcard', ← sub_div]
    congr 2
    ring
  · rw [if_neg htwo, if_neg htwo]

theorem returnInverse_eq_iff (i j : Fin n) :
    returnInverse index i = returnInverse index j ↔ index i = index j :=
  List.idxOf_inj (mem_npUnique index i)

omit [LinearOrder K] [IsStrictOrderedRing K] in
theorem bincount_returnInverse (weights : Fin n → K) (i : Fin n) :
    bincount (returnInverse index) weights (returnInverse index i) =
      ∑ j ∈ siblings index i, weights j := by
  rw [bincount, siblings, Finset.sum_filter]
  simp only [returnInverse_eq_iff]

theorem computeRlooVectorizedOutcomeAdvantage_apply (i : Fin n) (t : Fin L) :
    computeRlooVectorizedOutcomeAdvantage tokenLevelRewards responseMask index i t =
      (if 1 < (siblings index i).card then
        sequenceScores tokenLevelRewards i - othersMean index (sequenceScores tokenLevelRewards) i
      else 0) * responseMask i t := by
  have hcount : ∑ _j ∈ siblings index i, (1 : K) = (siblings index i).card := by
    rw [Finset.sum_const, nsmul_one]
  simp only [computeRlooVectorizedOutcomeAdvantage, bincount_returnInverse, hcount]
  by_cases htwo : 1 < (siblings index i).card
  · have htwo' : (2 : K) ≤ (siblings index i).card := by exact_mod_cast htwo
    have hone : (1 : K) < (siblings index i).card := one_lt_two.trans_le htwo'
    rw [if_pos htwo, if_pos hone, mul_one, max_eq_left (by linarith), sub_othersMean index _ htwo]
  · have hone : ¬(1 : K) < (siblings index i).card := by exact_mod_cast htwo
    rw [if_neg htwo, if_neg hone, mul_zero]

/-- The vectorised estimator gives the same advantages as the loop over the rows exactly when every
trajectory that is alone in its group has no score or no token; both give any other one its score
less the mean score of the others. -/
theorem computeRloo_eq_vectorized_iff :
    (computeRlooOutcomeAdvantage tokenLevelRewards responseMask index =
        computeRlooVectorizedOutcomeAdvantage tokenLevelRewards responseMask index ↔
      ∀ i, (∀ j, index j = index i → j = i) →
        sequenceScores tokenLevelRewards i = 0 ∨ ∀ t, responseMask i t = 0) ∧
    ∀ i, (∃ j, j ≠ i ∧ index j = index i) → ∀ t,
      computeRlooOutcomeAdvantage tokenLevelRewards responseMask index i t =
          (sequenceScores tokenLevelRewards i -
            othersMean index (sequenceScores tokenLevelRewards) i) * responseMask i t ∧
        computeRlooVectorizedOutcomeAdvantage tokenLevelRewards responseMask index i t =
          (sequenceScores tokenLevelRewards i -
            othersMean index (sequenceScores tokenLevelRewards) i) * responseMask i t := by
  refine ⟨⟨?_, ?_⟩, ?_⟩
  · intro heq i halone
    have hsize : ¬1 < (siblings index i).card := by
      rw [one_lt_card_siblings_iff]
      rintro ⟨j, hji, hj⟩
      exact hji (halone j hj)
    have hzero : ∀ t, sequenceScores tokenLevelRewards i * responseMask i t = 0 := by
      intro t
      have h := congrFun (congrFun heq i) t
      rwa [computeRlooOutcomeAdvantage_apply, computeRlooVectorizedOutcomeAdvantage_apply,
        if_neg hsize, if_neg hsize, zero_mul] at h
    by_cases hscore : sequenceScores tokenLevelRewards i = 0
    · exact .inl hscore
    · exact .inr fun t => (mul_eq_zero.mp (hzero t)).resolve_left hscore
  · intro hsilent
    funext i t
    rw [computeRlooOutcomeAdvantage_apply, computeRlooVectorizedOutcomeAdvantage_apply]
    by_cases hsize : 1 < (siblings index i).card
    · rw [if_pos hsize, if_pos hsize]
    · have halone : ∀ j, index j = index i → j = i := by
        intro j hj
        by_contra hji
        exact hsize ((one_lt_card_siblings_iff index i).mpr ⟨j, hji, hj⟩)
      rw [if_neg hsize, if_neg hsize, zero_mul]
      rcases hsilent i halone with hscore | hmask
      · rw [hscore, zero_mul]
      · rw [hmask t, mul_zero]
  · intro i hsibling t
    have hsize := (one_lt_card_siblings_iff index i).mpr hsibling
    rw [computeRlooOutcomeAdvantage_apply, computeRlooVectorizedOutcomeAdvantage_apply,
      if_pos hsize, if_pos hsize]
    exact ⟨rfl, rfl⟩

/-- A trajectory alone in its group with a score. -/
theorem computeRloo_eq_vectorized_iff_lone_trajectory :
    computeRlooOutcomeAdvantage (fun _ _ => (1 : ℚ)) (fun _ _ => 1) (id : Fin 1 → Fin 1) ≠
      computeRlooVectorizedOutcomeAdvantage (fun _ (_ : Fin 1) => (1 : ℚ)) (fun _ _ => 1) id := by
  intro heq
  rcases (computeRloo_eq_vectorized_iff _ _ id).1.mp heq 0 fun j _ => Subsingleton.elim j 0 with
    h | h
  · simp [sequenceScores] at h
  · exact one_ne_zero (h 0)

end LeaveOneOut

/-! ## Weighting by length -/

section LengthWeighted

variable (tokenLevelRewards responseMask : Fin n → Fin L → K) (index : Fin n → U)

/-- The number of tokens of a prompt's trajectories. -/
def promptTokens (i : Fin n) : K := ∑ j ∈ siblings index i, sequenceScores responseMask j

theorem computeOpoOutcomeAdvantage_apply (i : Fin n) (t : Fin L)
    (htwo : 1 < (siblings index i).card) :
    computeOpoOutcomeAdvantage tokenLevelRewards responseMask index i t =
      (sequenceScores tokenLevelRewards i -
        (∑ j ∈ siblings index i, sequenceScores responseMask j *
          sequenceScores tokenLevelRewards j) / promptTokens responseMask index i) *
        responseMask i t := by
  simp only [computeOpoOutcomeAdvantage, length_id2score]
  rw [if_neg (by omega), sum_id2score, id2score_eq, id2score_eq, List.zipWith_map, List.zipWith_self]
  rfl

/-- Over the tokens of a prompt's trajectories the advantages of OPO cancel, so long responses
weigh no more than short ones against the baseline. -/
theorem sum_computeOpoOutcomeAdvantage (i : Fin n) (htwo : 1 < (siblings index i).card)
    (htokens : promptTokens responseMask index i ≠ 0) :
    ∑ j ∈ siblings index i, ∑ t,
      computeOpoOutcomeAdvantage tokenLevelRewards responseMask index j t = 0 := by
  have hrow : ∀ j ∈ siblings index i,
      ∑ t, computeOpoOutcomeAdvantage tokenLevelRewards responseMask index j t =
        sequenceScores responseMask j * sequenceScores tokenLevelRewards j -
          sequenceScores responseMask j * ((∑ j ∈ siblings index i, sequenceScores responseMask j *
            sequenceScores tokenLevelRewards j) / promptTokens responseMask index i) := by
    intro j hj
    have hsame := siblings_congr index i ((mem_siblings index i).mp hj)
    have htwo' : 1 < (siblings index j).card := by rwa [hsame]
    have htokens' : promptTokens responseMask index j = promptTokens responseMask index i := by
      rw [promptTokens, promptTokens, hsame]
    simp only [computeOpoOutcomeAdvantage_apply _ _ _ _ _ htwo', hsame, htokens']
    rw [← Finset.mul_sum, mul_comm, mul_sub]
    rfl
  rw [Finset.sum_congr rfl hrow, Finset.sum_sub_distrib, ← Finset.sum_mul, ← promptTokens,
    mul_div_cancel₀ _ htokens, sub_self]

end LengthWeighted

end SearchR1.CoreAlgos
