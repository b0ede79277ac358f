import SearchR1.Verification.Advantage.Isolation
import Mathlib.Analysis.Real.Sqrt

/-! # Laws of the group normalisation -/

namespace SearchR1.CoreAlgos

open IndexLoop GroupStatistics

section Laws

variable {K U : Type*} [Field K] [LinearOrder K] [IsStrictOrderedRing K] [LinearOrder U] {n L : ℕ}
  (sqrt : SquareRoot K) (epsilon : K) (normAdvByStdInGrpo : Bool) (index : Fin n → U)
  (validMask : Fin n → Bool)

/-- A group in which the scores are normalised. -/
def Normalised (uid : U) : Prop :=
  2 ≤ (Finset.univ.filter fun i => index i = uid ∧ validMask i).card

variable {index validMask} in
omit [IsStrictOrderedRing K] in
/-- The scalar of a valid row of such a group is its standardised score. -/
theorem normalizedScores_of_normalised {uid : U} (hgroup : Normalised index validMask uid)
    (scores : Fin n → K) {i : Fin n} (huid : index i = uid) (hvalid : validMask i = true) :
    normalizedScores sqrt epsilon normAdvByStdInGrpo index validMask scores i =
      standardize sqrt epsilon normAdvByStdInGrpo (groupValues index validMask scores uid)
        (scores i) := by
  have hcard : ¬ (groupValues index validMask scores uid).card < 2 := by
    rw [card_groupValues]
    exact not_lt.mpr hgroup
  rw [normalizedScores_eq_groupScalar, groupScalar, huid, if_neg (by simp [hcard, hvalid])]

/-- The scalars of the valid rows of a group cancel. -/
theorem sum_normalizedScores {uid : U} (hgroup : Normalised index validMask uid)
    (scores : Fin n → K) :
    ∑ i with index i = uid ∧ validMask i,
      normalizedScores sqrt epsilon normAdvByStdInGrpo index validMask scores i = 0 := by
  calc ∑ i with index i = uid ∧ validMask i,
        normalizedScores sqrt epsilon normAdvByStdInGrpo index validMask scores i
      = ∑ i with index i = uid ∧ validMask i, standardize sqrt epsilon normAdvByStdInGrpo
          (groupValues index validMask scores uid) (scores i) := by
        apply Finset.sum_congr rfl
        intro i hi
        have hrow := (Finset.mem_filter.mp hi).2
        exact normalizedScores_of_normalised sqrt epsilon normAdvByStdInGrpo hgroup scores
          hrow.1 hrow.2
    _ = ((groupValues index validMask scores uid).map fun v => standardize sqrt epsilon
          normAdvByStdInGrpo (groupValues index validMask scores uid) v).sum := by
        conv_rhs => rw [groupValues, Multiset.map_map]
        rfl
    _ = 0 := sum_standardize sqrt epsilon normAdvByStdInGrpo _

/-- Among the valid rows of a group the scalars are ordered as the scores. -/
theorem normalizedScores_lt_iff (heps : 0 < epsilon) {uid : U}
    (hgroup : Normalised index validMask uid) (scores : Fin n → K) {i j : Fin n}
    (hi : index i = uid ∧ validMask i = true) (hj : index j = uid ∧ validMask j = true) :
    normalizedScores sqrt epsilon normAdvByStdInGrpo index validMask scores i <
        normalizedScores sqrt epsilon normAdvByStdInGrpo index validMask scores j ↔
      scores i < scores j := by
  rw [normalizedScores_of_normalised _ _ _ hgroup _ hi.1 hi.2,
    normalizedScores_of_normalised _ _ _ hgroup _ hj.1 hj.2]
  exact (standardize_strictMono sqrt heps normAdvByStdInGrpo _).lt_iff_lt

omit [LinearOrder K] [IsStrictOrderedRing K] in
theorem groupValues_shift {scores scores' : Fin n → K} {uid : U} {c : K}
    (hshift : ∀ i, index i = uid → scores' i = scores i + c) :
    groupValues index validMask scores' uid =
      (groupValues index validMask scores uid).map (· + c) := by
  rw [groupValues, groupValues, Multiset.map_map]
  apply Multiset.map_congr rfl
  intro i hi
  exact hshift i (Finset.mem_filter.mp (Finset.mem_def.mpr hi)).2.1

/-- A constant added to the scores of a whole group does not change its scalars. -/
theorem normalizedScores_shift {scores scores' : Fin n → K} {uid : U} {c : K}
    (hgroup : Normalised index validMask uid)
    (hshift : ∀ i, index i = uid → scores' i = scores i + c) {i : Fin n} (huid : index i = uid) :
    normalizedScores sqrt epsilon normAdvByStdInGrpo index validMask scores' i =
      normalizedScores sqrt epsilon normAdvByStdInGrpo index validMask scores i := by
  by_cases hvalid : validMask i
  · have hne : groupValues index validMask scores uid ≠ 0 := by
      intro hzero
      have hcard := congrArg Multiset.card hzero
      rw [card_groupValues, Multiset.card_zero] at hcard
      unfold Normalised at hgroup
      omega
    rw [normalizedScores_of_normalised _ _ _ hgroup _ huid hvalid,
      normalizedScores_of_normalised _ _ _ hgroup _ huid hvalid,
      groupValues_shift index validMask hshift, hshift i huid, standardize_shift _ _ _ hne]
  · have hinvalid : validMask i = false := by simpa using hvalid
    rw [normalizedScores_eq_groupScalar, normalizedScores_eq_groupScalar,
      groupScalar_of_invalid _ _ _ _ hinvalid, groupScalar_of_invalid _ _ _ _ hinvalid]

/-- In a group with two or more valid rows the scalars of the valid rows sum to zero, are ordered
as the total rewards, and do not see a constant added to every reward of the group. -/
theorem normalizedScores_laws (heps : 0 < epsilon) {uid : U}
    (hgroup : 2 ≤ (Finset.univ.filter fun i => index i = uid ∧ validMask i).card)
    (tokenLevelRewards : Fin n → Fin L → K) :
    ∑ i with index i = uid ∧ validMask i, normalizedScores sqrt epsilon normAdvByStdInGrpo index
        validMask (sequenceScores tokenLevelRewards) i = 0 ∧
    (∀ i j, index i = uid → validMask i → index j = uid → validMask j →
      (sequenceScores tokenLevelRewards i < sequenceScores tokenLevelRewards j →
        normalizedScores sqrt epsilon normAdvByStdInGrpo index validMask
            (sequenceScores tokenLevelRewards) i <
          normalizedScores sqrt epsilon normAdvByStdInGrpo index validMask
            (sequenceScores tokenLevelRewards) j) ∧
      (sequenceScores tokenLevelRewards i = sequenceScores tokenLevelRewards j →
        normalizedScores sqrt epsilon normAdvByStdInGrpo index validMask
            (sequenceScores tokenLevelRewards) i =
          normalizedScores sqrt epsilon normAdvByStdInGrpo index validMask
            (sequenceScores tokenLevelRewards) j)) ∧
    ∀ (tokenLevelRewards' : Fin n → Fin L → K) (c : K),
      (∀ i, index i = uid →
        sequenceScores tokenLevelRewards' i = sequenceScores tokenLevelRewards i + c) →
      ∀ i, index i = uid →
        normalizedScores sqrt epsilon normAdvByStdInGrpo index validMask
            (sequenceScores tokenLevelRewards') i =
          normalizedScores sqrt epsilon normAdvByStdInGrpo index validMask
            (sequenceScores tokenLevelRewards) i := by
  refine ⟨?_, ?_, ?_⟩
  · exact sum_normalizedScores sqrt epsilon normAdvByStdInGrpo index validMask hgroup _
  · intro i j hi hvi hj hvj
    constructor
    · exact (normalizedScores_lt_iff sqrt epsilon normAdvByStdInGrpo index validMask heps hgroup _
        ⟨hi, hvi⟩ ⟨hj, hvj⟩).mpr
    · intro heq
      rw [normalizedScores_of_normalised _ _ _ hgroup _ hi hvi,
        normalizedScores_of_normalised _ _ _ hgroup _ hj hvj, heq]
  · intro tokenLevelRewards' c hshift i hi
    exact normalizedScores_shift sqrt epsilon normAdvByStdInGrpo index validMask hgroup hshift hi

end Laws

/-- Three trajectories of one prompt, the second of them invalid. -/
theorem normalizedScores_laws_three_rows :
    let sqrt : SquareRoot ℝ := ⟨Real.sqrt, Real.sqrt_nonneg⟩
    let valid : Fin 3 → Bool := fun i => i.val ≠ 1
    let scalars (rewards : Fin 3 → Fin 1 → ℝ) :=
      normalizedScores sqrt 1 true (fun _ => 0) valid (sequenceScores rewards)
    ∑ i with (0 : ℕ) = 0 ∧ valid i, scalars (fun i _ => i.val) i = 0 ∧
      scalars (fun i _ => i.val) 0 < scalars (fun i _ => i.val) 2 ∧
      scalars (fun i _ => i.val + 5) 0 = scalars (fun i _ => i.val) 0 := by
  intro sqrt valid scalars
  have hgroup : 2 ≤ (Finset.univ.filter fun i : Fin 3 => (0 : ℕ) = 0 ∧ valid i).card := by
    decide
  have hlaws := normalizedScores_laws sqrt 1 true (fun _ => 0) valid one_pos hgroup
    fun i (_ : Fin 1) => (i.val : ℝ)
  refine ⟨hlaws.1, ?_, ?_⟩
  · exact (hlaws.2.1 0 2 rfl rfl rfl rfl).1 (by simp [sequenceScores])
  · exact hlaws.2.2 (fun i _ => i.val + 5) 5 (by simp [sequenceScores]) 0 rfl

end SearchR1.CoreAlgos
