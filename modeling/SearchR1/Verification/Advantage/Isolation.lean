import SearchR1.Model.CoreAlgos

/-! # Isolation of the GRPO baseline -/

namespace SearchR1.CoreAlgos

open IndexLoop GroupStatistics

variable {K U : Type*} [Field K] [LinearOrder K] [LinearOrder U] {n L : ℕ}

/-! ## The loop over the groups -/

theorem mem_npUnique (index : Fin n → U) (i : Fin n) : index i ∈ npUnique index := by
  have hperm := List.perm_insertionSort (· ≤ ·) ((List.finRange n).map index).dedup
  apply hperm.mem_iff.mpr
  apply List.mem_dedup.mpr
  exact List.mem_map_of_mem (List.mem_finRange i)

theorem nodup_npUnique (index : Fin n → U) : (npUnique index).Nodup := by
  have hperm := List.perm_insertionSort (· ≤ ·) ((List.finRange n).map index).dedup
  apply hperm.nodup_iff.mpr
  exact List.nodup_dedup _

theorem mem_npWhere (index : Fin n → U) (uid : U) (i : Fin n) :
    i ∈ npWhere index uid ↔ index i = uid := by
  simp [npWhere]

/-- What the loop gathers for a group are the values of its valid rows. -/
theorem coe_gather_npWhere {α : Type*} (index : Fin n → U) (validMask : Fin n → Bool)
    (scores : Fin n → α) (uid : U) :
    (gather scores ((npWhere index uid).filter validMask) : Multiset α) =
      groupValues index validMask scores uid := by
  rw [gather, npWhere, groupValues, Finset.filter_val, Fin.univ_def, Multiset.filter_coe,
    Multiset.map_coe, List.filter_filter]
  congr 2
  apply List.filter_congr
  intro i _
  rw [Bool.and_comm, Bool.eq_iff_iff]
  simp

/-- The scalar of a row: zero for invalid rows and for groups with fewer than two valid rows,
the normalised score otherwise. -/
def groupScalar (sqrt : SquareRoot K) (epsilon : K) (normAdvByStdInGrpo : Bool)
    (index : Fin n → U) (validMask : Fin n → Bool) (scores : Fin n → K) (i : Fin n) : K :=
  let values := groupValues index validMask scores (index i)
  if values.card < 2 ∨ ¬ validMask i then 0
  else standardize sqrt epsilon normAdvByStdInGrpo values (scores i)

section Loop

variable (sqrt : SquareRoot K) (epsilon : K) (normAdvByStdInGrpo : Bool) (index : Fin n → U)
  (validMask : Fin n → Bool) (scores : Fin n → K)

/-- One round rewrites the rows of its group only. -/
theorem normalizeGroup_apply (x : Fin n → K) (uid : U) (i : Fin n) :
    normalizeGroup sqrt epsilon normAdvByStdInGrpo index validMask scores x uid i =
      if index i = uid then
        if (groupValues index validMask scores (index i)).card < 2 then 0
        else if validMask i then standardize sqrt epsilon normAdvByStdInGrpo
          (groupValues index validMask scores (index i)) (scores i)
        else x i
      else x i := by
  have hvalues := coe_gather_npWhere index validMask scores uid
  have hcard : ((npWhere index uid).filter validMask).length =
      (groupValues index validMask scores uid).card := by
    rw [← hvalues, gather, Multiset.coe_card, List.length_map]
  have hmem : ∀ j, j ∈ (npWhere index uid).filter validMask ↔ index j = uid ∧ validMask j := by
    intro j
    rw [List.mem_filter, mem_npWhere]
  have hscatter : ∀ f : K → K, scatter x ((npWhere index uid).filter validMask)
      ((gather scores ((npWhere index uid).filter validMask)).map f) i =
        if index i = uid ∧ validMask i then f (scores i) else x i := by
    intro f
    rw [gather, List.map_map, scatter_map]
    simp only [hmem, Function.comp_apply]
  by_cases huid : index i = uid
  · subst huid
    unfold normalizeGroup
    simp only [hcard, ite_true]
    split
    · rw [fill_apply]
      simp [mem_npWhere]
    · cases normAdvByStdInGrpo with
      | true =>
          simp only [ite_true, hscatter, true_and, standardize, groupDeviation, ← hvalues,
            groupMean_coe, groupVariance_coe]
      | false =>
          simp only [Bool.false_eq_true, ite_false, hscatter, true_and, standardize, ← hvalues,
            groupMean_coe]
  · unfold normalizeGroup
    simp only [huid, ite_false]
    split
    · rw [fill_apply]
      simp [mem_npWhere, huid]
    · cases normAdvByStdInGrpo with
      | true => simp only [ite_true, hscatter, huid, false_and, ite_false]
      | false => simp only [Bool.false_eq_true, ite_false, hscatter, huid, false_and]

/-- The loop computes the scalar of every row. -/
theorem normalizedScores_eq_groupScalar (i : Fin n) :
    normalizedScores sqrt epsilon normAdvByStdInGrpo index validMask scores i =
      groupScalar sqrt epsilon normAdvByStdInGrpo index validMask scores i := by
  have hloop := foldl_labels index
    (fun i a => if (groupValues index validMask scores (index i)).card < 2 then 0
      else if validMask i then standardize sqrt epsilon normAdvByStdInGrpo
        (groupValues index validMask scores (index i)) (scores i)
      else a)
    (normalizeGroup_apply sqrt epsilon normAdvByStdInGrpo index validMask scores)
    (nodup_npUnique index) (fun _ => 0) i
  rw [normalizedScores, hloop]
  simp only [mem_npUnique, ite_true, groupScalar]
  by_cases hcard : (groupValues index validMask scores (index i)).card < 2
  · simp [hcard]
  · by_cases hvalid : validMask i <;> simp [hcard, hvalid]

end Loop

theorem computeGrpoOutcomeAdvantage_apply (sqrt : SquareRoot K)
    (tokenLevelRewards responseMask : Fin n → Fin L → K) (index : Fin n → U) (epsilon : K)
    (normAdvByStdInGrpo : Bool) (validSampleMask : Option (Fin n → Bool)) (i : Fin n)
    (t : Fin L) :
    computeGrpoOutcomeAdvantage sqrt tokenLevelRewards responseMask index epsilon
        normAdvByStdInGrpo validSampleMask i t =
      groupScalar sqrt epsilon normAdvByStdInGrpo index (validSampleMask.getD fun _ => true)
        (sequenceScores tokenLevelRewards) i * responseMask i t := by
  simp only [computeGrpoOutcomeAdvantage, normalizedScores_eq_groupScalar]

/-! ## Isolation -/

section Isolation

variable (sqrt : SquareRoot K) (epsilon : K) (normAdvByStdInGrpo : Bool)

theorem groupScalar_of_invalid {index : Fin n → U} {validMask : Fin n → Bool}
    (scores : Fin n → K) {i : Fin n} (hi : validMask i = false) :
    groupScalar sqrt epsilon normAdvByStdInGrpo index validMask scores i = 0 := by
  simp [groupScalar, hi]

theorem card_groupValues {α : Type*} (index : Fin n → U) (validMask : Fin n → Bool)
    (scores : Fin n → α) (uid : U) : (groupValues index validMask scores uid).card =
      (Finset.univ.filter fun j => index j = uid ∧ validMask j).card := by
  rw [groupValues, Multiset.card_map]
  rfl

theorem groupScalar_of_card_lt {index : Fin n → U} {validMask : Fin n → Bool}
    (scores : Fin n → K) {i : Fin n}
    (hi : (Finset.univ.filter fun j => index j = index i ∧ validMask j).card < 2) :
    groupScalar sqrt epsilon normAdvByStdInGrpo index validMask scores i = 0 := by
  simp [groupScalar, card_groupValues, hi]

/-- Scores of invalid rows do not enter any scalar. -/
theorem groupScalar_congr {index : Fin n → U} {validMask : Fin n → Bool}
    {scores scores' : Fin n → K} (h : ∀ i, validMask i → scores i = scores' i) :
    groupScalar sqrt epsilon normAdvByStdInGrpo index validMask scores =
      groupScalar sqrt epsilon normAdvByStdInGrpo index validMask scores' := by
  funext i
  by_cases hi : validMask i
  · simp only [groupScalar, groupValues_congr h, h i hi]
  · have hi' : validMask i = false := by simpa using hi
    rw [groupScalar_of_invalid _ _ _ _ hi', groupScalar_of_invalid _ _ _ _ hi']

/-- The scalars of a group depend on the rows of the group only. -/
theorem groupScalar_of_equiv {m : ℕ} {index : Fin n → U} {index' : Fin m → U}
    {validMask : Fin n → Bool} {validMask' : Fin m → Bool} {scores : Fin n → K}
    {scores' : Fin m → K} {u v : U} (σ : {i // index i = u} ≃ {j // index' j = v})
    (hvalid : ∀ i, validMask' (σ i).1 = validMask i.1)
    (hscores : ∀ i, scores' (σ i).1 = scores i.1) (i : {i // index i = u}) :
    groupScalar sqrt epsilon normAdvByStdInGrpo index' validMask' scores' (σ i).1 =
      groupScalar sqrt epsilon normAdvByStdInGrpo index validMask scores i.1 := by
  simp only [groupScalar, (σ i).2, i.2, groupValues_of_equiv σ hvalid hscores, hvalid, hscores]

/-- Baseline isolation: invalid rewards influence nothing, invalid rows and groups with fewer
than two valid rows get zero, and a group's advantages depend on its own rows alone. -/
theorem computeGrpoOutcomeAdvantage_isolated (index : Fin n → U)
    (responseMask : Fin n → Fin L → K) (validSampleMask : Fin n → Bool) :
    (∀ rewards rewards' : Fin n → Fin L → K,
      (∀ i, validSampleMask i → rewards i = rewards' i) →
      computeGrpoOutcomeAdvantage sqrt rewards responseMask index epsilon normAdvByStdInGrpo
          (some validSampleMask) =
        computeGrpoOutcomeAdvantage sqrt rewards' responseMask index epsilon normAdvByStdInGrpo
          (some validSampleMask)) ∧
    (∀ (rewards : Fin n → Fin L → K) (i : Fin n) (t : Fin L), validSampleMask i = false →
      computeGrpoOutcomeAdvantage sqrt rewards responseMask index epsilon normAdvByStdInGrpo
        (some validSampleMask) i t = 0) ∧
    (∀ (rewards : Fin n → Fin L → K) (i : Fin n) (t : Fin L),
      (Finset.univ.filter fun j => index j = index i ∧ validSampleMask j).card < 2 →
      computeGrpoOutcomeAdvantage sqrt rewards responseMask index epsilon normAdvByStdInGrpo
        (some validSampleMask) i t = 0) ∧
    (∀ (m : ℕ) (index' : Fin m → U) (responseMask' : Fin m → Fin L → K)
      (validSampleMask' : Fin m → Bool) (rewards : Fin n → Fin L → K)
      (rewards' : Fin m → Fin L → K) (u v : U)
      (σ : {i // index i = u} ≃ {j // index' j = v}),
      (∀ i, validSampleMask' (σ i).1 = validSampleMask i.1) →
      (∀ i, responseMask' (σ i).1 = responseMask i.1) →
      (∀ i, rewards' (σ i).1 = rewards i.1) →
      ∀ i t,
        computeGrpoOutcomeAdvantage sqrt rewards' responseMask' index' epsilon
            normAdvByStdInGrpo (some validSampleMask') (σ i).1 t =
          computeGrpoOutcomeAdvantage sqrt rewards responseMask index epsilon
            normAdvByStdInGrpo (some validSampleMask) i.1 t) := by
  refine ⟨?_, ?_, ?_, ?_⟩
  · intro rewards rewards' h
    have hscores : ∀ i, validSampleMask i →
        sequenceScores rewards i = sequenceScores rewards' i := by
      intro i hi
      simp only [sequenceScores, h i hi]
    funext i t
    simp only [computeGrpoOutcomeAdvantage_apply, Option.getD_some]
    rw [groupScalar_congr sqrt epsilon normAdvByStdInGrpo hscores]
  · intro rewards i t hi
    rw [computeGrpoOutcomeAdvantage_apply, Option.getD_some, groupScalar_of_invalid _ _ _ _ hi,
      zero_mul]
  · intro rewards i t hi
    rw [computeGrpoOutcomeAdvantage_apply, Option.getD_some, groupScalar_of_card_lt _ _ _ _ hi,
      zero_mul]
  · intro m index' responseMask' validSampleMask' rewards rewards' u v σ hvalid hmask hrewards i t
    have hscores : ∀ i, sequenceScores rewards' (σ i).1 = sequenceScores rewards i.1 := by
      intro i
      simp only [sequenceScores, hrewards]
    simp only [computeGrpoOutcomeAdvantage_apply, Option.getD_some, hmask]
    rw [groupScalar_of_equiv sqrt epsilon normAdvByStdInGrpo σ hvalid hscores]

end Isolation

end SearchR1.CoreAlgos
