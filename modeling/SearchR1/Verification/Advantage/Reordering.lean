import SearchR1.Model.SeqlenBalancing
import SearchR1.Verification.Advantage.Isolation
import Mathlib.Analysis.Real.Sqrt

/-! # Reordering a batch -/

namespace SearchR1.SeqlenBalancing

open List

variable {m n : ℕ}

/-! ## Partitions -/

/-- Partitions that pass the assertions hold every item once. -/
theorem CheckPartitions.perm {kPartitions : ℕ} {partitions : List (List (Fin m))}
    (h : CheckPartitions kPartitions partitions) : partitions.flatten.Perm (finRange m) := by
  rcases h with ⟨⟨hpos, _, _⟩, hsize, hnumber, _, hitems⟩
  have hlength : partitions.flatten.length = m := by
    have hsum : ∀ parts : List (List (Fin m)),
        (∀ partition ∈ parts, partition.length * kPartitions = m) →
        parts.flatten.length * kPartitions = parts.length * m := by
      intro parts hparts
      induction parts with
      | nil => simp
      | cons partition parts ih =>
          rw [forall_mem_cons] at hparts
          rw [flatten_cons, length_append, Nat.add_mul, hparts.1, ih hparts.2, length_cons,
            Nat.succ_mul, Nat.add_comm]
    have htotal := hsum partitions hsize
    rw [hnumber, Nat.mul_comm] at htotal
    exact Nat.eq_of_mul_eq_mul_left hpos htotal
  have hnodup : partitions.flatten.Nodup := by
    have hcard : partitions.flatten.toFinset.card = partitions.flatten.length := by
      rw [hitems, Finset.card_univ, Fintype.card_fin, hlength]
    exact Multiset.coe_nodup.mp (Multiset.toFinset_card_eq_card_iff_nodup.mp hcard)
  apply (perm_ext_iff_of_nodup hnodup (nodup_finRange m)).mpr
  intro i
  rw [← mem_toFinset, hitems]
  simp

theorem flatten_map_perm {α : Type*} {f : List α → List α} (hf : ∀ l, (f l).Perm l)
    (parts : List (List α)) : (parts.map f).flatten.Perm parts.flatten := by
  induction parts with
  | nil => exact Perm.refl _
  | cons part parts ih =>
      rw [map_cons, flatten_cons, flatten_cons]
      exact (hf part).append ih

theorem getSeqlenBalancedPartitions_perm {karmarkarKarp : Partitioner} {seqlenList : Fin m → ℕ}
    {kPartitions : ℕ} {partitions : List (List (Fin m))}
    (h : getSeqlenBalancedPartitions karmarkarKarp seqlenList kPartitions = some partitions) :
    partitions.flatten.Perm (finRange m) := by
  simp only [getSeqlenBalancedPartitions, Option.ite_none_right_eq_some, Option.some_inj] at h
  rcases h with ⟨hcheck, rfl⟩
  exact (flatten_map_perm (perm_insertionSort (· ≤ ·)) _).trans hcheck.perm

theorem getGroupBalancedPartitions_perm {U : Type*} [DecidableEq U] {karmarkarKarp : Partitioner}
    {seqlenList : Fin n → ℕ} {uidList : Fin n → U} {kPartitions : ℕ}
    {partitions : List (List (Fin n))}
    (h : getGroupBalancedPartitions karmarkarKarp seqlenList uidList kPartitions =
      some partitions) : partitions.flatten.Perm (finRange n) := by
  simp only [getGroupBalancedPartitions, Option.ite_none_right_eq_some] at h
  rcases h with ⟨_, h⟩
  rcases Option.map_eq_some_iff.mp h with ⟨groupPartitions, hgroups, rfl⟩
  generalize hsplit : (finRange n).splitBy (fun i j => uidList i = uidList j) = groups at *
  have hrows : ∀ parts : List (List (Fin groups.length)),
      (parts.map fun part => (part.flatMap groups.get).insertionSort (· ≤ ·)).flatten.Perm
        (parts.flatten.flatMap groups.get) := by
    intro parts
    induction parts with
    | nil => exact Perm.refl _
    | cons part parts ih =>
        rw [map_cons, flatten_cons, flatten_cons, flatMap_append]
        exact (perm_insertionSort _ _).append ih
  have hall : (finRange groups.length).flatMap groups.get = finRange n := by
    rw [flatMap_def, ← ofFn_eq_map, ofFn_get, ← hsplit, flatten_splitBy]
  rw [← hall]
  exact (hrows _).trans ((getSeqlenBalancedPartitions_perm hgroups).flatMap_right _)

theorem everyOther_cons {α : Type*} (x : α) (xs : List α) :
    everyOther (x :: xs) = x :: everyOther xs.tail := by
  cases xs <;> rfl

theorem everyOther_append_perm {α : Type*} (l : List α) :
    (everyOther l ++ everyOther l.tail).Perm l := by
  induction l with
  | nil => exact Perm.refl _
  | cons x xs ih =>
      rw [everyOther_cons, tail_cons, cons_append]
      exact (perm_append_comm.trans ih).cons x

theorem orderPartition_perm (workloadLst : Fin n → ℕ) (partition : List (Fin n)) :
    (orderPartition workloadLst partition).Perm partition := by
  have hsorted := perm_insertionSort
    (fun i j => workloadLst i < workloadLst j ∨ workloadLst i = workloadLst j ∧ i ≤ j) partition
  exact (((reverse_perm _).append_left _).trans (everyOther_append_perm _)).trans hsorted

end SearchR1.SeqlenBalancing

namespace SearchR1.RayTrainer

open SeqlenBalancing GroupStatistics CoreAlgos

variable {U K : Type*} {n P L : ℕ}

/-- The rows that the balanced batch takes are those of the batch, each once. -/
theorem balanceBatch_perm [DecidableEq U] {karmarkarKarp : Partitioner} {usePrefixGrouper : Bool}
    {dpSize : ℕ} {batch : Batch U n P L} {indices : List (Fin n)}
    (h : balanceBatch karmarkarKarp usePrefixGrouper dpSize batch = some indices) :
    indices.Perm (List.finRange n) := by
  cases usePrefixGrouper with
  | true =>
      simp only [balanceBatch, ite_true, Option.ite_none_left_eq_some] at h
      rcases Option.map_eq_some_iff.mp h.2 with ⟨partitions, hpartitions, rfl⟩
      exact getGroupBalancedPartitions_perm hpartitions
  | false =>
      simp only [balanceBatch, Bool.false_eq_true, ite_false] at h
      rcases Option.map_eq_some_iff.mp h with ⟨partitions, hpartitions, rfl⟩
      exact (flatten_map_perm (orderPartition_perm _) _).trans
        (getSeqlenBalancedPartitions_perm hpartitions)

/-- A list of all rows is a permutation of the rows. -/
theorem exists_perm_of_indices {indices : List (Fin n)} (h : indices.Perm (List.finRange n)) :
    ∃ σ : Equiv.Perm (Fin n), indices = List.ofFn σ := by
  have hlength : n = indices.length := by
    rw [h.length_eq, List.length_finRange]
  have hnodup : indices.Nodup := h.nodup_iff.mpr (List.nodup_finRange n)
  have hinj : Function.Injective fun i : Fin n => indices.get (i.cast hlength) := by
    intro i j hij
    exact Fin.cast_injective hlength (List.nodup_iff_injective_get.mp hnodup hij)
  refine ⟨Equiv.ofBijective _ (Finite.injective_iff_bijective.mp hinj), ?_⟩
  apply List.ext_get
  · simp [hlength]
  · intro k hk hk'
    simp

/-! ## Advantages -/

section Advantages

variable [Field K] [LinearOrder K] [LinearOrder U]

/-- Rows that move together keep their scalars. -/
theorem groupScalar_comp (sqrt : SquareRoot K) (epsilon : K) (normAdvByStdInGrpo : Bool)
    (index : Fin n → U) (validMask : Fin n → Bool) (scores : Fin n → K)
    (σ : Equiv.Perm (Fin n)) (i : Fin n) :
    groupScalar sqrt epsilon normAdvByStdInGrpo (index ∘ σ) (validMask ∘ σ) (scores ∘ σ) i =
      groupScalar sqrt epsilon normAdvByStdInGrpo index validMask scores (σ i) := by
  -- the rows of a group of the reordered batch, as rows of the batch
  let τ : {j // index j = index (σ i)} ≃ {j // (index ∘ σ) j = index (σ i)} :=
    (σ.subtypeEquiv fun _ => Iff.rfl).symm
  have hτ : ∀ j, σ (τ j).1 = j.1 := fun j => σ.apply_symm_apply j.1
  have hvalid : ∀ j, (validMask ∘ σ) (τ j).1 = validMask j.1 := by
    intro j
    rw [Function.comp_apply, hτ]
  have hscores : ∀ j, (scores ∘ σ) (τ j).1 = scores j.1 := by
    intro j
    rw [Function.comp_apply, hτ]
  have hrow := groupScalar_of_equiv sqrt epsilon normAdvByStdInGrpo τ hvalid hscores
    ⟨σ i, rfl⟩
  rwa [show (τ ⟨σ i, rfl⟩).1 = i from σ.symm_apply_apply i] at hrow

theorem computeGrpoOutcomeAdvantage_comp (sqrt : SquareRoot K)
    (tokenLevelRewards responseMask : Fin n → Fin L → K) (index : Fin n → U) (epsilon : K)
    (normAdvByStdInGrpo : Bool) (validSampleMask : Option (Fin n → Bool))
    (σ : Equiv.Perm (Fin n)) :
    computeGrpoOutcomeAdvantage sqrt (tokenLevelRewards ∘ σ) (responseMask ∘ σ) (index ∘ σ)
        epsilon normAdvByStdInGrpo (validSampleMask.map (· ∘ σ)) =
      computeGrpoOutcomeAdvantage sqrt tokenLevelRewards responseMask index epsilon
        normAdvByStdInGrpo validSampleMask ∘ σ := by
  have hmask : (validSampleMask.map (· ∘ σ)).getD (fun _ => true) =
      (validSampleMask.getD fun _ => true) ∘ σ := by
    cases validSampleMask <;> rfl
  funext i t
  change _ = computeGrpoOutcomeAdvantage _ _ _ _ _ _ _ (σ i) t
  rw [computeGrpoOutcomeAdvantage_apply, hmask, computeGrpoOutcomeAdvantage_apply,
    ← groupScalar_comp]
  rfl

theorem computeAdvantage_comp (sqrt : SquareRoot K) (normAdvByStdInGrpo : Bool) (uid : Fin n → U)
    (validSampleMask : Fin n → Bool) (responseMask : Fin n → Fin L → Bool)
    (tokenLevelRewards : Fin n → Fin L → K) (σ : Equiv.Perm (Fin n)) :
    computeAdvantage sqrt normAdvByStdInGrpo (uid ∘ σ) (some (validSampleMask ∘ σ))
        (responseMask ∘ σ) (tokenLevelRewards ∘ σ) =
      computeAdvantage sqrt normAdvByStdInGrpo uid (some validSampleMask) responseMask
        tokenLevelRewards ∘ σ :=
  computeGrpoOutcomeAdvantage_comp sqrt tokenLevelRewards (fun i => maskValue (responseMask i)) uid
    defaultEpsilon normAdvByStdInGrpo (some validSampleMask) σ

omit [LinearOrder U] in
/-- The filter judges row by row. -/
theorem rowTrajectory_reorder (batch : Batch U n P L) (maxResponseLength : ℤ)
    (σ : Fin n → Fin n) (i : Fin n) :
    rowTrajectory (batch.reorder σ) maxResponseLength i =
      rowTrajectory batch maxResponseLength (σ i) := by
  have hnumeric : ∀ column : Option (Fin n → Option ℚ),
      numericArray (column.map (· ∘ σ)) i = numericArray column (σ i) := by
    intro column
    cases column <;> rfl
  have hreward : ∀ column : Option (Fin n → ℚ),
      rewardArray (column.map (· ∘ σ)) i = rewardArray column (σ i) := by
    intro column
    cases column <;> rfl
  have hobject : ∀ column : Option (Fin n → Option PyText.Text),
      objectArray (column.map (· ∘ σ)) i = objectArray column (σ i) := by
    intro column
    cases column <;> rfl
  simp only [rowTrajectory, Batch.reorder, hnumeric, hreward, hobject]
  rfl

omit [LinearOrder U] in
theorem validSampleMask_reorder (batch : Batch U n P L) (maxResponseLength : ℤ)
    (σ : Fin n → Fin n) :
    (buildTrajectoryFilterOutputs (batch.reorder σ) maxResponseLength).validSampleMask =
      (buildTrajectoryFilterOutputs batch maxResponseLength).validSampleMask ∘ σ := by
  funext i
  simp only [buildTrajectoryFilterOutputs, rowTrajectory_reorder, Function.comp_apply]

omit [LinearOrder K] in
theorem applyKlPenalty_comp (klPenalty : Option (K × (Fin n → Fin L → K)))
    (responseMask : Fin n → Fin L → Bool) (rewards : Fin n → Fin L → K) (σ : Fin n → Fin n) :
    applyKlPenalty (klPenalty.map fun penalty => (penalty.1, penalty.2 ∘ σ)) (responseMask ∘ σ)
      (rewards ∘ σ) = applyKlPenalty klPenalty responseMask rewards ∘ σ := by
  cases klPenalty <;> rfl

theorem applyRejection_comp (rejection : Option (Fin n → (Fin L → Bool) → Fin L → Bool))
    (responseMask : Fin n → Fin L → Bool) (σ : Equiv.Perm (Fin n)) :
    applyRejection (rejection.map (· ∘ σ)) (responseMask ∘ σ) =
      (applyRejection rejection responseMask).map (· ∘ σ) := by
  cases rejection with
  | none => rfl
  | some keep =>
      have hany : (∃ i t, (responseMask ∘ σ) i t = true) ↔ ∃ i t, responseMask i t = true :=
        (σ.surjective.exists (p := fun i => ∃ t, responseMask i t = true)).symm
      simp only [applyRejection, Option.map_some, hany]
      split <;> rfl

/-- Reordering the batch of a step reorders its advantages. -/
theorem fitAdvantages_reorder (cfg : StepConfig K n L) (batch : Batch U n P L)
    (rewardTensor : Fin n → Fin L → K) (σ : Equiv.Perm (Fin n)) :
    fitAdvantages (cfg.reorder σ) (batch.reorder σ) (rewardTensor ∘ σ) =
      (fitAdvantages cfg batch rewardTensor).map (· ∘ σ) := by
  have hvalid := validSampleMask_reorder batch cfg.maxResponseLength σ
  have hzero : zeroInvalid
      ((buildTrajectoryFilterOutputs batch cfg.maxResponseLength).validSampleMask ∘ σ)
      (batch.responseMask ∘ σ) =
        zeroInvalid (buildTrajectoryFilterOutputs batch cfg.maxResponseLength).validSampleMask
          batch.responseMask ∘ σ := rfl
  unfold fitAdvantages
  simp only [StepConfig.reorder] at hvalid ⊢
  rw [hvalid]
  simp only [Batch.reorder, hzero, applyKlPenalty_comp, applyRejection_comp, Option.map_map]
  congr 1
  funext mask
  exact computeAdvantage_comp cfg.sqrt cfg.normAdvByStdInGrpo batch.uid _ mask _ σ

/-- The advantages are equivariant under permutations of the rows. What `_balance_batch` does to
a batch is such a permutation, so a step gives every trajectory the advantage it would have had
without it. -/
theorem advantages_of_reordering :
    (∀ (sqrt : SquareRoot K) (tokenLevelRewards responseMask : Fin n → Fin L → K)
      (index : Fin n → U) (epsilon : K) (normAdvByStdInGrpo : Bool)
      (validSampleMask : Option (Fin n → Bool)) (σ : Equiv.Perm (Fin n)) (i : Fin n) (t : Fin L),
      computeGrpoOutcomeAdvantage sqrt (fun i => tokenLevelRewards (σ i))
          (fun i => responseMask (σ i)) (fun i => index (σ i)) epsilon normAdvByStdInGrpo
          (validSampleMask.map fun mask i => mask (σ i)) i t =
        computeGrpoOutcomeAdvantage sqrt tokenLevelRewards responseMask index epsilon
          normAdvByStdInGrpo validSampleMask (σ i) t) ∧
    ∀ (karmarkarKarp : Partitioner) (usePrefixGrouper : Bool) (dpSize : ℕ)
      (batch : Batch U n P L) (indices : List (Fin n)),
      balanceBatch karmarkarKarp usePrefixGrouper dpSize batch = some indices →
      ∃ σ : Equiv.Perm (Fin n), indices = List.ofFn σ ∧
        ∀ (cfg : StepConfig K n L) (rewardTensor : Fin n → Fin L → K),
          fitAdvantages (cfg.reorder σ) (batch.reorder σ) (fun i => rewardTensor (σ i)) =
            (fitAdvantages cfg batch rewardTensor).map fun advantages i => advantages (σ i) := by
  constructor
  · intro sqrt rewards mask index epsilon byStd valid σ i t
    exact congrFun₂ (computeGrpoOutcomeAdvantage_comp sqrt rewards mask index epsilon byStd valid σ)
      i t
  · intro karmarkarKarp usePrefixGrouper dpSize batch indices h
    rcases exists_perm_of_indices (balanceBatch_perm h) with ⟨σ, hσ⟩
    exact ⟨σ, hσ, fun cfg rewardTensor => fitAdvantages_reorder cfg batch rewardTensor σ⟩

end Advantages

/-- Three trajectories of 3, 1 and 2 tokens. -/
def threeTrajectories : Batch ℕ 3 1 2 where
  uid _ := 0
  attentionMask i t := t.val < [3, 1, 2].getD i.val 0
  responseMask i t := t.val + 1 < [3, 1, 2].getD i.val 0
  searchTimeout := none
  searchExceptionType := none
  searchResponseTruncated := none
  numSearchCalls := none
  hasFinalAnswer := none
  answerEm := none

theorem advantages_of_reordering_threeTrajectories :
    ∃ σ : Equiv.Perm (Fin 3), [1, 0, 2] = List.ofFn σ ∧
      ∀ (cfg : StepConfig ℝ 3 2) (rewardTensor : Fin 3 → Fin 2 → ℝ),
        fitAdvantages (cfg.reorder σ) (threeTrajectories.reorder σ) (fun i => rewardTensor (σ i)) =
          (fitAdvantages cfg threeTrajectories rewardTensor).map fun advantages i =>
            advantages (σ i) :=
  advantages_of_reordering.2 (fun m _ _ => [List.finRange m]) false 1 threeTrajectories [1, 0, 2]
    (by decide)

end SearchR1.RayTrainer
