import SearchR1.Verification.Advantage.Sessions
import SearchR1.Verification.Filtering.GroupFilter
import Mathlib.Algebra.BigOperators.Pi
import Mathlib.Analysis.Real.Sqrt
import Mathlib.Tactic.Linarith
import Mathlib.Tactic.Positivity

/-! # The baseline on the two trainer paths -/

namespace SearchR1.RayTrainer

open PyText GroupStatistics CoreAlgos V1Trainer

variable {K U : Type*} [Field K] [LinearOrder K] [LinearOrder U] {n P L : ℕ}

/-! ## Statements -/

/-- Masked trajectories get advantage zero on every token, and their rewards do not change the
advantages of the other trajectories of their group. -/
def ProtectsBaseline (batch : Batch U n P L) (maxResponseLength : ℤ)
    (advantages : (Fin n → Fin L → K) → Option (Fin n → Fin L → K)) : Prop :=
  (∀ rewards adv, advantages rewards = some adv →
    ∀ i, mustMask batch maxResponseLength i = true → ∀ t, adv i t = 0) ∧
  ∀ rewards rewards' adv adv' i, mustMask batch maxResponseLength i = true →
    (∀ k, k ≠ i → rewards k = rewards' k) →
    advantages rewards = some adv → advantages rewards' = some adv' →
    ∀ j, j ≠ i → batch.uid j = batch.uid i → adv j = adv' j

/-- Both trainers protect the baseline, and they compute the same advantages. -/
def TrainersAgree [NeZero L] (cfg : StepConfig K n L) (batch : Batch U n P L)
    (keys : Fin n → BatchKey) : Prop :=
  ProtectsBaseline batch cfg.maxResponseLength (fitAdvantages cfg batch) ∧
  ProtectsBaseline batch cfg.maxResponseLength (v1Advantages cfg batch keys) ∧
  ∀ rewards adv adv', fitAdvantages cfg batch rewards = some adv →
    v1Advantages cfg batch keys rewards = some adv' → adv = adv'

/-- No masked trajectory shares its group with another one, except in groups without a response
token (that rejection sampling keeps). -/
def MaskedGroupsEmpty (cfg : StepConfig K n L) (batch : Batch U n P L) : Prop :=
  ∀ mask, applyRejection cfg.rejection batch.responseMask = some mask →
    ∀ i, mustMask batch cfg.maxResponseLength i = true →
    ∀ j, j ≠ i → batch.uid j = batch.uid i →
    ∀ k, batch.uid k = batch.uid i → ∀ t, mask k t = false

/-! ## The two paths as scalars times masks -/

section Paths

variable (cfg : StepConfig K n L) (batch : Batch U n P L)

/-- The rows that `fit` keeps. -/
def keptMask (i : Fin n) : Bool := !mustMask batch cfg.maxResponseLength i

/-- The scalar of a row on a path that knows a sample mask. -/
def pathScalar (validMask : Fin n → Bool) (responseMask : Fin n → Fin L → Bool)
    (rewards : Fin n → Fin L → K) (i : Fin n) : K :=
  groupScalar cfg.sqrt defaultEpsilon cfg.normAdvByStdInGrpo batch.uid validMask
    (sequenceScores (applyKlPenalty cfg.klPenalty responseMask rewards)) i

theorem fitAdvantages_eq (rewards : Fin n → Fin L → K) :
    fitAdvantages cfg batch rewards =
      (applyRejection cfg.rejection (zeroInvalid (keptMask cfg batch) batch.responseMask)).map
        fun mask i t => pathScalar cfg batch (keptMask cfg batch)
          (zeroInvalid (keptMask cfg batch) batch.responseMask) rewards i *
            maskValue (mask i) t := by
  unfold fitAdvantages
  apply Option.map_congr
  intro mask _
  funext i t
  rw [computeAdvantage, computeGrpoOutcomeAdvantage_apply, Option.getD_some]
  rfl

theorem v1Advantages_eq [NeZero L] {keys : Fin n → BatchKey} (hkeys : OneOutputPerSession keys)
    (rewards : Fin n → Fin L → K) :
    v1Advantages cfg batch keys rewards =
      (applyRejection cfg.rejection batch.responseMask).map fun mask i t =>
        pathScalar cfg batch (fun _ => true) batch.responseMask rewards i *
          maskValue (mask i) t := by
  unfold v1Advantages
  apply Option.map_congr
  intro mask _
  funext i t
  rw [computeAdvantageForMultiTrajectories_apply _ _ _ hkeys]
  rfl

end Paths

/-! ## Rows that are kept -/

omit [LinearOrder K] in
/-- The penalised rewards of a row depend on that row of the mask and of the rewards. -/
theorem applyKlPenalty_congr (klPenalty : Option (K × (Fin n → Fin L → K)))
    {responseMask responseMask' : Fin n → Fin L → Bool} {rewards rewards' : Fin n → Fin L → K}
    {i : Fin n} (hmask : responseMask i = responseMask' i) (hrewards : rewards i = rewards' i) :
    applyKlPenalty klPenalty responseMask rewards i =
      applyKlPenalty klPenalty responseMask' rewards' i := by
  cases klPenalty with
  | none => exact hrewards
  | some penalty =>
      funext t
      simp only [applyKlPenalty, hmask, hrewards]

theorem zeroInvalid_of_valid {validSampleMask : Fin n → Bool}
    (responseMask : Fin n → Fin L → Bool) {i : Fin n} (hi : validSampleMask i = true) :
    zeroInvalid validSampleMask responseMask i = responseMask i := by
  funext t
  simp [zeroInvalid, hi]

/-- Rejection sampling looks at one row at a time. -/
theorem applyRejection_congr {rejection : Option (Fin n → (Fin L → Bool) → Fin L → Bool)}
    {responseMask responseMask' mask mask' : Fin n → Fin L → Bool}
    (hmask : applyRejection rejection responseMask = some mask)
    (hmask' : applyRejection rejection responseMask' = some mask') {i : Fin n}
    (hi : responseMask i = responseMask' i) : mask i = mask' i := by
  cases rejection with
  | none =>
      simp only [applyRejection, Option.some_inj] at hmask hmask'
      rw [← hmask, ← hmask', hi]
  | some keep =>
      simp only [applyRejection, Option.ite_none_right_eq_some, Option.some_inj] at hmask hmask'
      rw [← hmask.2, ← hmask'.2]
      simp only [hi]

/-- The scalars of a group are equal where its rows have the same status and scores. -/
theorem groupScalar_congr_group (sqrt : SquareRoot K) (epsilon : K) (normAdvByStdInGrpo : Bool)
    {index : Fin n → U} {validMask validMask' : Fin n → Bool} {scores scores' : Fin n → K}
    {i : Fin n} (hvalid : ∀ k, index k = index i → validMask' k = validMask k)
    (hscores : ∀ k, index k = index i → scores' k = scores k) :
    groupScalar sqrt epsilon normAdvByStdInGrpo index validMask' scores' i =
      groupScalar sqrt epsilon normAdvByStdInGrpo index validMask scores i :=
  groupScalar_of_equiv sqrt epsilon normAdvByStdInGrpo (Equiv.refl {k // index k = index i})
    (fun k => hvalid k.1 k.2) (fun k => hscores k.1 k.2) ⟨i, rfl⟩

theorem groupScalar_of_alone (sqrt : SquareRoot K) (epsilon : K) (normAdvByStdInGrpo : Bool)
    {index : Fin n → U} (validMask : Fin n → Bool) (scores : Fin n → K) {i : Fin n}
    (halone : ∀ k, index k = index i → k = i) :
    groupScalar sqrt epsilon normAdvByStdInGrpo index validMask scores i = 0 := by
  apply groupScalar_of_card_lt
  have hsub : (Finset.univ.filter fun k => index k = index i ∧ validMask k) ⊆ {i} := by
    intro k hk
    rw [Finset.mem_filter] at hk
    exact Finset.mem_singleton.mpr (halone k hk.2.1)
  have hcard := Finset.card_le_card hsub
  rw [Finset.card_singleton] at hcard
  omega

/-! ## The condition is enough -/

section Sufficient

variable {cfg : StepConfig K n L} {batch : Batch U n P L}

omit [LinearOrder U] in
theorem keptMask_eq_false {i : Fin n} (hi : mustMask batch cfg.maxResponseLength i = true) :
    keptMask cfg batch i = false := by
  simp [keptMask, hi]

omit [LinearOrder K] in
theorem sequenceScores_congr {rewards rewards' : Fin n → Fin L → K} {i : Fin n}
    (h : rewards i = rewards' i) : sequenceScores rewards i = sequenceScores rewards' i := by
  simp only [sequenceScores, h]

theorem pathScalar_of_not_kept (responseMask : Fin n → Fin L → Bool)
    (rewards : Fin n → Fin L → K) {i : Fin n} (hi : keptMask cfg batch i = false) :
    pathScalar cfg batch (keptMask cfg batch) responseMask rewards i = 0 :=
  groupScalar_of_invalid _ _ _ _ hi

theorem pathScalar_of_alone (validMask : Fin n → Bool) (responseMask : Fin n → Fin L → Bool)
    (rewards : Fin n → Fin L → K) {i : Fin n} (halone : ∀ k, batch.uid k = batch.uid i → k = i) :
    pathScalar cfg batch validMask responseMask rewards i = 0 :=
  groupScalar_of_alone _ _ _ _ _ halone

theorem fitAdvantages_protects (cfg : StepConfig K n L) (batch : Batch U n P L) :
    ProtectsBaseline batch cfg.maxResponseLength (fitAdvantages cfg batch) := by
  constructor
  · intro rewards adv hadv i hi t
    rw [fitAdvantages_eq, Option.map_eq_some_iff] at hadv
    rcases hadv with ⟨mask, -, rfl⟩
    simp only [pathScalar_of_not_kept _ _ (keptMask_eq_false hi), zero_mul]
  · intro rewards rewards' adv adv' i hi hrewards hadv hadv' j hj _
    rw [fitAdvantages_eq, Option.map_eq_some_iff] at hadv hadv'
    rcases hadv with ⟨mask, hmask, rfl⟩
    rcases hadv' with ⟨mask', hmask', rfl⟩
    have hscores : ∀ k, keptMask cfg batch k = true →
        sequenceScores (applyKlPenalty cfg.klPenalty
          (zeroInvalid (keptMask cfg batch) batch.responseMask) rewards) k =
        sequenceScores (applyKlPenalty cfg.klPenalty
          (zeroInvalid (keptMask cfg batch) batch.responseMask) rewards') k := by
      intro k hk
      have hne : k ≠ i := by
        intro heq
        rw [heq, keptMask_eq_false hi] at hk
        cases hk
      exact sequenceScores_congr (applyKlPenalty_congr _ rfl (hrewards k hne))
    have hscalar : pathScalar cfg batch (keptMask cfg batch)
        (zeroInvalid (keptMask cfg batch) batch.responseMask) rewards =
        pathScalar cfg batch (keptMask cfg batch)
          (zeroInvalid (keptMask cfg batch) batch.responseMask) rewards' :=
      groupScalar_congr _ _ _ hscores
    rw [hmask] at hmask'
    cases hmask'
    funext t
    rw [hscalar]

/-- In a group without masked rows the two paths see the same rows. -/
theorem pathScalar_eq_of_kept {i : Fin n}
    (hkept : ∀ k, batch.uid k = batch.uid i → keptMask cfg batch k = true)
    (rewards : Fin n → Fin L → K) :
    pathScalar cfg batch (keptMask cfg batch)
        (zeroInvalid (keptMask cfg batch) batch.responseMask) rewards i =
      pathScalar cfg batch (fun _ => true) batch.responseMask rewards i := by
  apply groupScalar_congr_group
  · intro k hk
    rw [hkept k hk]
  · intro k hk
    apply sequenceScores_congr
    exact applyKlPenalty_congr _ (zeroInvalid_of_valid _ (hkept k hk)) rfl

section V1

variable [NeZero L] {keys : Fin n → BatchKey} (hkeys : OneOutputPerSession keys)
  (hempty : MaskedGroupsEmpty cfg batch)
include hkeys hempty

theorem v1Advantages_protects :
    ProtectsBaseline batch cfg.maxResponseLength (v1Advantages cfg batch keys) := by
  constructor
  · intro rewards adv hadv i hi t
    rw [v1Advantages_eq cfg batch hkeys, Option.map_eq_some_iff] at hadv
    rcases hadv with ⟨mask, hmask, rfl⟩
    by_cases halone : ∀ k, batch.uid k = batch.uid i → k = i
    · simp only [pathScalar_of_alone _ _ _ halone, zero_mul]
    · push Not at halone
      rcases halone with ⟨j, hj, hne⟩
      simp [maskValue, hempty mask hmask i hi j hne hj i rfl t]
  · intro rewards rewards' adv adv' i hi _ hadv hadv' j hne hj
    rw [v1Advantages_eq cfg batch hkeys, Option.map_eq_some_iff] at hadv hadv'
    rcases hadv with ⟨mask, hmask, rfl⟩
    rcases hadv' with ⟨mask', hmask', rfl⟩
    funext t
    simp [maskValue, hempty mask hmask i hi j hne hj j hj t,
      hempty mask' hmask' i hi j hne hj j hj t]

theorem fitAdvantages_eq_v1Advantages {rewards adv adv' : Fin n → Fin L → K}
    (hadv : fitAdvantages cfg batch rewards = some adv)
    (hadv' : v1Advantages cfg batch keys rewards = some adv') : adv = adv' := by
  rw [fitAdvantages_eq, Option.map_eq_some_iff] at hadv
  rw [v1Advantages_eq cfg batch hkeys, Option.map_eq_some_iff] at hadv'
  rcases hadv with ⟨mask, hmask, rfl⟩
  rcases hadv' with ⟨mask', hmask', rfl⟩
  funext i t
  have hrow : keptMask cfg batch i = true → mask i = mask' i := fun hi =>
    applyRejection_congr hmask hmask' (zeroInvalid_of_valid _ hi)
  by_cases hkept : ∀ k, batch.uid k = batch.uid i → keptMask cfg batch k = true
  · rw [pathScalar_eq_of_kept hkept, hrow (hkept i rfl)]
  · push Not at hkept
    rcases hkept with ⟨x, hx, hmasked⟩
    have hmust : mustMask batch cfg.maxResponseLength x = true := by
      simpa [keptMask] using hmasked
    by_cases halone : ∀ k, batch.uid k = batch.uid i → k = i
    · rw [pathScalar_of_alone _ _ _ halone, pathScalar_of_alone _ _ _ halone, zero_mul, zero_mul]
    · -- the group has a masked row and another one, so no token of it is left
      have hother : ∃ j, j ≠ x ∧ batch.uid j = batch.uid x := by
        push Not at halone
        rcases halone with ⟨j, hj, hne⟩
        by_cases hxi : x = i
        · exact ⟨j, hxi ▸ hne, hj.trans hx.symm⟩
        · exact ⟨i, Ne.symm hxi, hx.symm⟩
      rcases hother with ⟨j, hne, hj⟩
      have hnone : mask' i t = false := hempty mask' hmask' x hmust j hne hj i hx.symm t
      by_cases hi : keptMask cfg batch i = true
      · simp [maskValue, hrow hi, hnone]
      · have hi' : keptMask cfg batch i = false := by simpa using hi
        simp [maskValue, pathScalar_of_not_kept _ _ hi', hnone]

end V1

end Sufficient

/-! ## The condition is necessary -/

section Necessary

variable [IsStrictOrderedRing K] {cfg : StepConfig K n L} {batch : Batch U n P L}

/-- The scores of one rewarded row in a group of several give no row the baseline. -/
theorem groupScalar_single_ne_zero (sqrt : SquareRoot K) (normAdvByStdInGrpo : Bool)
    {index : Fin n → U} {x y j : Fin n} (hne : j ≠ x) (hj : index j = index x)
    (hy : index y = index x) :
    groupScalar sqrt defaultEpsilon normAdvByStdInGrpo index (fun _ => true)
      (Pi.single x (1 : K)) y ≠ 0 := by
  have heps : (0 : K) < defaultEpsilon := by
    unfold defaultEpsilon
    positivity
  let values := groupValues index (fun _ => true) (Pi.single x (1 : K)) (index y)
  have hcard : 2 ≤ values.card := by
    have hsub : ({j, x} : Finset (Fin n)) ⊆
        Finset.univ.filter fun k => index k = index y ∧ (fun _ => true) k = true := by
      intro k hk
      rw [Finset.mem_insert, Finset.mem_singleton] at hk
      rw [Finset.mem_filter]
      refine ⟨Finset.mem_univ k, ?_, rfl⟩
      rcases hk with rfl | rfl
      · exact hj.trans hy.symm
      · exact hy.symm
    have hle := Finset.card_le_card hsub
    rwa [Finset.card_pair hne, ← card_groupValues] at hle
  have hsum : values.sum = 1 := by
    have hx : x ∈ Finset.univ.filter fun k => index k = index y ∧ (fun _ => true) k = true := by
      simp [hy]
    exact (Finset.sum_pi_single' x (1 : K) _).trans (if_pos hx)
  have hmean : groupMean values = 1 / values.card := by rw [groupMean, hsum]
  have hcardK : (2 : K) ≤ values.card := by exact_mod_cast hcard
  have hscalar : groupScalar sqrt defaultEpsilon normAdvByStdInGrpo index (fun _ => true)
      (Pi.single x (1 : K)) y =
        standardize sqrt defaultEpsilon normAdvByStdInGrpo values
          ((Pi.single x (1 : K) : Fin n → K) y) := by
    simp only [groupScalar]
    rw [if_neg]
    simp only [not_true_eq_false, or_false, not_lt]
    exact hcard
  rw [hscalar, Ne, standardize_eq_zero_iff sqrt heps, hmean]
  have hpos : (0 : K) < values.card := by linarith
  by_cases hyx : y = x
  · subst hyx
    rw [Pi.single_eq_same, eq_div_iff hpos.ne']
    intro h
    linarith
  · rw [Pi.single_eq_of_ne hyx]
    exact (one_div_pos.mpr hpos).ne

omit [IsStrictOrderedRing K] in
theorem groupScalar_zero (sqrt : SquareRoot K) (normAdvByStdInGrpo : Bool) (index : Fin n → U)
    (y : Fin n) : groupScalar sqrt defaultEpsilon normAdvByStdInGrpo index (fun _ => true)
      (0 : Fin n → K) y = 0 := by
  have hmean : groupMean (groupValues index (fun _ => true) (0 : Fin n → K) (index y)) = 0 := by
    rw [groupMean, groupValues]
    simp
  simp [groupScalar, standardize, hmean]

/-- Rewards whose penalised totals are the given scores. -/
def rewardsFor [NeZero L] (klPenalty : Option (K × (Fin n → Fin L → K)))
    (responseMask : Fin n → Fin L → Bool) (scores : Fin n → K) : Fin n → Fin L → K :=
  fun i t => (Pi.single 0 (scores i) : Fin L → K) t - applyKlPenalty klPenalty responseMask 0 i t

omit [LinearOrder K] [IsStrictOrderedRing K] in
theorem sequenceScores_rewardsFor [NeZero L] (klPenalty : Option (K × (Fin n → Fin L → K)))
    (responseMask : Fin n → Fin L → Bool) (scores : Fin n → K) :
    sequenceScores (applyKlPenalty klPenalty responseMask
      (rewardsFor klPenalty responseMask scores)) = scores := by
  have hpenalty : ∀ i t, applyKlPenalty klPenalty responseMask
      (rewardsFor klPenalty responseMask scores) i t =
        (Pi.single 0 (scores i) : Fin L → K) t := by
    intro i t
    cases klPenalty with
    | none => simp [applyKlPenalty, rewardsFor]
    | some penalty => simp [applyKlPenalty, rewardsFor]
  funext i
  simp only [sequenceScores, hpenalty]
  exact (Finset.sum_pi_single' 0 (scores i) _).trans (if_pos (Finset.mem_univ _))

/-- A token that is left in a group with a masked row and another one carries a wrong advantage:
its own, when the row is masked, or one that follows the masked reward. -/
theorem maskedGroupsEmpty_of_protects [NeZero L] {keys : Fin n → BatchKey}
    (hkeys : OneOutputPerSession keys)
    (hprotects : ProtectsBaseline batch cfg.maxResponseLength (v1Advantages cfg batch keys)) :
    MaskedGroupsEmpty cfg batch := by
  intro mask hmask i hi j hne hj k hk t
  have hadv : ∀ scores : Fin n → K,
      v1Advantages cfg batch keys (rewardsFor cfg.klPenalty batch.responseMask scores) =
        some fun i t => groupScalar cfg.sqrt defaultEpsilon cfg.normAdvByStdInGrpo batch.uid
          (fun _ => true) scores i * maskValue (mask i) t := by
    intro scores
    rw [v1Advantages_eq cfg batch hkeys, hmask, Option.map_some]
    simp only [pathScalar, sequenceScores_rewardsFor]
  by_contra htoken
  have hvalue : (maskValue (mask k) t : K) = 1 := by
    simp [maskValue, Bool.eq_true_of_not_eq_false htoken]
  have hnonzero := groupScalar_single_ne_zero cfg.sqrt cfg.normAdvByStdInGrpo hne hj hk
  by_cases hki : k = i
  · apply hnonzero
    have hzero := hprotects.1 _ _ (hadv (Pi.single i 1)) k (hki ▸ hi) t
    rwa [hvalue, mul_one] at hzero
  · apply hnonzero
    have hsame : ∀ l, l ≠ i →
        rewardsFor cfg.klPenalty batch.responseMask (Pi.single i (1 : K)) l =
          rewardsFor cfg.klPenalty batch.responseMask 0 l := by
      intro l hl
      funext s
      simp [rewardsFor, Pi.single_eq_of_ne hl]
    have heq := congrFun (hprotects.2 _ _ _ _ i hi hsame (hadv (Pi.single i 1)) (hadv 0)
      k hki hk) t
    rwa [hvalue, mul_one, mul_one, groupScalar_zero] at heq

/-- The V1 path passes no sample mask: the trainers protect the baseline exactly when no masked
trajectory shares a group that has a token left. -/
theorem trainersAgree_iff [NeZero L] (cfg : StepConfig K n L) (batch : Batch U n P L)
    {keys : Fin n → BatchKey} (hkeys : OneOutputPerSession keys) :
    TrainersAgree cfg batch keys ↔ MaskedGroupsEmpty cfg batch := by
  constructor
  · intro h
    exact maskedGroupsEmpty_of_protects hkeys h.2.1
  · intro h
    refine ⟨fitAdvantages_protects cfg batch, v1Advantages_protects hkeys h, ?_⟩
    intro rewards adv adv' hadv hadv'
    exact fitAdvantages_eq_v1Advantages hkeys h hadv hadv'

end Necessary

/-! ## A group with a timeout -/

/-- The settings of a step without penalty and rejection, over the reals. -/
noncomputable def realConfig (n L : ℕ) : StepConfig ℝ n L where
  maxResponseLength := L
  sqrt := { toFun := Real.sqrt, nonneg := Real.sqrt_nonneg }

/-- Two sessions of one prompt. -/
def twoSessions (i : Fin 2) : BatchKey where
  uid := lit "prompt"
  sessionId := lit (if i.val = 0 then "0" else "1")
  index := 0

theorem oneOutputPerSession_twoSessions : OneOutputPerSession twoSessions := by
  unfold OneOutputPerSession Function.Injective
  decide

theorem not_trainersAgree_loneValidBatch :
    ¬ TrainersAgree (realConfig 2 2) loneValidBatch twoSessions := by
  intro h
  have hempty := maskedGroupsEmpty_of_protects oneOutputPerSession_twoSessions h.2.1
  have hmasked : mustMask loneValidBatch (realConfig 2 2).maxResponseLength 1 = true := by
    change mustMask loneValidBatch 2 1 = true
    decide
  have htoken := hempty loneValidBatch.responseMask rfl 1 hmasked 0 (by decide) rfl 0 rfl 0
  cases htoken

/-- The same group without the timeout. -/
def cleanBatch : Batch ℕ 2 1 2 :=
  { loneValidBatch with
    searchTimeout := some fun _ => some 0
    searchExceptionType := some fun _ => some (lit "none") }

theorem trainersAgree_cleanBatch : TrainersAgree (realConfig 2 2) cleanBatch twoSessions := by
  have hkept : ∀ i, mustMask cleanBatch 2 i = false := by decide
  apply (trainersAgree_iff (realConfig 2 2) cleanBatch oneOutputPerSession_twoSessions).mpr
  intro mask _ i hi
  change mustMask cleanBatch 2 i = true at hi
  rw [hkept i] at hi
  cases hi

end SearchR1.RayTrainer
