import SearchR1.Model.TrajectoryFilter
import SearchR1.Model.CoreAlgos

/-! # A training step of the trainer -/

namespace SearchR1.RayTrainer

open PyText TrajectoryFilter GroupStatistics CoreAlgos

/-- The batch of a step: `n` trajectories with prompts of width `P` and responses of width
`L`. A column no trajectory has a value for is absent, and an entry is `none` where one
trajectory has no value. -/
structure Batch (U : Type*) (n P L : ℕ) where
  uid : Fin n → U
  attentionMask : Fin n → Fin (P + L) → Bool
  responseMask : Fin n → Fin L → Bool
  searchTimeout : Option (Fin n → Option ℚ)
  searchExceptionType : Option (Fin n → Option Text)
  searchResponseTruncated : Option (Fin n → Option ℚ)
  numSearchCalls : Option (Fin n → ℚ)
  hasFinalAnswer : Option (Fin n → ℚ)
  answerEm : Option (Fin n → ℚ)

variable {U : Type*} {n P L : ℕ}

/-- `numeric_array`. -/
def numericArray (column : Option (Fin n → Option ℚ)) (i : Fin n) : Option ℚ :=
  (column.getD fun _ => some 0) i

/-- `numeric_array` for a column of the reward function, which has no missing entries. -/
def rewardArray (column : Option (Fin n → ℚ)) (i : Fin n) : ℚ := (column.getD fun _ => 0) i

/-- `object_array`. -/
def objectArray (column : Option (Fin n → Option Text)) (i : Fin n) : Option Text :=
  (column.getD fun _ => some (lit "none")) i

/-- `attention_mask[:, prompt_width:].sum(dim=-1)`. -/
def responseLengths (batch : Batch U n P L) (i : Fin n) : ℕ :=
  (Finset.univ.filter fun t : Fin L => batch.attentionMask i (Fin.natAdd P t)).card

/-- `int(value)` rounds towards zero. -/
def truncate (q : ℚ) : ℤ := Int.tdiv q.num q.den

/-- The filter the trainer builds. -/
def trajectoryFilter : TrajectoryFilter.Config := { minValidTrajectories := 2, maxToolCalls := 10 }

/-- A row of the batch as a trajectory. -/
def rowTrajectory (batch : Batch U n P L) (maxResponseLength : ℤ) (i : Fin n) : Trajectory where
  toolMetrics :=
    { searchTimeout := numericArray batch.searchTimeout i
      searchExceptionType := objectArray batch.searchExceptionType i
      searchResponseTruncated := numericArray batch.searchResponseTruncated i }
  responseLength := responseLengths batch i
  maxResponseLength := maxResponseLength
  numToolCalls := truncate (rewardArray batch.numSearchCalls i)
  hasAnswer := rewardArray batch.hasFinalAnswer i ≠ 0
  hasValidFormat := rewardArray batch.hasFinalAnswer i ≠ 0
  answerCorrect := rewardArray batch.answerEm i ≠ 0

structure FilterOutputs (n : ℕ) where
  validSampleMask : Fin n → Bool
  allAnomalies : Fin n → List AnomalyType

/-- `build_trajectory_filter_outputs`. -/
def buildTrajectoryFilterOutputs (batch : Batch U n P L) (maxResponseLength : ℤ) :
    FilterOutputs n where
  validSampleMask i :=
    !(classifyTrajectory trajectoryFilter (rowTrajectory batch maxResponseLength i)).1
  allAnomalies i :=
    (classifyTrajectory trajectoryFilter (rowTrajectory batch maxResponseLength i)).2

/-- `batch.batch["response_mask"][invalid_mask] = 0`. -/
def zeroInvalid (validSampleMask : Fin n → Bool) (responseMask : Fin n → Fin L → Bool) :
    Fin n → Fin L → Bool :=
  fun i t => validSampleMask i && responseMask i t

/-! ## Rewards and advantages -/

section Advantage

variable {K : Type*} [Field K] [LinearOrder K] [LinearOrder U]

/-- The settings of a step. The penalty in the reward is its coefficient with the divergence
of every token. Rejection sampling (of the rollout correction in decoupled mode) keeps tokens
of a row by statistics of the row over its mask. -/
structure StepConfig (K : Type*) [Zero K] [LE K] (n L : ℕ) where
  maxResponseLength : ℤ
  klPenalty : Option (K × (Fin n → Fin L → K)) := none
  rejection : Option (Fin n → (Fin L → Bool) → Fin L → Bool) := none
  sqrt : SquareRoot K
  normAdvByStdInGrpo : Bool := true

def maskValue (mask : Fin L → Bool) (t : Fin L) : K := if mask t then 1 else 0

/-- `apply_kl_penalty`: the penalty `beta * kld` on the tokens of the response mask. -/
def applyKlPenalty (klPenalty : Option (K × (Fin n → Fin L → K)))
    (responseMask : Fin n → Fin L → Bool) (tokenLevelScores : Fin n → Fin L → K) :
    Fin n → Fin L → K :=
  match klPenalty with
  | none => tokenLevelScores
  | some (beta, kld) => fun i t =>
      tokenLevelScores i t - beta * (kld i t * maskValue (responseMask i) t)

/-- The response mask after the rollout correction, which raises when no token is left. -/
def applyRejection (rejection : Option (Fin n → (Fin L → Bool) → Fin L → Bool))
    (responseMask : Fin n → Fin L → Bool) : Option (Fin n → Fin L → Bool) :=
  match rejection with
  | none => some responseMask
  | some keep =>
      if ∃ i t, responseMask i t then some fun i t => responseMask i t && keep i (responseMask i) t
      else none

/-- The default of `compute_grpo_outcome_advantage`, which no caller overrides. -/
def defaultEpsilon : K := 1 / 10 ^ 6

/-- `compute_advantage` for GRPO; `validSampleMask` is what the batch holds under that key. -/
def computeAdvantage (sqrt : SquareRoot K) (normAdvByStdInGrpo : Bool) (uid : Fin n → U)
    (validSampleMask : Option (Fin n → Bool)) (responseMask : Fin n → Fin L → Bool)
    (tokenLevelRewards : Fin n → Fin L → K) : Fin n → Fin L → K :=
  computeGrpoOutcomeAdvantage sqrt tokenLevelRewards (fun i => maskValue (responseMask i)) uid
    defaultEpsilon normAdvByStdInGrpo validSampleMask

/-- The advantages of a step of `RayPPOTrainer.fit` with `adv_estimator = grpo`. -/
def fitAdvantages (cfg : StepConfig K n L) (batch : Batch U n P L)
    (rewardTensor : Fin n → Fin L → K) : Option (Fin n → Fin L → K) :=
  let outputs := buildTrajectoryFilterOutputs batch cfg.maxResponseLength
  let responseMask := zeroInvalid outputs.validSampleMask batch.responseMask
  let tokenLevelRewards := applyKlPenalty cfg.klPenalty responseMask rewardTensor
  (applyRejection cfg.rejection responseMask).map fun responseMask =>
    computeAdvantage cfg.sqrt cfg.normAdvByStdInGrpo batch.uid (some outputs.validSampleMask)
      responseMask tokenLevelRewards

end Advantage

end SearchR1.RayTrainer
