import SearchR1.Library.IndexLoop
import SearchR1.Library.GroupStatistics
import Mathlib.Data.List.Sort
import Mathlib.Data.List.FinRange

/-! # The GRPO advantage -/

namespace SearchR1.CoreAlgos

open IndexLoop GroupStatistics

variable {K U : Type*} [Field K] [LinearOrder K] [LinearOrder U] {n L : ℕ}

/-- `np.unique`: the distinct labels in increasing order. -/
def npUnique (index : Fin n → U) : List U :=
  ((List.finRange n).map index).dedup.insertionSort (· ≤ ·)

/-- `np.where(index == uid)[0]`. -/
def npWhere (index : Fin n → U) (uid : U) : List (Fin n) :=
  (List.finRange n).filter fun i => index i = uid

/-- `token_level_rewards.sum(dim=-1)`. -/
def sequenceScores (tokenLevelRewards : Fin n → Fin L → K) (i : Fin n) : K :=
  ∑ t, tokenLevelRewards i t

/-- One round of the loop over the groups. -/
def normalizeGroup (sqrt : SquareRoot K) (epsilon : K) (normAdvByStdInGrpo : Bool)
    (index : Fin n → U) (validMask : Fin n → Bool) (scores normalizedScores : Fin n → K)
    (uid : U) : Fin n → K :=
  let groupIndices := npWhere index uid
  let validIndices := groupIndices.filter validMask
  if validIndices.length < 2 then fill normalizedScores groupIndices 0
  else
    let validScores := gather scores validIndices
    let groupMean := mean validScores
    let groupStd := sqrt.toFun (variance validScores)
    if normAdvByStdInGrpo then
      scatter normalizedScores validIndices
        (validScores.map fun s => (s - groupMean) / (groupStd + epsilon))
    else scatter normalizedScores validIndices (validScores.map fun s => s - groupMean)

/-- The per-row scalars before the product with the response mask. -/
def normalizedScores (sqrt : SquareRoot K) (epsilon : K) (normAdvByStdInGrpo : Bool)
    (index : Fin n → U) (validMask : Fin n → Bool) (scores : Fin n → K) : Fin n → K :=
  (npUnique index).foldl
    (normalizeGroup sqrt epsilon normAdvByStdInGrpo index validMask scores) fun _ => 0

/-- `compute_grpo_outcome_advantage`; the source returns the same tensor twice. -/
def computeGrpoOutcomeAdvantage (sqrt : SquareRoot K) (tokenLevelRewards : Fin n → Fin L → K)
    (responseMask : Fin n → Fin L → K) (index : Fin n → U) (epsilon : K)
    (normAdvByStdInGrpo : Bool) (validSampleMask : Option (Fin n → Bool)) :
    Fin n → Fin L → K :=
  let validMask := validSampleMask.getD fun _ => true
  let normalizedScores := normalizedScores sqrt epsilon normAdvByStdInGrpo index validMask
    (sequenceScores tokenLevelRewards)
  fun i t => normalizedScores i * responseMask i t

end SearchR1.CoreAlgos
