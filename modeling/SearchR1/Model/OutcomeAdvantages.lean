import SearchR1.Library.Grouping
import SearchR1.Model.CoreAlgos

/-! # Advantages from one score for each response -/

namespace SearchR1.CoreAlgos

open GroupStatistics

variable {K U : Type*} [Field K] [LinearOrder U] {n L : ℕ}

/-- `id2score[index[i]]`: the scores of the trajectories of a prompt, collected row by row. -/
def id2score {α : Type*} (index : Fin n → U) (scores : Fin n → α) (i : Fin n) : List α :=
  ((Dict.collect ((List.finRange n).map fun j => (index j, scores j))).get? (index i)).getD []

/-- `id2mean`: the mean of a group, 0 for a trajectory alone. -/
def id2mean (groupScores : List K) : K := if groupScores.length = 1 then 0 else mean groupScores

/-- `compute_rloo_outcome_advantage`. -/
def computeRlooOutcomeAdvantage (tokenLevelRewards responseMask : Fin n → Fin L → K)
    (index : Fin n → U) : Fin n → Fin L → K :=
  let scores := sequenceScores tokenLevelRewards
  let advantage i :=
    let responseNum := (id2score index scores i).length
    if 1 < responseNum then
      scores i * responseNum / (responseNum - 1) -
        id2mean (id2score index scores i) * responseNum / (responseNum - 1)
    else scores i
  fun i t => advantage i * responseMask i t

/-- `np.unique(index, return_inverse=True)[1]`. -/
def returnInverse (index : Fin n → U) (i : Fin n) : ℕ := (npUnique index).idxOf (index i)

/-- `torch.bincount` with weights. -/
def bincount (inv : Fin n → ℕ) (weights : Fin n → K) (u : ℕ) : K :=
  ∑ i, if inv i = u then weights i else 0

/-- `compute_rloo_vectorized_outcome_advantage`. -/
def computeRlooVectorizedOutcomeAdvantage [LinearOrder K]
    (tokenLevelRewards responseMask : Fin n → Fin L → K) (index : Fin n → U) :
    Fin n → Fin L → K :=
  let scores := sequenceScores tokenLevelRewards
  let inv := returnInverse index
  let c i := bincount inv (fun _ => 1) (inv i)
  let adv i := (c i * scores i - bincount inv scores (inv i)) / max (c i - 1) 1 *
    if 1 < c i then 1 else 0
  fun i t => adv i * responseMask i t

/-- `compute_opo_outcome_advantage`. -/
def computeOpoOutcomeAdvantage (tokenLevelRewards responseMask : Fin n → Fin L → K)
    (index : Fin n → U) : Fin n → Fin L → K :=
  let responseLength := sequenceScores responseMask
  let scores := sequenceScores tokenLevelRewards
  let id2bsl i :=
    let scoreTensor := id2score index scores i
    let lenTensor := id2score index responseLength i
    if scoreTensor.length = 1 then 0
    else (List.zipWith (· * ·) lenTensor scoreTensor).sum / lenTensor.sum
  fun i t => (scores i - id2bsl i) * responseMask i t

end SearchR1.CoreAlgos
