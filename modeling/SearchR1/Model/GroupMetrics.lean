import SearchR1.Library.Dict
import SearchR1.Library.Text
import SearchR1.Model.CoreAlgos

/-! # The metrics of the trainer about its groups -/

namespace SearchR1.RayTrainer

open PyText IndexLoop GroupStatistics CoreAlgos

variable {K U : Type*} [Field K] [LinearOrder K] [LinearOrder U] {n : ℕ}

/-- The counters of the loop over the groups. -/
structure GroupCounts where
  droppedGroups : ℕ := 0
  effectiveGroups : ℕ := 0
  zeroVarianceGroups : ℕ := 0
  validCounts : List ℕ := []

/-- `rewards[(uids == uid) & valid_mask]`. -/
def validScores (rewards : Fin n → K) (uids : Fin n → U) (validMask : Fin n → Bool) (uid : U) :
    List K :=
  gather rewards ((List.finRange n).filter fun i => uids i = uid && validMask i)

/-- `np.std`, the deviation of the population. -/
def npStd (sqrt : ExactRoot K) (values : List K) : K := sqrt.toFun (populationVariance values)

/-- One round of the loop. -/
def countGroup (sqrt : ExactRoot K) (rewards : Fin n → K) (uids : Fin n → U)
    (validMask : Fin n → Bool) (epsilon : K) (counts : GroupCounts) (uid : U) : GroupCounts :=
  let validScores := validScores rewards uids validMask uid
  let nValid := validScores.length
  let counts := { counts with validCounts := counts.validCounts ++ [nValid] }
  if nValid < 2 then { counts with droppedGroups := counts.droppedGroups + 1 }
  else
    let counts := { counts with effectiveGroups := counts.effectiveGroups + 1 }
    if npStd sqrt validScores ≤ epsilon then
      { counts with zeroVarianceGroups := counts.zeroVarianceGroups + 1 }
    else counts

def groupCounts (sqrt : ExactRoot K) (rewards : Fin n → K) (uids : Fin n → U)
    (validMask : Fin n → Bool) (epsilon : K) : GroupCounts :=
  (npUnique uids).foldl (countGroup sqrt rewards uids validMask epsilon) {}

end SearchR1.RayTrainer
