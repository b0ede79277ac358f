import SearchR1.Model.CoreAlgos
import SearchR1.Model.Runtime
import Mathlib.Data.List.Lex

/-! # The vectorised GRPO advantage -/

namespace SearchR1.CoreAlgos

open PyText IndexLoop GroupStatistics

variable {n L : ℕ}

/-! ## Group labels -/

/-- The labels the trainer assigns: strings or integers. -/
inductive GroupIndex (n : ℕ) where
  | strs (index : Fin n → Text)
  | ints (index : Fin n → ℤ)

/-- The conversion of one string by `astype(np.int64)`. -/
def toInt64 {F : Type} (py : Python F) (t : Text) : Option ℤ :=
  (py.intOfStr t).filter fun v => -2 ^ 63 ≤ v && v < 2 ^ 63

/-- `as_torch_index`: strings that are all numeric become their numbers, and other strings their
positions among the distinct ones. -/
def asTorchIndex {F : Type} (py : Python F) : GroupIndex n → Fin n → ℤ
  | .ints index => index
  | .strs index =>
      if ∀ i, (toInt64 py (index i)).isSome then fun i => (toInt64 py (index i)).getD 0
      else fun i => (npUnique index).idxOf (index i)

variable {K : Type*} [Field K] [LinearOrder K]

/-! ## With a mask -/

/-- The positions at which a boolean mask is true. -/
def maskWhere (mask : Fin n → Bool) : List (Fin n) := (List.finRange n).filter mask

/-- One round of the loop over the groups, which normalises the scores in place. -/
def normalizeGroupInPlace (sqrt : SquareRoot K) (epsilon : K) (normAdvByStdInGrpo : Bool)
    (g : Fin n → ℤ) (mask : Fin n → Bool) (scores : Fin n → K) (ug : ℤ) : Fin n → K :=
  let groupMask i := decide (g i = ug)
  let validInGroup i := mask i && groupMask i
  if (maskWhere validInGroup).length < 2 then fill scores (maskWhere groupMask) 0
  else
    let validScores := gather scores (maskWhere validInGroup)
    let grpMean := mean validScores
    let grpStd := sqrt.toFun (variance validScores)
    let normalised :=
      if normAdvByStdInGrpo then validScores.map fun s => (s - grpMean) / (grpStd + epsilon)
      else validScores.map fun s => s - grpMean
    let scores := scatter scores (maskWhere validInGroup) normalised
    fill scores (maskWhere fun i => groupMask i && !mask i) 0

/-! ## Without a mask -/

/-- `index_add_` of one value per row into its group. -/
def groupSum (g : Fin n → ℤ) (values : Fin n → K) (u : ℤ) : K :=
  ∑ i, if g i = u then values i else 0

/-- `group_mean_std`: the mean and the deviation of each group. -/
def groupMeanStd (sqrt : SquareRoot K) (scores : Fin n → K) (gidx : Fin n → ℤ) (eps : K) (u : ℤ) :
    K × K :=
  let count := groupSum gidx fun _ => 1
  let mean v := groupSum gidx scores v / max (count v) 1
  let centered i := scores i - mean (gidx i)
  let varNum := groupSum gidx fun i => centered i * centered i
  let var := varNum u / max (count u - 1) 1
  if count u ≤ 1 then (0, 1) else (mean u, sqrt.toFun (max var eps))

/-- `compute_grpo_vectorized_outcome_advantage`; `none` when a label is no index of an array of
groups. -/
def computeGrpoVectorizedOutcomeAdvantage {F : Type} (py : Python F) (sqrt : SquareRoot K)
    (tokenLevelRewards responseMask : Fin n → Fin L → K) (index : GroupIndex n) (epsilon : K)
    (normAdvByStdInGrpo : Bool) (validSampleMask : Option (Fin n → Bool)) :
    Option (Fin n → Fin L → K) :=
  let scores := sequenceScores tokenLevelRewards
  let g := asTorchIndex py index
  match validSampleMask with
  | some mask =>
      let scores := (npUnique g).foldl
        (normalizeGroupInPlace sqrt epsilon normAdvByStdInGrpo g mask) scores
      some fun i t => scores i * responseMask i t
  | none =>
      if ∃ i, g i < 0 then none
      else
        let scalars i :=
          let (meanG, stdG) := groupMeanStd sqrt scores g 0 (g i)
          if normAdvByStdInGrpo then (scores i - meanG) / (stdG + epsilon) else scores i - meanG
        some fun i t => scalars i * responseMask i t

end SearchR1.CoreAlgos
