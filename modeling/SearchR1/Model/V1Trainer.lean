import SearchR1.Library.Dict
import SearchR1.Model.RayTrainer

/-! # The advantages of the V1 trainer -/

namespace SearchR1.V1Trainer

open PyText GroupStatistics RayTrainer

/-- A key `uid_session_index` of the batch, as `rsplit` takes it apart. -/
structure BatchKey where
  uid : Text
  sessionId : Text
  index : ℤ

def BatchKey.sessionKey (key : BatchKey) : Text × Text := (key.uid, key.sessionId)

/-! ## Final sessions -/

section FinalSessions

variable {n : ℕ}

/-- One round of the loop over the outputs: the last output of a session replaces earlier ones. -/
def recordOutput (keys : Fin n → BatchKey) (d : Dict (Text × Text) (ℤ × Fin n)) (i : Fin n) :
    Dict (Text × Text) (ℤ × Fin n) :=
  if (d.get? (keys i).sessionKey).all fun e => e.1 < (keys i).index then
    d.set (keys i).sessionKey ((keys i).index, i)
  else d

/-- The last output of each session, its index and its row, by session key. -/
def finalSessions (keys : Fin n → BatchKey) : Dict (Text × Text) (ℤ × Fin n) :=
  (List.finRange n).foldl (recordOutput keys) []

def finalIndices (keys : Fin n → BatchKey) : List (Fin n) :=
  (finalSessions keys).map fun e => e.2.2

/-- The position of a row's session among the final ones. -/
def rowToLocalIndex (keys : Fin n → BatchKey) (i : Fin n) : ℕ :=
  (finalSessions keys).keys.idxOf (keys i).sessionKey

end FinalSessions

/-! ## Advantages -/

section Advantage

variable {K U : Type*} [Field K] [LinearOrder K] [LinearOrder U] {n P L : ℕ}

/-- The part of the step's data that the advantage is computed from. -/
structure StepData (U K : Type*) (n L : ℕ) where
  uid : Fin n → U
  responseMask : Fin n → Fin L → Bool
  tokenLevelRewards : Fin n → Fin L → K
  validSampleMask : Option (Fin n → Bool)

def StepData.selectIdxs (data : StepData U K n L) (idxs : List (Fin n)) :
    StepData U K idxs.length L where
  uid j := data.uid (idxs.get j)
  responseMask j := data.responseMask (idxs.get j)
  tokenLevelRewards j := data.tokenLevelRewards (idxs.get j)
  validSampleMask := data.validSampleMask.map fun mask j => mask (idxs.get j)

/-- `argmax` of a mask row: its first token, the first position when it has none. -/
def argmax [NeZero L] (mask : Fin L → Bool) : Fin L := ((List.finRange L).find? mask).getD 0

/-- `compute_advantage_for_multi_trajectories`. -/
def computeAdvantageForMultiTrajectories [NeZero L] (sqrt : SquareRoot K)
    (normAdvByStdInGrpo : Bool) (data : StepData U K n L) (keys : Fin n → BatchKey) :
    Fin n → Fin L → K :=
  let finalData := data.selectIdxs (finalIndices keys)
  let advantages := computeAdvantage sqrt normAdvByStdInGrpo finalData.uid
    finalData.validSampleMask finalData.responseMask finalData.tokenLevelRewards
  let finalScores := (List.finRange (finalIndices keys).length).map fun j =>
    advantages j (argmax (finalData.responseMask j))
  fun i t => finalScores.getD (rowToLocalIndex keys i) 0 * maskValue (data.responseMask i) t

/-- The advantages of a step of the V1 trainer with `adv_estimator = grpo`. The fields it fetches
do not include a sample mask. -/
def v1Advantages [NeZero L] (cfg : StepConfig K n L) (batch : Batch U n P L)
    (keys : Fin n → BatchKey) (rmScores : Fin n → Fin L → K) : Option (Fin n → Fin L → K) :=
  let tokenLevelRewards := applyKlPenalty cfg.klPenalty batch.responseMask rmScores
  (applyRejection cfg.rejection batch.responseMask).map fun responseMask =>
    computeAdvantageForMultiTrajectories cfg.sqrt cfg.normAdvByStdInGrpo
      { uid := batch.uid, responseMask, tokenLevelRewards, validSampleMask := none } keys

end Advantage

end SearchR1.V1Trainer
