import SearchR1.Library.Averages
import SearchR1.Model.AgentLoop

/-! # The metrics that a training step logs about its trajectories -/

namespace SearchR1.TrajectoryMetrics

open PyText TrajectoryFilter

/-- Logged numbers, of which NaN is `none`. -/
abbrev Metrics := Dict Text (Option ℚ)

/-- `sorted` on floats. Where NaN is among them it only keeps the values. -/
structure FloatSort where
  sorted : List (Option ℚ) → List (Option ℚ)
  perm : ∀ xs, (sorted xs).Perm xs
  ordered : ∀ xs : List ℚ, ∃ ys : List ℚ, sorted (xs.map some) = ys.map some ∧ ys.Pairwise (· ≤ ·)

/-! ## Groups of metrics -/

/-- A count per trajectory. -/
def rate (count : ℚ) (nTotal : ℕ) : Option ℚ := some (count / max nTotal 1)

def coreMetrics (nTotal nValid nMasked : ℕ) : Metrics :=
  [(lit "trajectory/valid_rate", rate nValid nTotal),
    (lit "trajectory/masked_rate", rate nMasked nTotal),
    (lit "trajectory/invalid_rate", rate (nTotal - nValid) nTotal),
    (lit "trajectory/total", some nTotal),
    (lit "trajectory/valid", some nValid),
    (lit "trajectory/masked", some nMasked)]

/-- `anomaly_counter.get(value, 0)`. -/
def anomalyCounter (allAnomalies : List (List AnomalyType)) (value : Text) : ℕ :=
  allAnomalies.flatten.countP fun ano => ano.value = value

def anomalyRates (allAnomalies : List (List AnomalyType)) : Metrics :=
  anomalyTypes.map fun anomalyType =>
    (lit "trajectory/" ++ anomalyType.value ++ lit "_rate",
      rate (anomalyCounter allAnomalies anomalyType.value) allAnomalies.length)

/-- The product `n_lat * 0.95` is exact where it is an integer. -/
def p95Index (nLat : ℕ) : ℕ := min (nLat - 1) (nLat * 19 / 20)

def latencyMetrics (sort : FloatSort) (toolLatencies : List (Option ℚ)) : Metrics :=
  if toolLatencies.isEmpty then [] else
    let sortedLatencies := sort.sorted toolLatencies
    let nLat := sortedLatencies.length
    [(lit "tool/search_latency_ms_mean", Averages.mean sortedLatencies),
      (lit "tool/search_latency_ms_p50", sortedLatencies.getD (nLat / 2) none),
      (lit "tool/search_latency_ms_p95", sortedLatencies.getD (p95Index nLat) none),
      (lit "tool/search_latency_ms_max", sortedLatencies.getD (nLat - 1) none),
      (lit "tool/search_calls_total", some nLat)]

def successMetrics (toolSuccessFlags : List Bool) : Metrics :=
  if toolSuccessFlags.isEmpty then [] else
    let nSuccess := toolSuccessFlags.count true
    [(lit "tool/search_success_rate", some (nSuccess / toolSuccessFlags.length)),
      (lit "tool/search_success", some nSuccess),
      (lit "tool/search_failed", some (toolSuccessFlags.length - nSuccess))]

def turnMetrics (numTurnsList : List ℤ) : Metrics :=
  if numTurnsList.isEmpty then [] else
    [(lit "rollout/turns_mean", rate numTurnsList.sum numTurnsList.length),
      (lit "rollout/turns_max", numTurnsList.max?.map fun turns => (turns : ℚ))]

def searchCallMetrics (searchCallsList : List ℤ) : Metrics :=
  if searchCallsList.isEmpty then [] else
    [(lit "rollout/search_calls_mean", rate searchCallsList.sum searchCallsList.length)]

def rewardMetrics (rewards : List ℚ) (allValidFlags : List Bool) : Metrics :=
  let validRewards := ((rewards.zip allValidFlags).filter Prod.snd).map Prod.fst
  if validRewards.isEmpty then [] else
    [(lit "reward/mean", some (validRewards.sum / validRewards.length)),
      (lit "reward/min", validRewards.min?),
      (lit "reward/max", validRewards.max?),
      (lit "reward/valid_count", some validRewards.length)]

/-- The metrics under their keys, in the order of the assignments. A list that is `None` is
skipped as an empty one is. -/
def aggregateTrajectoryMetrics (sort : FloatSort) (allAnomalies : List (List AnomalyType))
    (allValidFlags allMaskedFlags : List Bool) (toolLatencies : List (Option ℚ) := [])
    (toolSuccessFlags : List Bool := []) (numTurnsList searchCallsList : List ℤ := [])
    (rewards : List ℚ := []) : Metrics :=
  if allAnomalies.isEmpty then [] else
    (coreMetrics allAnomalies.length (allValidFlags.count true) (allMaskedFlags.count true)).update
      (anomalyRates allAnomalies ++ latencyMetrics sort toolLatencies ++
        successMetrics toolSuccessFlags ++ turnMetrics numTurnsList ++
        searchCallMetrics searchCallsList ++ rewardMetrics rewards allValidFlags)

end SearchR1.TrajectoryMetrics

namespace SearchR1.RayTrainer

open PyText TrajectoryFilter TrajectoryMetrics

/-- A batch with the columns that are only logged. -/
structure LoggedBatch (U : Type*) (n P L : ℕ) extends Batch U n P L where
  searchLatencyMs : Option (Fin n → Option ℚ)
  hasSuccessfulSearch : Option (Fin n → ℚ)
  numTurns : Option (Fin n → ℤ)
  tokenLevelScores : Option (Fin n → Fin L → ℚ)

variable {U : Type*} {n P L : ℕ}

/-- `mean()` of an array, NaN for an empty one. -/
def arrayMean (values : List (Option ℚ)) : Option ℚ :=
  if values.isEmpty then none else Averages.mean values

/-- The metrics of `build_trajectory_filter_outputs`, which raises for a batch without scores:
its `list(None)`. -/
def buildTrajectoryMetrics (sort : FloatSort) (batch : LoggedBatch U n P L)
    (maxResponseLength : ℤ) : Option Metrics :=
  let outputs := buildTrajectoryFilterOutputs batch.toBatch maxResponseLength
  batch.tokenLevelScores.map fun tokenLevelScores =>
    let trajectoryMetrics := aggregateTrajectoryMetrics sort
      (List.ofFn outputs.allAnomalies)
      (List.ofFn outputs.validSampleMask)
      (List.ofFn fun i => !outputs.validSampleMask i)
      (List.ofFn (numericArray batch.searchLatencyMs))
      (List.ofFn fun i => rewardArray batch.hasSuccessfulSearch i ≠ 0)
      (List.ofFn (batch.numTurns.getD fun _ => 0))
      (List.ofFn fun i => truncate (rewardArray batch.numSearchCalls i))
      (List.ofFn fun i => (List.ofFn (tokenLevelScores i)).sum)
    trajectoryMetrics.set (lit "trajectory/response_truncated_rate")
      (arrayMean (List.ofFn (numericArray batch.searchResponseTruncated)))

end SearchR1.RayTrainer

namespace SearchR1.AgentLoop

open PyText ToolAgentLoop QaEmToolReward RayTrainer

/-- `_postprocess` with the columns that are only logged, and the scores of the trainer. -/
def postprocessLogged {U : Type*} {n : ℕ} (P L : ℕ) (uid : Fin n → U)
    (outputs : Fin n → AgentLoopOutput) (scores : Fin n → Score)
    (tokenLevelScores : Option (Fin n → Fin L → ℚ)) : LoggedBatch U n P L where
  toBatch := postprocess P L uid outputs scores
  searchLatencyMs := column readNumber outputs (lit "tool/search_latency_ms")
  hasSuccessfulSearch := some fun i => (scores i).hasSuccessfulSearch
  numTurns := some fun i => (outputs i).numTurns
  tokenLevelScores := tokenLevelScores

end SearchR1.AgentLoop
