import SearchR1.Model.TrajectoryMetrics
import SearchR1.Verification.Filtering.Classification
import SearchR1.Verification.Rollout.SearchCredit
import Mathlib.Data.Fin.VecNotation

/-! # The logged metrics and the calls they are made of -/

namespace SearchR1.TrajectoryMetrics

open PyText TrajectoryFilter SearchTool Averages

/-! ## Keys -/

def latencyKeys : List Text :=
  [lit "tool/search_latency_ms_mean", lit "tool/search_latency_ms_p50",
    lit "tool/search_latency_ms_p95", lit "tool/search_latency_ms_max",
    lit "tool/search_calls_total"]

def successKeys : List Text :=
  [lit "tool/search_success_rate", lit "tool/search_success", lit "tool/search_failed"]

def turnKeys : List Text := [lit "rollout/turns_mean", lit "rollout/turns_max"]

def searchCallKeys : List Text := [lit "rollout/search_calls_mean"]

def rewardKeys : List Text :=
  [lit "reward/mean", lit "reward/min", lit "reward/max", lit "reward/valid_count"]

/-- The keys of the metrics that every batch has. -/
def trajectoryKeys : List Text :=
  [lit "trajectory/valid_rate", lit "trajectory/masked_rate", lit "trajectory/invalid_rate",
    lit "trajectory/total", lit "trajectory/valid", lit "trajectory/masked"] ++
  anomalyTypes.map fun anomalyType => lit "trajectory/" ++ anomalyType.value ++ lit "_rate"

def metricsKeys : List Text :=
  trajectoryKeys ++ (latencyKeys ++ (successKeys ++ (turnKeys ++ (searchCallKeys ++ rewardKeys))))

def truncatedRateKey : Text := lit "trajectory/response_truncated_rate"

theorem nodup_metricsKeys : metricsKeys.Nodup := by decide

theorem truncatedRateKey_not_mem : truncatedRateKey ∉ metricsKeys := by decide

theorem keys_ite {p : Prop} [Decidable p] {metrics : Metrics} {keys : List Text}
    (h : metrics.keys = keys) : (Dict.keys (if p then [] else metrics)).Sublist keys := by
  split
  · exact List.nil_sublist _
  · exact h ▸ List.Sublist.refl _

section Aggregate

variable {sort : FloatSort} {allAnomalies : List (List AnomalyType)}
  {allValidFlags allMaskedFlags : List Bool} {toolLatencies : List (Option ℚ)}
  {toolSuccessFlags : List Bool} {numTurnsList searchCallsList : List ℤ} {rewards : List ℚ}

theorem keys_latencyMetrics : (latencyMetrics sort toolLatencies).keys.Sublist latencyKeys :=
  keys_ite rfl

theorem keys_successMetrics : (successMetrics toolSuccessFlags).keys.Sublist successKeys :=
  keys_ite rfl

theorem keys_turnMetrics : (turnMetrics numTurnsList).keys.Sublist turnKeys := keys_ite rfl

theorem keys_searchCallMetrics :
    (searchCallMetrics searchCallsList).keys.Sublist searchCallKeys := keys_ite rfl

theorem keys_rewardMetrics : (rewardMetrics rewards allValidFlags).keys.Sublist rewardKeys :=
  keys_ite rfl

/-- The metrics that `aggregate_trajectory_metrics` assigns, one after the other. -/
def assignments (sort : FloatSort) (allAnomalies : List (List AnomalyType))
    (allValidFlags allMaskedFlags : List Bool) (toolLatencies : List (Option ℚ))
    (toolSuccessFlags : List Bool) (numTurnsList searchCallsList : List ℤ) (rewards : List ℚ) :
    Metrics :=
  (coreMetrics allAnomalies.length (allValidFlags.count true) (allMaskedFlags.count true) ++
    anomalyRates allAnomalies) ++ (latencyMetrics sort toolLatencies ++
    (successMetrics toolSuccessFlags ++ (turnMetrics numTurnsList ++
    (searchCallMetrics searchCallsList ++ rewardMetrics rewards allValidFlags))))

theorem keys_assignments :
    (assignments sort allAnomalies allValidFlags allMaskedFlags toolLatencies toolSuccessFlags
      numTurnsList searchCallsList rewards).keys.Sublist metricsKeys := by
  simp only [assignments, Dict.keys, List.map_append]
  refine List.Sublist.append (List.Sublist.refl _) ?_
  exact keys_latencyMetrics.append (keys_successMetrics.append (keys_turnMetrics.append
    (keys_searchCallMetrics.append keys_rewardMetrics)))

/-- The keys are distinct, so that no assignment replaces another. -/
theorem aggregateTrajectoryMetrics_eq (hne : allAnomalies ≠ []) :
    aggregateTrajectoryMetrics sort allAnomalies allValidFlags allMaskedFlags toolLatencies
        toolSuccessFlags numTurnsList searchCallsList rewards =
      assignments sort allAnomalies allValidFlags allMaskedFlags toolLatencies toolSuccessFlags
        numTurnsList searchCallsList rewards := by
  have hnodup : (assignments sort allAnomalies allValidFlags allMaskedFlags toolLatencies
      toolSuccessFlags numTurnsList searchCallsList rewards).keys.Nodup :=
    keys_assignments.nodup nodup_metricsKeys
  rw [assignments] at hnodup ⊢
  rw [aggregateTrajectoryMetrics, if_neg (by simpa using hne), Dict.update_eq_append]
  · simp only [List.append_assoc]
  · simpa only [List.append_assoc] using hnodup

/-! ## Rates -/

def isRate (key : Text) : Bool := (lit "_rate").isSuffixOf key

/-- Every rate among the metrics is a number, and a share of a whole. -/
def RatesAreShares (metrics : Metrics) : Prop :=
  ∀ e ∈ metrics, isRate e.1 = true → ∃ q, e.2 = some q ∧ IsShare q

theorem RatesAreShares.append {metrics others : Metrics} (h : RatesAreShares metrics)
    (hothers : RatesAreShares others) : RatesAreShares (metrics ++ others) := by
  intro e he
  rcases List.mem_append.mp he with he | he
  · exact h e he
  · exact hothers e he

theorem ratesAreShares_of_keys {metrics : Metrics} {keys : List Text}
    (h : metrics.keys.Sublist keys) (hkeys : ∀ key ∈ keys, isRate key = false) :
    RatesAreShares metrics := by
  intro e he hrate
  have hkey := hkeys e.1 (h.subset (List.mem_map_of_mem he))
  rw [hkey] at hrate
  cases hrate

theorem isShare_rate {count nTotal : ℕ} (h : count ≤ nTotal) :
    ∃ q, rate count nTotal = some q ∧ IsShare q :=
  ⟨_, rfl, isShare_div (h.trans (le_max_left _ _))⟩

theorem ratesAreShares_coreMetrics {nTotal nValid nMasked : ℕ} (hvalid : nValid ≤ nTotal)
    (hmasked : nMasked ≤ nTotal) : RatesAreShares (coreMetrics nTotal nValid nMasked) := by
  have hinvalid := isShare_rate (Nat.sub_le nTotal nValid)
  rw [Nat.cast_sub hvalid] at hinvalid
  have htotal : isRate (lit "trajectory/total") = false ∧ isRate (lit "trajectory/valid") = false ∧
      isRate (lit "trajectory/masked") = false := by decide
  intro e he hrate
  simp only [coreMetrics, List.mem_cons, List.not_mem_nil, or_false] at he
  rcases he with rfl | rfl | rfl | rfl | rfl | rfl
  · exact isShare_rate hvalid
  · exact isShare_rate hmasked
  · exact hinvalid
  · exact absurd hrate (by simp [htotal])
  · exact absurd hrate (by simp [htotal])
  · exact absurd hrate (by simp [htotal])

/-- A trajectory counts at most once for an anomaly. -/
theorem anomalyCounter_le (h : ∀ anomalies ∈ allAnomalies, anomalies.Nodup)
    (anomalyType : AnomalyType) :
    anomalyCounter allAnomalies anomalyType.value ≤ allAnomalies.length := by
  apply countP_flatten_le_length
  intro anomalies hmem
  have hcount : anomalies.countP (fun ano => ano.value = anomalyType.value) =
      anomalies.count anomalyType := by
    apply List.countP_congr
    intro ano _
    simp [value_injective.eq_iff]
  rw [hcount]
  exact List.nodup_iff_count_le_one.mp (h anomalies hmem) anomalyType

theorem ratesAreShares_anomalyRates (h : ∀ anomalies ∈ allAnomalies, anomalies.Nodup) :
    RatesAreShares (anomalyRates allAnomalies) := by
  intro e he _
  obtain ⟨anomalyType, -, rfl⟩ := List.mem_map.mp he
  exact isShare_rate (anomalyCounter_le h anomalyType)

theorem ratesAreShares_successMetrics : RatesAreShares (successMetrics toolSuccessFlags) := by
  have hcounts : isRate (lit "tool/search_success") = false ∧
      isRate (lit "tool/search_failed") = false := by decide
  intro e he hrate
  rw [successMetrics] at he
  split at he
  · cases he
  · simp only [List.mem_cons, List.not_mem_nil, or_false] at he
    rcases he with rfl | rfl | rfl
    · exact ⟨_, rfl, isShare_div List.count_le_length⟩
    · exact absurd hrate (by simp [hcounts])
    · exact absurd hrate (by simp [hcounts])

/-- What the flags say of the trajectories is always within bounds. -/
theorem ratesAreShares_assignments (h : ∀ anomalies ∈ allAnomalies, anomalies.Nodup)
    (hvalid : allValidFlags.length = allAnomalies.length)
    (hmasked : allMaskedFlags.length = allAnomalies.length) :
    RatesAreShares (assignments sort allAnomalies allValidFlags allMaskedFlags toolLatencies
      toolSuccessFlags numTurnsList searchCallsList rewards) := by
  have hlatency : ∀ key ∈ latencyKeys, isRate key = false := by decide
  have hturn : ∀ key ∈ turnKeys, isRate key = false := by decide
  have hcall : ∀ key ∈ searchCallKeys, isRate key = false := by decide
  have hreward : ∀ key ∈ rewardKeys, isRate key = false := by decide
  have hcore := ratesAreShares_coreMetrics (hvalid ▸ List.count_le_length (a := true))
    (hmasked ▸ List.count_le_length (a := true))
  refine (hcore.append (ratesAreShares_anomalyRates h)).append ?_
  refine (ratesAreShares_of_keys keys_latencyMetrics hlatency).append ?_
  refine ratesAreShares_successMetrics.append ?_
  refine (ratesAreShares_of_keys keys_turnMetrics hturn).append ?_
  exact (ratesAreShares_of_keys keys_searchCallMetrics hcall).append
    (ratesAreShares_of_keys keys_rewardMetrics hreward)

/-! ## Calls and latencies -/

theorem latencyMean_mem (sort : FloatSort) (h : toolLatencies ≠ []) :
    (lit "tool/search_latency_ms_mean", mean toolLatencies) ∈
      latencyMetrics sort toolLatencies := by
  rw [← mean_perm (sort.perm toolLatencies), latencyMetrics, if_neg (by simpa using h)]
  exact List.mem_cons_self

theorem callsTotal_mem (sort : FloatSort) (h : toolLatencies ≠ []) :
    (lit "tool/search_calls_total", some (toolLatencies.length : ℚ)) ∈
      latencyMetrics sort toolLatencies := by
  rw [latencyMetrics, if_neg (by simpa using h)]
  simp [(sort.perm toolLatencies).length_eq]

theorem p95Index_mem {n : ℕ} (h : 0 < n) : n / 2 ≤ p95Index n ∧ p95Index n ≤ n - 1 := by
  rw [p95Index]
  omega

theorem latencyMetrics_map_some (sort : FloatSort) {latencies ys : List ℚ} (h : latencies ≠ [])
    (hsorted : sort.sorted (latencies.map some) = ys.map some) :
    latencyMetrics sort (latencies.map some) =
      [(lit "tool/search_latency_ms_mean", mean (ys.map some)),
        (lit "tool/search_latency_ms_p50", (ys.map some).getD (ys.length / 2) none),
        (lit "tool/search_latency_ms_p95", (ys.map some).getD (p95Index ys.length) none),
        (lit "tool/search_latency_ms_max", (ys.map some).getD (ys.length - 1) none),
        (lit "tool/search_calls_total", some (ys.length : ℚ))] := by
  rw [latencyMetrics, if_neg (by simpa using h), hsorted]
  simp only [List.length_map]

theorem successRate_mem (h : toolSuccessFlags ≠ []) :
    (lit "tool/search_success_rate",
      some ((toolSuccessFlags.count true : ℚ) / toolSuccessFlags.length)) ∈
      successMetrics toolSuccessFlags := by
  rw [successMetrics, if_neg (by simpa using h)]
  exact List.mem_cons_self

end Aggregate

/-! ## The rate of truncated responses -/

/-- The last assignment leaves the other metrics alone. -/
theorem get?_set_truncatedRateKey {metrics : Metrics} (hkeys : metrics.keys.Sublist metricsKeys)
    (truncated : Option ℚ) {key : Text} {value : Option ℚ} (hmem : (key, value) ∈ metrics) :
    Dict.get? (metrics.set truncatedRateKey truncated) key = some value := by
  have hkey : key ≠ truncatedRateKey := by
    rintro rfl
    exact truncatedRateKey_not_mem (hkeys.subset (List.mem_map_of_mem (f := Prod.fst) hmem))
  rw [Dict.get?_set_of_ne _ _ hkey, Dict.get?_of_mem (hkeys.nodup nodup_metricsKeys) hmem]

/-- With it the rates depend on the truncated responses alone. -/
theorem rates_set_truncatedRateKey_iff {metrics : Metrics} (h : RatesAreShares metrics)
    (truncated : Option ℚ) :
    (∀ key value, Dict.get? (metrics.set truncatedRateKey truncated) key = some value →
      isRate key = true → ∃ q, value = some q ∧ IsShare q) ↔
    ∃ q, truncated = some q ∧ IsShare q := by
  constructor
  · intro hrates
    exact hrates truncatedRateKey truncated (Dict.get?_set_self _ _ _) (by decide)
  · intro htruncated key value hvalue hrate
    rcases Dict.mem_set (Dict.mem_of_get? hvalue) with heq | hmem
    · obtain ⟨-, rfl⟩ := Prod.mk.inj heq
      exact htruncated
    · exact h (key, value) hmem hrate

/-! ## Totals -/

/-- The logged metrics are the true totals of the calls. -/
structure LoggedTotals (metrics : Metrics) (calls : List SearchMetrics) : Prop where
  callsTotal : metrics.get? (lit "tool/search_calls_total") = some (some (calls.length : ℚ))
  successRate : metrics.get? (lit "tool/search_success_rate") =
    some (some (((calls.countP fun m => m.success = 1) : ℚ) / calls.length))
  latencyMean : calls ≠ [] → metrics.get? (lit "tool/search_latency_ms_mean") =
    some (some ((calls.map SearchMetrics.latencyMs).sum / calls.length))
  rates : ∀ key value, metrics.get? key = some value → isRate key = true →
    ∃ q, value = some q ∧ IsShare q

end SearchR1.TrajectoryMetrics

namespace SearchR1.RayTrainer

open PyText TrajectoryFilter TrajectoryMetrics Averages

variable {U : Type*} {n P L : ℕ}

/-- What a batch of at least one trajectory logs. -/
theorem exists_buildTrajectoryMetrics (sort : FloatSort) (batch : LoggedBatch U (n + 1) P L)
    (maxResponseLength : ℤ) {tokenLevelScores : Fin (n + 1) → Fin L → ℚ}
    (hscores : batch.tokenLevelScores = some tokenLevelScores) :
    ∃ metrics, buildTrajectoryMetrics sort batch maxResponseLength = some metrics ∧
      metrics.get? (lit "tool/search_calls_total") = some (some ((n + 1 : ℕ) : ℚ)) ∧
      metrics.get? (lit "tool/search_latency_ms_mean") =
        some (mean (List.ofFn (numericArray batch.searchLatencyMs))) ∧
      metrics.get? (lit "tool/search_success_rate") =
        some (some (((List.ofFn fun i => decide (rewardArray batch.hasSuccessfulSearch i ≠ 0)).count
          true : ℚ) / (n + 1 : ℕ))) ∧
      ((∀ key value, metrics.get? key = some value → isRate key = true →
          ∃ q, value = some q ∧ IsShare q) ↔
        ∃ q, mean (List.ofFn (numericArray batch.searchResponseTruncated)) = some q ∧
          IsShare q) := by
  let outputs := buildTrajectoryFilterOutputs batch.toBatch maxResponseLength
  have hne : ∀ {α : Type} (f : Fin (n + 1) → α), List.ofFn f ≠ [] := by
    intro α f
    rw [List.ofFn_succ]
    exact List.cons_ne_nil _ _
  let items := assignments sort (List.ofFn outputs.allAnomalies)
    (List.ofFn outputs.validSampleMask) (List.ofFn fun i => !outputs.validSampleMask i)
    (List.ofFn (numericArray batch.searchLatencyMs))
    (List.ofFn fun i => decide (rewardArray batch.hasSuccessfulSearch i ≠ 0))
    (List.ofFn (batch.numTurns.getD fun _ => 0))
    (List.ofFn fun i => truncate (rewardArray batch.numSearchCalls i))
    (List.ofFn fun i => (List.ofFn (tokenLevelScores i)).sum)
  let truncated := mean (List.ofFn (numericArray batch.searchResponseTruncated))
  have hmetrics : buildTrajectoryMetrics sort batch maxResponseLength =
      some (items.set truncatedRateKey truncated) := by
    rw [buildTrajectoryMetrics, hscores, Option.map_some,
      aggregateTrajectoryMetrics_eq (hne _), arrayMean, if_neg (by simp)]
    rfl
  have hget : ∀ {key : Text} {value : Option ℚ}, (key, value) ∈ items →
      Dict.get? (items.set truncatedRateKey truncated) key = some value :=
    get?_set_truncatedRateKey keys_assignments truncated
  refine ⟨_, hmetrics, ?_, ?_, ?_, ?_⟩
  · have hmem := callsTotal_mem sort (hne (numericArray batch.searchLatencyMs))
    rw [List.length_ofFn] at hmem
    exact hget (List.mem_append_right _ (List.mem_append_left _ hmem))
  · exact hget (List.mem_append_right _ (List.mem_append_left _ (latencyMean_mem sort (hne _))))
  · have hmem := successRate_mem
      (hne fun i => decide (rewardArray batch.hasSuccessfulSearch i ≠ 0))
    rw [List.length_ofFn] at hmem
    exact hget (List.mem_append_right _ (List.mem_append_right _
      (List.mem_append_left _ hmem)))
  · have hanomalies : ∀ anomalies ∈ List.ofFn outputs.allAnomalies, anomalies.Nodup := by
      intro anomalies hanomalies
      obtain ⟨i, rfl⟩ := List.mem_ofFn.mp hanomalies
      exact nodup_classifyTrajectory _ _
    apply rates_set_truncatedRateKey_iff
    apply ratesAreShares_assignments hanomalies
    · rw [List.length_ofFn, List.length_ofFn]
    · rw [List.length_ofFn, List.length_ofFn]

end SearchR1.RayTrainer

namespace SearchR1.AgentLoop

open PyText ToolAgentLoop SearchTool QaEmToolReward RayTrainer TrajectoryMetrics Averages

variable {F : Type} {w : Worker F} {n : ℕ}

/-! ## Columns of a batch -/

/-- A column of counters has gaps once a trajectory searched and another one did not. -/
theorem numericArray_column {outputs : Fin n → AgentLoopOutput}
    {calls : Fin n → List SearchMetrics}
    (h : ∀ i, Accumulated (outputs i).extraFields (calls i)) {key : Text}
    (hkey : key ∈ metricKeys) (i : Fin n) :
    numericArray (column readNumber outputs key) i =
      if ∃ j, calls j ≠ [] then (if calls i = [] then none else some (total (calls i) key))
      else some 0 := by
  have hsome : (∃ j, ((outputs j).extraFields.get? key).isSome) ↔ ∃ j, calls j ≠ [] := by
    apply exists_congr
    intro j
    rw [(h j).number key hkey]
    by_cases hj : calls j = [] <;> simp [hj]
  rw [numericArray, column]
  by_cases hany : ∃ j, calls j ≠ []
  · rw [if_pos (hsome.mpr hany), if_pos hany, Option.getD_some, (h i).number key hkey]
    by_cases hi : calls i = []
    · simp [hi]
    · simp [hi, readNumber]
  · rw [if_neg (mt hsome.mp hany), if_neg hany, Option.getD_none]

theorem total_singleton {key : Text} {m : SearchMetrics} {q : ℚ}
    (h : (key, q) ∈ metricNumbers m) : total [m] key = q := by
  rw [total, List.map_singleton, List.sum_singleton, lookup_metricNumbers m h, Option.getD_some]

/-! ## Trajectories of a batch -/

/-- A finished run with its score. Its calls are the metrics that its search calls returned. -/
structure Rollout (w : Worker F) where
  sample : Sample
  exit : Exit
  data : AgentData
  calls : List SearchMetrics
  score : Score
  reaches : Reaches w (.terminated exit) data calls
  scored : runSingle w sample (finalizeOutput w data) = some score

namespace Rollout

variable (rollout : Rollout w)

def output : AgentLoopOutput := finalizeOutput w rollout.data

theorem accumulated : Accumulated rollout.output.extraFields rollout.calls := by
  apply (accumulated_of_reaches rollout.reaches).congr
  intro key hkey
  have hother : isToolKey (lit "turn_scores") = false ∧ isToolKey (lit "tool_rewards") = false := by
    decide
  change ((rollout.data.extraFields.set (lit "turn_scores") (.nums [])).set (lit "tool_rewards")
    (.nums rollout.data.toolRewards)).get? key = _
  rw [get?_set_of_toolKey _ _ hkey hother.2, get?_set_of_toolKey _ _ hkey hother.1]

theorem responseTruncated_le_one : ∀ m ∈ rollout.calls, m.responseTruncated ≤ 1 := by
  intro m hm
  obtain ⟨parameters, service, response, hexecute⟩ := returned_of_reaches rollout.reaches m hm
  exact SearchTool.responseTruncated_le_one hexecute

/-- After a call the score knows whether one of them succeeded. -/
theorem hasSuccessfulSearch_iff (hne : rollout.calls ≠ []) :
    rollout.score.hasSuccessfulSearch ≠ 0 ↔ ∃ m ∈ rollout.calls, m.success = 1 := by
  obtain ⟨toolState, hstate, hsuccess⟩ := extractToolState_of_reaches rollout.reaches
    rollout.sample (decodeResponse w (finalizeOutput w rollout.data))
  obtain ⟨score, hscore, hcredit, -⟩ := computeScore_of_toolState rollout.sample.dataSource _
    rollout.sample.groundTruth hstate
  have heq : rollout.score = score := by
    have hscored := rollout.scored
    rw [runSingle, hscore] at hscored
    exact (Option.some.inj hscored).symm
  rw [if_neg hne] at hsuccess
  rw [heq, hcredit, ← hsuccess]
  cases toolState.hasSuccessfulSearch <;> simp [toFloat]

end Rollout

/-- The metrics that a step logs for the trajectories are their true totals. -/
def LogsTotals {U : Type*} (sort : FloatSort) (P L : ℕ) (uid : Fin n → U)
    (rollouts : Fin n → Rollout w) (tokenLevelScores : Fin n → Fin L → ℚ)
    (maxResponseLength : ℤ) : Prop :=
  ∃ metrics, buildTrajectoryMetrics sort
      (postprocessLogged P L uid (fun i => (rollouts i).output) (fun i => (rollouts i).score)
        (some tokenLevelScores)) maxResponseLength = some metrics ∧
    LoggedTotals metrics (List.ofFn fun i => (rollouts i).calls).flatten

theorem length_flatten_calls (rollouts : Fin n → Rollout w) :
    (List.ofFn fun i => (rollouts i).calls).flatten.length =
      ((List.finRange n).map fun i => (rollouts i).calls.length).sum := by
  rw [List.length_flatten, List.ofFn_eq_map, List.map_map]
  rfl

/-- The totals need every latency, so that every trajectory has searched. -/
theorem length_calls_of_logsTotals {U : Type*} {sort : FloatSort} {P L : ℕ}
    {uid : Fin (n + 1) → U} {rollouts : Fin (n + 1) → Rollout w}
    {tokenLevelScores : Fin (n + 1) → Fin L → ℚ} {maxResponseLength : ℤ}
    (h : LogsTotals sort P L uid rollouts tokenLevelScores maxResponseLength) (i : Fin (n + 1)) :
    (rollouts i).calls.length = 1 := by
  obtain ⟨metrics, hmetrics, htotals⟩ := h
  obtain ⟨metrics', hmetrics', hcalls, hlatency, -, -⟩ := exists_buildTrajectoryMetrics sort
    (postprocessLogged P L uid (fun i => (rollouts i).output) (fun i => (rollouts i).score)
      (some tokenLevelScores)) maxResponseLength rfl
  rw [hmetrics] at hmetrics'
  obtain rfl := Option.some.inj hmetrics'
  have hlength : (List.ofFn fun i => (rollouts i).calls).flatten.length = n + 1 := by
    have heq := hcalls.symm.trans htotals.callsTotal
    simp only [Option.some_inj, Nat.cast_inj] at heq
    exact heq.symm
  have hne : (List.ofFn fun i => (rollouts i).calls).flatten ≠ [] := by
    intro hnil
    rw [hnil] at hlength
    cases hlength
  have hmean := not_mem_of_mean (Option.some.inj (hlatency.symm.trans (htotals.latencyMean hne)))
  have hany : ∃ j, (rollouts j).calls ≠ [] := by
    obtain ⟨m, hm⟩ := List.exists_mem_of_ne_nil _ hne
    obtain ⟨calls, hcalls, hm⟩ := List.mem_flatten.mp hm
    obtain ⟨j, rfl⟩ := List.mem_ofFn.mp hcalls
    exact ⟨j, List.ne_nil_of_mem hm⟩
  have hsearched : ∀ j, 1 ≤ (rollouts j).calls.length := by
    intro j
    rw [Nat.one_le_iff_ne_zero, ne_eq, List.length_eq_zero_iff]
    intro hnil
    have hcolumn := numericArray_column (fun i => (rollouts i).accumulated)
      (show lit "tool/search_latency_ms" ∈ metricKeys by decide) j
    rw [if_pos hany, if_pos hnil] at hcolumn
    exact hmean (List.mem_ofFn.mpr ⟨j, hcolumn⟩)
  have hones : ∀ j ∈ List.finRange (n + 1), (rollouts j).calls.length = 1 := by
    apply (sum_map_eq_length_iff fun j _ => hsearched j).mp
    rw [← length_flatten_calls, hlength, List.length_finRange]
  exact hones i (List.mem_finRange i)

section OneCall

variable {rollouts : Fin n → Rollout w} {call : Fin n → SearchMetrics}

/-- With one call each the column of a metric has the values of the calls. -/
theorem ofFn_numericArray_column (hcall : ∀ i, (rollouts i).calls = [call i]) {key : Text}
    {value : SearchMetrics → ℚ} (hkey : ∀ m, (key, value m) ∈ metricNumbers m) :
    List.ofFn (numericArray (column readNumber (fun i => (rollouts i).output) key)) =
      ((List.ofFn call).map value).map some := by
  have hne : ∀ i, (rollouts i).calls ≠ [] := by
    intro i
    rw [hcall i]
    exact List.cons_ne_nil _ _
  rw [List.map_map, List.map_ofFn]
  congr 1
  funext i
  have hmem : key ∈ metricKeys := List.mem_map_of_mem (f := Prod.fst) (hkey (call i))
  rw [numericArray_column (fun i => (rollouts i).accumulated) hmem, if_pos ⟨i, hne i⟩,
    if_neg (hne i), hcall i, total_singleton (hkey (call i))]
  rfl

/-- And the flags of the trajectories are those of the calls. -/
theorem count_hasSuccessfulSearch (hcall : ∀ i, (rollouts i).calls = [call i]) :
    (List.ofFn fun i => decide (rewardArray
      (some fun i => (rollouts i).score.hasSuccessfulSearch) i ≠ 0)).count true =
      (List.ofFn call).countP fun m => m.success = 1 := by
  rw [List.ofFn_eq_map, List.ofFn_eq_map, List.count, List.countP_map, List.countP_map]
  apply List.countP_congr
  intro i _
  have hscore := (rollouts i).hasSuccessfulSearch_iff (hcall i ▸ List.cons_ne_nil _ _)
  simp only [hcall i, List.mem_singleton, exists_eq_left] at hscore
  change (decide _ == true) = true ↔ decide _ = true
  rw [beq_true, decide_eq_true_iff, decide_eq_true_iff]
  exact hscore

end OneCall

/-- With one call each the trajectories are the calls. -/
theorem logsTotals_of_length_calls {U : Type*} (sort : FloatSort) {P L : ℕ}
    (uid : Fin (n + 1) → U) {rollouts : Fin (n + 1) → Rollout w}
    (tokenLevelScores : Fin (n + 1) → Fin L → ℚ) (maxResponseLength : ℤ)
    (h : ∀ i, (rollouts i).calls.length = 1) :
    LogsTotals sort P L uid rollouts tokenLevelScores maxResponseLength := by
  choose call hcall using fun i => List.length_eq_one_iff.mp (h i)
  have hcalls : (List.ofFn fun i => (rollouts i).calls).flatten = List.ofFn call := by
    simp only [hcall, List.ofFn_eq_map, ← List.flatMap_def]
    rw [List.map_eq_flatMap]
  obtain ⟨metrics, hmetrics, htotal, hlatency, hsuccess, hrates⟩ := exists_buildTrajectoryMetrics
    sort (postprocessLogged P L uid (fun i => (rollouts i).output) (fun i => (rollouts i).score)
      (some tokenLevelScores)) maxResponseLength rfl
  refine ⟨metrics, hmetrics, ?_⟩
  rw [hcalls]
  refine ⟨?_, ?_, ?_, ?_⟩
  · rw [htotal, List.length_ofFn]
  · rw [hsuccess, List.length_ofFn, ← count_hasSuccessfulSearch hcall]
    rfl
  · intro _
    have hcolumn : List.ofFn (numericArray (column readNumber (fun i => (rollouts i).output)
        (lit "tool/search_latency_ms"))) =
        ((List.ofFn call).map SearchMetrics.latencyMs).map some :=
      ofFn_numericArray_column hcall (by simp [metricNumbers])
    have hmean := congrArg (fun values => some (mean values)) hcolumn
    rw [mean_map_some, List.length_map] at hmean
    exact hlatency.trans hmean
  · apply hrates.mpr
    have hcolumn : List.ofFn (numericArray (column readNumber (fun i => (rollouts i).output)
        (lit "tool/search_response_truncated"))) =
        ((List.ofFn call).map fun m => (m.responseTruncated : ℚ)).map some :=
      ofFn_numericArray_column hcall (by simp [metricNumbers])
    refine ⟨_, (congrArg mean hcolumn).trans (mean_map_some _), isShare_mean ?_⟩
    intro q hq
    obtain ⟨m, hm, rfl⟩ := List.mem_map.mp hq
    obtain ⟨i, rfl⟩ := List.mem_ofFn.mp hm
    have hle := (rollouts i).responseTruncated_le_one (call i) (by simp [hcall i])
    exact ⟨Nat.cast_nonneg _, Nat.cast_le_one.mpr hle⟩

theorem not_logsTotals_nil {U : Type*} (sort : FloatSort) {P L : ℕ} (uid : Fin 0 → U)
    (rollouts : Fin 0 → Rollout w) (tokenLevelScores : Fin 0 → Fin L → ℚ)
    (maxResponseLength : ℤ) :
    ¬ LogsTotals sort P L uid rollouts tokenLevelScores maxResponseLength := by
  rintro ⟨metrics, hmetrics, htotals⟩
  obtain rfl := Option.some.inj hmetrics
  cases htotals.callsTotal

/-- What a step logs are the true totals exactly when it has trajectories, and each of them has
made one search call. -/
theorem logsTotals_iff {U : Type*} (sort : FloatSort) (P L : ℕ) (uid : Fin n → U)
    (rollouts : Fin n → Rollout w) (tokenLevelScores : Fin n → Fin L → ℚ)
    (maxResponseLength : ℤ) :
    LogsTotals sort P L uid rollouts tokenLevelScores maxResponseLength ↔
      0 < n ∧ ∀ i, (rollouts i).calls.length = 1 := by
  cases n with
  | zero =>
      exact iff_of_false (not_logsTotals_nil sort uid rollouts tokenLevelScores maxResponseLength)
        fun h => absurd h.1 (lt_irrefl 0)
  | succ n =>
      constructor
      · exact fun h => ⟨n.succ_pos, length_calls_of_logsTotals h⟩
      · exact fun h => logsTotals_of_length_calls sort uid tokenLevelScores maxResponseLength h.2

/-! ## A trajectory that searches beside one that does not -/

/-- The order of floats with NaN at the end. -/
def floatLe : Option ℚ → Option ℚ → Bool
  | _, none => true
  | none, some _ => false
  | some p, some q => p ≤ q

theorem floatLe_trans (a b c : Option ℚ) (hab : floatLe a b = true) (hbc : floatLe b c = true) :
    floatLe a c = true := by
  cases a <;> cases b <;> cases c <;> simp_all [floatLe]
  exact hab.trans hbc

theorem floatLe_total (a b : Option ℚ) : (floatLe a b || floatLe b a) = true := by
  cases a <;> cases b <;> simp [floatLe, le_total]

/-- A merge sort is a sort of floats. -/
def floatSort : FloatSort where
  sorted xs := xs.mergeSort floatLe
  perm xs := List.mergeSort_perm xs floatLe
  ordered := by
    intro xs
    have hperm := List.mergeSort_perm (xs.map some) floatLe
    have hsorted := List.pairwise_mergeSort floatLe_trans floatLe_total (xs.map some)
    have hnone : none ∉ (xs.map some).mergeSort floatLe := by
      rw [hperm.mem_iff]
      simp
    obtain ⟨ys, hys⟩ := exists_map_some hnone
    refine ⟨ys, hys, ?_⟩
    rw [hys, List.pairwise_map] at hsorted
    exact hsorted.imp fun h => by simpa [floatLe] using h

theorem isSome_runSingle_overflowData : (runSingle (asciiWorker { responseLength := 100 })
    demoSample (finalizeOutput (asciiWorker { responseLength := 100 }) overflowData)).isSome := by
  decide

theorem isSome_runSingle_pretendedData : (runSingle (asciiWorker { responseLength := 100 })
    demoSample (finalizeOutput (asciiWorker { responseLength := 100 }) pretendedData)).isSome := by
  decide

def searchedRollout : Rollout (asciiWorker { responseLength := 100 }) where
  sample := demoSample
  exit := .toolResponseLength
  data := overflowData
  calls := [oneDocMetrics]
  score := (runSingle _ _ _).get isSome_runSingle_overflowData
  reaches := ((reaches_promptData _).step step_searchCallData).step step_overflowData
  scored := (Option.some_get _).symm

def unsearchedRollout : Rollout (asciiWorker { responseLength := 100 }) where
  sample := demoSample
  exit := .noToolCalls
  data := pretendedData
  calls := []
  score := (runSingle _ _ _).get isSome_runSingle_pretendedData
  reaches := reaches_pretendedData
  scored := (Option.some_get _).symm

/-- One call is logged as two, with a latency that is NaN. -/
theorem not_logsTotals_unsearched : ¬ LogsTotals floatSort 1 100 (fun _ => 0)
    ![searchedRollout, unsearchedRollout] (fun _ _ => 0) 100 := by
  intro h
  cases length_calls_of_logsTotals h 1

end SearchR1.AgentLoop
