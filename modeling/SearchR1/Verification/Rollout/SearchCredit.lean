import SearchR1.Verification.Rollout.Anomalies
import SearchR1.Verification.Rollout.Budget

/-! # Credit for successful searches -/

namespace SearchR1.AgentLoop

open PyText ToolAgentLoop SearchTool QaEmToolReward

variable {F : Type} {py : Python F} {w : Worker F}

/-! ## The extra info of the reward -/

theorem get?_set_of_toolKey (fields : Fields) {key other : Text} (v : Field)
    (hkey : isToolKey key = true) (hother : isToolKey other = false) :
    (fields.set other v).get? key = fields.get? key := by
  apply Dict.get?_set_of_ne
  rintro rfl
  rw [hkey] at hother
  cases hother

/-- Under the keys of the tools the reward sees what the rollout accumulated. -/
theorem get?_mergeExtraInfo (sample : Sample) {d : AgentData}
    (hnodup : d.extraFields.keys.Nodup) {key : Text} (hkey : isToolKey key = true) :
    (mergeExtraInfo sample (finalizeOutput w d)).get? key = d.extraFields.get? key := by
  have hsample := sample.extraInfo.get?_of_toolKey hkey
  have hother : ∀ other ∈ [lit "turn_scores", lit "tool_rewards", lit "raw_prompt",
      lit "num_turns", lit "rollout_reward_scores"], isToolKey other = false := by
    decide
  have houtput : (finalizeOutput w d).extraFields =
      (d.extraFields.set (lit "turn_scores") (.nums [])).set (lit "tool_rewards")
        (.nums d.toolRewards) := rfl
  unfold mergeExtraInfo
  rw [get?_set_of_toolKey _ _ hkey (hother _ (by simp)),
    get?_set_of_toolKey _ _ hkey (hother _ (by simp)), Dict.get?_update, hsample, Option.or_none,
    get?_set_of_toolKey _ _ hkey (hother _ (by simp)), houtput,
    get?_set_of_toolKey _ _ hkey (hother _ (by simp)),
    get?_set_of_toolKey _ _ hkey (hother _ (by simp))]
  rw [houtput]
  exact Dict.nodup_keys_set _ _ _ (Dict.nodup_keys_set _ _ _ (Dict.nodup_keys_set _ _ _ hnodup))

/-! ## The tool state -/

theorem readCount_num {extraInfo : Fields} {key : Text} {n : ℕ}
    (h : extraInfo.get? key = some (.num n)) : readCount py extraInfo key = some (n : ℤ) := by
  rw [readCount, h, Option.getD_some]
  simp [Field.toInt]

/-- With metrics the state is read from the counters alone. -/
theorem extractToolState_of_metrics (solutionStr : Text) {extraInfo : Fields}
    {called success failed timeout numDocs : ℕ}
    (hcalled : extraInfo.get? (lit "tool/search_called") = some (.num called))
    (hsuccess : extraInfo.get? (lit "tool/search_success") = some (.num success))
    (hfailed : extraInfo.get? (lit "tool/search_failed") = some (.num failed))
    (htimeout : extraInfo.get? (lit "tool/search_timeout") = some (.num timeout))
    (hnumDocs : extraInfo.get? (lit "tool/search_num_docs") = some (.num numDocs)) :
    ∃ toolState, extractToolState py solutionStr (some extraInfo) = some toolState ∧
      (toolState.hasSuccessfulSearch = true ↔ 0 < called ∧ 0 < success ∧ 0 < numDocs) ∧
      toolState.numSearchCalls = called ∧
      (toolState.allSearchesSuccessful = true ↔ 0 < called ∧ success = called ∧ failed = 0) := by
  unfold extractToolState
  simp only [Option.getD_some, hcalled, Option.isSome_some, ite_true, readCount_num hcalled,
    readCount_num hsuccess, readCount_num hfailed, readCount_num htimeout,
    readCount_num hnumDocs, Option.bind_eq_bind, Option.bind_some, Option.pure_def]
  refine ⟨_, rfl, ?_, rfl, ?_⟩
  · simp [and_assoc]
  · simp [and_assoc]

/-- The state that the metrics of several calls give. -/
theorem extractToolState_of_counters (solutionStr : Text) {extraInfo : Fields}
    {returned : List SearchMetrics} (hconsistent : ∀ m ∈ returned, Consistent m)
    (hcounter : ∀ (key : Text) (count : SearchMetrics → ℕ),
      (∀ m, (key, (count m : ℚ)) ∈ metricNumbers m) →
      extraInfo.get? key = some (.num ((returned.map count).sum : ℕ))) :
    ∃ toolState, extractToolState py solutionStr (some extraInfo) = some toolState ∧
      (toolState.hasSuccessfulSearch = true ↔ ∃ m ∈ returned, m.success = 1) ∧
      toolState.numSearchCalls = (returned.map SearchMetrics.called).sum ∧
      (toolState.allSearchesSuccessful = true ↔
        0 < (returned.map SearchMetrics.called).sum ∧
          (returned.map SearchMetrics.success).sum = (returned.map SearchMetrics.called).sum ∧
          (returned.map SearchMetrics.failed).sum = 0) := by
  rcases extractToolState_of_metrics solutionStr
    (hcounter _ SearchMetrics.called (by intro m; simp [metricNumbers]))
    (hcounter _ SearchMetrics.success (by intro m; simp [metricNumbers]))
    (hcounter _ SearchMetrics.failed (by intro m; simp [metricNumbers]))
    (hcounter _ SearchMetrics.timeout (by intro m; simp [metricNumbers]))
    (hcounter _ SearchMetrics.numDocs (by intro m; simp [metricNumbers]))
    with ⟨toolState, hstate, hhas, hnum, hall⟩
  refine ⟨toolState, hstate, ?_, hnum, hall⟩
  rw [hhas]
  simp only [List.sum_pos_iff_exists_pos_nat, List.mem_map, exists_exists_and_eq_and]
  constructor
  · intro h
    rcases h with ⟨-, ⟨m, hm, hpos⟩, -⟩
    rcases (hconsistent m hm).success with ⟨hsuccess, -⟩ | ⟨hsuccess, -⟩
    · exact ⟨m, hm, hsuccess⟩
    · omega
  · intro h
    rcases h with ⟨m, hm, hsuccess⟩
    have hcalled := (hconsistent m hm).called
    rcases (hconsistent m hm).success with ⟨-, hdocs⟩ | ⟨hzero, -⟩
    · exact ⟨⟨m, hm, by omega⟩, ⟨m, hm, by omega⟩, ⟨m, hm, hdocs⟩⟩
    · omega

/-- Without metrics it is read from the text. -/
theorem extractToolState_of_text (solutionStr : Text) {extraInfo : Fields}
    (hcalled : extraInfo.get? (lit "tool/search_called") = none) :
    ∃ toolState, extractToolState py solutionStr (some extraInfo) = some toolState ∧
      (toolState.hasSuccessfulSearch = true ↔
        xmlSuccess (extractInformationBlocks solutionStr) = true) := by
  have hblocks : xmlSuccess (extractInformationBlocks solutionStr) = true →
      0 < (extractInformationBlocks solutionStr).length := by
    intro h
    rcases List.any_eq_true.mp h with ⟨block, hmem, -⟩
    exact List.length_pos_of_mem hmem
  unfold extractToolState
  simp only [Option.getD_some, hcalled, Option.isSome_none, Bool.false_eq_true, ite_false,
    Option.bind_eq_bind, Option.bind_some, Option.pure_def]
  refine ⟨_, rfl, ?_⟩
  cases hxml : xmlSuccess (extractInformationBlocks solutionStr) with
  | false => simp [ofBool]
  | true => simpa [ofBool] using hblocks hxml

theorem computeScore_of_toolState (dataSource solutionStr : Text) (groundTruth : GroundTruth)
    {extraInfo : Option Fields} {toolState : ToolState}
    (h : extractToolState py solutionStr extraInfo = some toolState) :
    ∃ score, computeScore py dataSource solutionStr groundTruth extraInfo = some score ∧
      score.hasSuccessfulSearch = toFloat toolState.hasSuccessfulSearch ∧
      score.missingSuccessfulSearchPenalty =
        toFloat (multiHopSources.contains (py.lower dataSource) &&
          !toolState.hasSuccessfulSearch) := by
  unfold computeScore
  simp only [h, Option.bind_eq_bind, Option.bind_some, Option.pure_def]
  exact ⟨_, rfl, rfl, rfl⟩

theorem toFloat_eq_one_iff (b : Bool) : toFloat b = 1 ↔ b = true := by
  cases b <;> simp [toFloat]

/-! ## Runs -/

/-- A counter of the metrics, as the reward finds it after a run with search calls. -/
theorem get?_mergeExtraInfo_counter {state : AgentState} {d : AgentData}
    {returned : List SearchMetrics} (hrun : Reaches w state d returned)
    (hreturned : returned ≠ []) (sample : Sample) {key : Text} (count : SearchMetrics → ℕ)
    (hkey : ∀ m, (key, (count m : ℚ)) ∈ metricNumbers m) :
    (mergeExtraInfo sample (finalizeOutput w d)).get? key =
      some (.num ((returned.map count).sum : ℕ)) := by
  have hmem : key ∈ metricKeys := by
    rcases List.exists_mem_of_ne_nil returned hreturned with ⟨m, -⟩
    exact List.mem_map_of_mem (f := Prod.fst) (hkey m)
  have htool := isToolKey_of_mem_metricKeys (List.mem_cons_of_mem _ hmem)
  rw [get?_mergeExtraInfo sample (nodup_keys_of_reaches hrun) htool,
    (accumulated_of_reaches hrun).counter hreturned count hkey]

/-- What the reward takes for a successful search: one among the calls that returned, and a
block of the response when none did. -/
theorem extractToolState_of_reaches {state : AgentState} {d : AgentData}
    {returned : List SearchMetrics} (hrun : Reaches w state d returned) (sample : Sample)
    (solutionStr : Text) :
    ∃ toolState, extractToolState w.py solutionStr
        (some (mergeExtraInfo sample (finalizeOutput w d))) = some toolState ∧
      (toolState.hasSuccessfulSearch = true ↔
        if returned = [] then xmlSuccess (extractInformationBlocks solutionStr) = true
        else ∃ m ∈ returned, m.success = 1) := by
  by_cases hreturned : returned = []
  · have hcalled : (mergeExtraInfo sample (finalizeOutput w d)).get?
        (lit "tool/search_called") = none := by
      have hmem : lit "tool/search_called" ∈ metricKeys := by decide
      have htool := isToolKey_of_mem_metricKeys (List.mem_cons_of_mem _ hmem)
      rw [get?_mergeExtraInfo sample (nodup_keys_of_reaches hrun) htool,
        (accumulated_of_reaches hrun).number _ hmem, if_pos hreturned]
    simpa only [hreturned, ite_true] using extractToolState_of_text solutionStr hcalled
  · have hcounter : ∀ (key : Text) (count : SearchMetrics → ℕ),
        (∀ m, (key, (count m : ℚ)) ∈ metricNumbers m) →
        (mergeExtraInfo sample (finalizeOutput w d)).get? key =
          some (.num ((returned.map count).sum : ℕ)) := fun _ count hkey =>
      get?_mergeExtraInfo_counter hrun hreturned sample count hkey
    have hconsistent : ∀ m ∈ returned, Consistent m := by
      intro m hm
      rcases returned_of_reaches hrun m hm with ⟨parameters, service, response, hexecute⟩
      exact consistent_of_execute hexecute
    rcases extractToolState_of_counters solutionStr hconsistent hcounter
      with ⟨toolState, hstate, hiff, -⟩
    refine ⟨toolState, hstate, ?_⟩
    rw [hiff, if_neg hreturned]

/-- The score credits a search exactly when a call of the run succeeded, and the penalty for
multi-hop questions follows the same rule. -/
def CreditIsSound (w : Worker F) (sample : Sample) (d : AgentData)
    (returned : List SearchMetrics) : Prop :=
  ∃ score, runSingle w sample (finalizeOutput w d) = some score ∧
    (score.hasSuccessfulSearch = 1 ↔ ∃ m ∈ returned, m.success = 1) ∧
    (score.missingSuccessfulSearchPenalty = 1 ↔
      multiHopSources.contains (w.py.lower sample.dataSource) = true ∧
        ¬ ∃ m ∈ returned, m.success = 1)

theorem creditIsSound_iff_toolState {state : AgentState} {d : AgentData}
    {returned : List SearchMetrics} (hrun : Reaches w state d returned) (sample : Sample) :
    CreditIsSound w sample d returned ↔
      (returned = [] →
        xmlSuccess (extractInformationBlocks (decodeResponse w (finalizeOutput w d))) =
          false) := by
  rcases extractToolState_of_reaches hrun sample (decodeResponse w (finalizeOutput w d))
    with ⟨toolState, hstate, hsuccess⟩
  rcases computeScore_of_toolState sample.dataSource _ sample.groundTruth hstate
    with ⟨score, hscore, hcredit, hpenalty⟩
  have hsound : CreditIsSound w sample d returned ↔
      (toolState.hasSuccessfulSearch = true ↔ ∃ m ∈ returned, m.success = 1) := by
    constructor
    · rintro ⟨score', hscore', hcredit', -⟩
      rw [runSingle, hscore] at hscore'
      cases hscore'
      rwa [hcredit, toFloat_eq_one_iff] at hcredit'
    · intro h
      refine ⟨score, hscore, ?_, ?_⟩
      · rw [hcredit, toFloat_eq_one_iff, h]
      · rw [hpenalty, toFloat_eq_one_iff, Bool.and_eq_true, Bool.not_eq_true', ← h,
          Bool.not_eq_true]
  rw [hsound, hsuccess]
  by_cases hreturned : returned = []
  · simp [hreturned]
  · simp [hreturned]

/-- The credit is sound exactly when a search call returned in the run, or no block of the
response passes for a search result. -/
theorem creditIsSound_iff {exit : Exit} {d : AgentData} {returned : List SearchMetrics}
    (hrun : Reaches w (.terminated exit) d returned) (sample : Sample) :
    CreditIsSound w sample d returned ↔
      returned ≠ [] ∨
        ∀ block ∈ extractInformationBlocks (decodeResponse w (finalizeOutput w d)),
          strip block = [] ∨ contains searchFailed block = true := by
  have hblocks : xmlSuccess (extractInformationBlocks
      (decodeResponse w (finalizeOutput w d))) = false ↔
        ∀ block ∈ extractInformationBlocks (decodeResponse w (finalizeOutput w d)),
          strip block = [] ∨ contains searchFailed block = true := by
    simp only [xmlSuccess, List.any_eq_false, Bool.and_eq_true, Bool.not_eq_true',
      List.isEmpty_eq_false_iff, ne_eq, not_and, Bool.not_eq_false]
    apply forall₂_congr
    intro block _
    rw [or_iff_not_imp_left]
  rw [creditIsSound_iff_toolState hrun, hblocks, ne_eq, ← imp_iff_not_or]

/-! ## A run that searches and one that pretends to -/

def demoSample : Sample where
  dataSource := lit "hotpotqa"
  groundTruth := { target := .many [lit "Paris"] }
  extraInfo :=
    { fields := [(lit "index", .num 0)]
      not_tool := by decide +kernel }

theorem creditIsSound_overflowData :
    CreditIsSound (asciiWorker { responseLength := 100 }) demoSample overflowData
      [oneDocMetrics] :=
  (creditIsSound_iff (((reaches_promptData _).step step_searchCallData).step step_overflowData)
    demoSample).mpr (.inl (by simp))

/-- A response that quotes a search result of its own. -/
def pretendedText : Text := lit "<information>Paris</information><answer>Paris</answer>"

def pretendedData : AgentData where
  promptIds := 81 :: (generationOf pretendedText).tokenIds
  responseIds := (generationOf pretendedText).tokenIds
  responseMask := List.replicate 54 true
  assistantTurns := 1
  extraFields := [(lit "global_steps", .num 1)]

theorem reaches_pretendedData : Reaches (asciiWorker { responseLength := 100 })
    (.terminated .noToolCalls) pretendedData [] := by
  have hstep : Step (asciiWorker { responseLength := 100 }) (.generating, promptData) []
      (.terminated .noToolCalls, pretendedData) := by
    apply Step.generating (generationOf pretendedText)
    decide
  exact (reaches_promptData _).step hstep

theorem not_creditIsSound_pretendedData :
    Reaches (asciiWorker { responseLength := 100 }) (.terminated .noToolCalls) pretendedData [] ∧
      ¬ CreditIsSound (asciiWorker { responseLength := 100 }) demoSample pretendedData [] := by
  refine ⟨reaches_pretendedData, ?_⟩
  rw [creditIsSound_iff_toolState reaches_pretendedData]
  intro h
  have htext : xmlSuccess (extractInformationBlocks (decodeResponse
      (asciiWorker { responseLength := 100 }) (finalizeOutput
        (asciiWorker { responseLength := 100 }) pretendedData))) = true := by decide
  rw [h rfl] at htext
  cases htext

end SearchR1.AgentLoop
