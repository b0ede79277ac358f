import SearchR1.Verification.Rollout.SearchCredit
import SearchR1.Verification.Rollout.XmlFallback

/-! # The bonus for retrieved evidence -/

namespace SearchR1.QaEmToolReward

open PyText ToolAgentLoop SearchTool

variable {F : Type} (py : Python F)

/-! ## Evidence -/

/-- The block holds a target, both normalised. -/
def HoldsTarget (targets : List Text) (block : Text) : Prop :=
  ∃ target ∈ targets, contains (normalizeAnswer py target) (normalizeAnswer py block)

/-- The block holds a target of which something is left when it is normalised. -/
def HoldsAnswer (targets : List Text) (block : Text) : Prop :=
  ∃ target ∈ targets, normalizeAnswer py target ≠ [] ∧
    contains (normalizeAnswer py target) (normalizeAnswer py block)

/-- A block that does not report a failure holds an answer. -/
def Evidence (targets : List Text) (solutionStr : Text) : Prop :=
  ∃ block ∈ extractInformationBlocks solutionStr, ¬ contains searchFailed block ∧
    HoldsAnswer py targets block

/-- The counters that the metrics give for calls, successes and documents are positive. -/
def CountersPositive (extraInfo : Fields) : Prop :=
  ∀ key ∈ [lit "tool/search_called", lit "tool/search_success", lit "tool/search_num_docs"],
    ∃ count, readCount py extraInfo key = some count ∧ 0 < count

def HasMetrics (extraInfo : Fields) : Prop :=
  (extraInfo.get? (lit "tool/search_called")).isSome

variable {py}

/-! ## The tool state -/

theorem extractToolState_cases {solutionStr : Text} {extraInfo : Option Fields}
    {toolState : ToolState} (h : extractToolState py solutionStr extraInfo = some toolState) :
    toolState.informationBlocks = extractInformationBlocks solutionStr ∧
      (HasMetrics (extraInfo.getD []) →
        (toolState.hasSuccessfulSearch = true ↔ CountersPositive py (extraInfo.getD []))) ∧
      (¬ HasMetrics (extraInfo.getD []) →
        (toolState.hasSuccessfulSearch = true ↔
          xmlSuccess (extractInformationBlocks solutionStr) = true)) := by
  generalize hinfo : extraInfo.getD [] = info at *
  unfold extractToolState at h
  simp only [hinfo] at h
  by_cases hmetrics : HasMetrics info
  · have hsome : (info.get? (lit "tool/search_called")).isSome = true := hmetrics
    simp only [hsome, ite_true, Option.bind_eq_bind, Option.bind_eq_some_iff] at h
    rcases h with ⟨called, hcalled, success, hsuccess, _, _, _, _, numDocs, hnumDocs, _, heq,
      hstate⟩
    cases heq
    cases hstate
    refine ⟨rfl, fun _ => ?_, fun hnone => absurd hmetrics hnone⟩
    simp [CountersPositive, hcalled, hsuccess, hnumDocs, and_assoc]
  · have hnone : (info.get? (lit "tool/search_called")).isSome = false := by
      simpa [HasMetrics] using hmetrics
    simp only [hnone, Bool.false_eq_true, ite_false, Option.bind_eq_bind, Option.bind_some] at h
    cases h
    refine ⟨rfl, fun hsome => absurd hsome hmetrics, fun _ => ?_⟩
    cases hxml : xmlSuccess (extractInformationBlocks solutionStr) with
    | false => simp [ofBool]
    | true =>
        rcases List.any_eq_true.mp hxml with ⟨block, hmem, _⟩
        simpa [ofBool] using List.length_pos_of_mem hmem

/-! ## The score -/

theorem retrievalContainsAnswer_iff (blocks targets : List Text) :
    retrievalContainsAnswer py blocks targets = true ↔
      ∃ block ∈ blocks, HoldsTarget py targets block := by
  simp only [retrievalContainsAnswer, List.any_eq_true, HoldsTarget]

theorem computeScore_cases {dataSource solutionStr : Text} {groundTruth : GroundTruth}
    {extraInfo : Option Fields} {score : Score}
    (h : computeScore py dataSource solutionStr groundTruth extraInfo = some score) :
    ∃ toolState, extractToolState py solutionStr extraInfo = some toolState ∧
      (score.retrievalCorrect = 1 ↔ ∃ block ∈ extractInformationBlocks solutionStr,
        HoldsTarget py groundTruth.targets block) ∧
      (score.hasSuccessfulSearch = 1 ↔ toolState.hasSuccessfulSearch = true) := by
  unfold computeScore at h
  simp only [Option.bind_eq_bind, Option.bind_eq_some_iff] at h
  rcases h with ⟨toolState, hstate, hscore⟩
  cases hscore
  have hblocks := (extractToolState_cases hstate).1
  refine ⟨toolState, hstate, ?_, AgentLoop.toFloat_eq_one_iff _⟩
  rw [AgentLoop.toFloat_eq_one_iff, hblocks]
  cases hempty : (extractInformationBlocks solutionStr).isEmpty with
  | true =>
      rw [List.isEmpty_iff.mp hempty]
      simp
  | false =>
      rw [if_neg Bool.false_ne_true]
      exact retrievalContainsAnswer_iff _ _

/-- A block with an answer in it is not blank, so the text shows a success. -/
theorem xmlSuccess_of_evidence (hlower : py.lower [] = []) {targets : List Text}
    {solutionStr : Text} (h : Evidence py targets solutionStr) :
    xmlSuccess (extractInformationBlocks solutionStr) = true := by
  rcases h with ⟨block, hmem, hfailed, target, _, hne, hholds⟩
  rcases List.mem_map.mp hmem with ⟨inner, _, rfl⟩
  apply List.any_eq_true.mpr
  refine ⟨strip inner, hmem, ?_⟩
  have hblank : strip inner ≠ [] := by
    intro hblank
    rw [hblank] at hholds
    have hnil : normalizeAnswer py [] = [] := by
      rw [normalizeAnswer, hlower]
      rfl
    rw [hnil, contains_iff, List.infix_nil] at hholds
    exact hne hholds
  rw [strip_strip]
  simp [hblank, hfailed]

/-- The bonus for evidence is sound exactly when no block holds a target, or when a block that
reports no failure holds an answer and the counters of the metrics, if there are any, are
positive. -/
theorem retrievalCorrect_sound_iff (hlower : py.lower [] = []) {dataSource solutionStr : Text}
    {groundTruth : GroundTruth} {extraInfo : Option Fields} {score : Score}
    (h : computeScore py dataSource solutionStr groundTruth extraInfo = some score) :
    (score.retrievalCorrect = 1 → score.hasSuccessfulSearch = 1 ∧
      ∃ block ∈ extractInformationBlocks solutionStr, ¬ contains searchFailed block ∧
        ∃ target ∈ groundTruth.targets, normalizeAnswer py target ≠ [] ∧
          contains (normalizeAnswer py target) (normalizeAnswer py block)) ↔
    (∀ block ∈ extractInformationBlocks solutionStr,
      ¬ HoldsTarget py groundTruth.targets block) ∨
    Evidence py groundTruth.targets solutionStr ∧
      (HasMetrics (extraInfo.getD []) → CountersPositive py (extraInfo.getD [])) := by
  rcases computeScore_cases h with ⟨toolState, hstate, hcorrect, hsuccess⟩
  rcases extractToolState_cases hstate with ⟨_, hmetrics, hfallback⟩
  rw [hcorrect, hsuccess]
  constructor
  · intro hsound
    rw [or_iff_not_imp_left]
    intro hholds
    simp only [not_forall, not_not] at hholds
    rcases hholds with ⟨block, hmem, hblock⟩
    rcases hsound ⟨block, hmem, hblock⟩ with ⟨hhas, hevidence⟩
    exact ⟨hevidence, fun hsome => (hmetrics hsome).mp hhas⟩
  · intro hcondition hholds
    rcases hcondition with hnone | ⟨hevidence, hcounters⟩
    · rcases hholds with ⟨block, hmem, hblock⟩
      exact absurd hblock (hnone block hmem)
    · refine ⟨?_, hevidence⟩
      by_cases hsome : HasMetrics (extraInfo.getD [])
      · exact (hmetrics hsome).mpr (hcounters hsome)
      · exact (hfallback hsome).mpr (xmlSuccess_of_evidence hlower hevidence)

def parisTargets : GroundTruth := { target := .many [lit "Paris"] }

def zeroSearches : Fields :=
  [(lit "tool/search_called", .num 0), (lit "tool/search_success", .num 0),
    (lit "tool/search_num_docs", .num 0)]

theorem retrievalCorrect_sound_evidence :
    ∃ score, computeScore asciiPython (lit "nq")
        (lit "<information>\nDoc 1:\nParis is its capital.\n</information>") parisTargets none =
          some score ∧
      score.retrievalCorrect = 1 ∧ score.hasSuccessfulSearch = 1 := by
  have htext : (computeScore asciiPython (lit "nq")
      (lit "<information>\nDoc 1:\nParis is its capital.\n</information>") parisTargets none).map
        Score.retrievalCorrect = some 1 := by decide
  rcases Option.map_eq_some_iff.mp htext with ⟨score, hscore, hcorrect⟩
  have hevidence : Evidence asciiPython parisTargets.targets
      (lit "<information>\nDoc 1:\nParis is its capital.\n</information>") :=
    ⟨lit "Doc 1:\nParis is its capital.", by decide, by decide,
      lit "Paris", by decide, by decide, by decide⟩
  have hnone : ¬ HasMetrics (Option.getD none []) := by
    unfold HasMetrics
    decide
  have hsound := (retrievalCorrect_sound_iff rfl hscore).mpr
    (.inr ⟨hevidence, fun hsome => absurd hsome hnone⟩)
  exact ⟨score, hscore, hcorrect, (hsound hcorrect).1⟩

/-- The metrics report no search, and still the text earns the bonus. -/
theorem retrievalCorrect_zeroSearches :
    ∃ score, computeScore asciiPython (lit "nq") (lit "<information>Paris</information>")
        parisTargets (some zeroSearches) = some score ∧
      score.retrievalCorrect = 1 ∧ score.hasSuccessfulSearch = 0 := by
  have htext : (computeScore asciiPython (lit "nq") (lit "<information>Paris</information>")
      parisTargets (some zeroSearches)).map (fun score =>
        (score.retrievalCorrect, score.hasSuccessfulSearch)) = some (1, 0) := by decide
  rcases Option.map_eq_some_iff.mp htext with ⟨score, hscore, heq⟩
  exact ⟨score, hscore, congrArg Prod.fst heq, congrArg Prod.snd heq⟩

end SearchR1.QaEmToolReward
