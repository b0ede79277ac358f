import SearchR1.Model.AgentLoop
import SearchR1.Model.AsciiRuntime
import SearchR1.Verification.Rollout.Steps
import SearchR1.Verification.Filtering.Classification
import Mathlib.Data.Fintype.Fin

/-! # Runs that are cut off by the response budget -/

namespace SearchR1.ToolAgentLoop

open PyText AgentLoop RayTrainer QaEmToolReward TrajectoryFilter SearchTool

/-! ## The length of the output -/

theorem length_lastItems {α : Type} (xs : List α) {n : ℕ} (hn : n ≤ xs.length) (hpos : 0 < n) :
    (lastItems xs n).length = n := by
  rw [lastItems, if_neg hpos.ne', List.length_drop]
  omega

variable {F : Type} {w : Worker F}

/-- The response of the output ends at the limit, or where the response mask ends. -/
theorem length_responseIds_finalizeOutput {d : AgentData}
    (hlength : d.responseMask.length ≤ d.promptIds.length)
    (hpos : 0 < d.responseMask.length ∨ w.config.responseLength ≤ d.responseMask.length) :
    (finalizeOutput w d).responseIds.length =
      min w.config.responseLength d.responseMask.length := by
  change ((lastItems d.promptIds d.responseMask.length).take w.config.responseLength).length = _
  rw [List.length_take]
  rcases Nat.eq_zero_or_pos d.responseMask.length with hzero | hnonzero
  · have hlimit : w.config.responseLength = 0 := by omega
    rw [hlimit, Nat.zero_min, Nat.zero_min]
  · rw [length_lastItems _ hlength hnonzero]

theorem card_responseAttention (L : ℕ) (ids : List TokenId) :
    (Finset.univ.filter fun t : Fin L => responseAttention L ids t).card = min L ids.length := by
  rw [← Fin.card_filter_val_lt]
  simp [responseAttention]

theorem responseLengths_postprocess {U : Type*} {n : ℕ} (P L : ℕ) (uid : Fin n → U)
    (outputs : Fin n → AgentLoopOutput) (scores : Fin n → Score) (i : Fin n) :
    responseLengths (postprocess P L uid outputs scores) i =
      min L (outputs i).responseIds.length := by
  rw [← card_responseAttention]
  simp only [responseLengths, postprocess, Fin.append_right]

/-! ## What the detector reports -/

/-- The filter reports the truncation of a row and masks it. -/
def ReportsTruncation {U : Type*} {n P L : ℕ} (batch : Batch U n P L) (maxResponseLength : ℤ)
    (i : Fin n) : Prop :=
  let outputs := buildTrajectoryFilterOutputs batch maxResponseLength
  AnomalyType.sequenceTruncated ∈ outputs.allAnomalies i ∧ outputs.validSampleMask i = false

theorem reportsTruncation_iff_length {U : Type*} {n P L : ℕ} (batch : Batch U n P L)
    (maxResponseLength : ℤ) (i : Fin n) :
    ReportsTruncation batch maxResponseLength i ↔
      maxResponseLength ≤ responseLengths batch i := by
  have hmem := sequenceTruncated_mem_iff trajectoryFilter
    (rowTrajectory batch maxResponseLength i)
  constructor
  · intro h
    exact hmem.mp h.1
  · intro h
    refine ⟨hmem.mpr h, ?_⟩
    have hmasked : (classifyTrajectory trajectoryFilter
        (rowTrajectory batch maxResponseLength i)).1 = true :=
      (classifyTrajectory_default rfl _).mpr (.inr (.inr (.inr h)))
    simp [buildTrajectoryFilterOutputs, hmasked]

/-- The detector sees the tokens of the output only, and a tool response that did not fit is
not among them: of the runs that hit the budget, those are reported whose last step is a
generation. -/
theorem reportsTruncation_iff {U : Type*} {n P : ℕ} {last : AgentState} {exit : Exit}
    {d₀ d : AgentData} {before new : List SearchMetrics} (hrun : Reaches w last d₀ before)
    (hstep : Step w (last, d₀) new (.terminated exit, d))
    (hbudget : exit = .responseLength ∨ exit = .toolResponseLength) (uid : Fin n → U)
    (outputs : Fin n → AgentLoopOutput) (scores : Fin n → Score) {i : Fin n}
    (hi : outputs i = finalizeOutput w d) :
    ReportsTruncation (postprocess P w.config.responseLength uid outputs scores)
        w.config.responseLength i ↔ last = .generating := by
  have horder := hstep.tokensInOrder (tokensInOrder_of_reaches hrun)
  have hlength := horder.length
  simp only at hlength
  rw [reportsTruncation_iff_length, responseLengths_postprocess, hi, Nat.cast_le]
  rcases hbudget with rfl | rfl
  · have hlimit := horder.responseLength rfl
    simp only at hlimit
    have hlast : last = .generating := by
      cases hstep with
      | generating output _ => rfl
      | processingTools services h =>
          rcases (toolTurn_of_handle h).tokens with ⟨heq, -⟩ | ⟨heq, -⟩ <;> cases heq
    rw [length_responseIds_finalizeOutput hlength (.inr hlimit)]
    apply iff_of_true _ hlast
    omega
  · have hlimit := horder.toolResponseLength rfl
    simp only at hlimit
    have hlast : last ≠ .generating := by
      rintro rfl
      cases hstep with
      | generating output h =>
          rcases (generation_of_handle h).state with heq | ⟨exit, heq, hexit⟩ <;> cases heq
          exact hexit rfl
    rw [length_responseIds_finalizeOutput hlength (.inl hlimit.1)]
    apply iff_of_false _ hlast
    omega

/-! ## A run that hits the budget -/

/-- The retrieval of one document. -/
def oneDocService : Service := fun _ _ =>
  (.text (lit "\x7b\"result\": [[\x7b\"title\": \"T\", \"contents\": \"C\"\x7d]]\x7d"), 12)

def oneDocMetrics : SearchMetrics where
  called := 1
  success := 1
  failed := 0
  timeout := 0
  emptyQuery := 0
  latencyMs := 12
  numDocs := 1
  responseTruncated := 0
  exceptionType := .none

/-- The data after the prompt `Q`. -/
def promptData : AgentData := { promptIds := [81] }

/-- The data after a search call was generated. -/
def searchCallData : AgentData where
  promptIds := 81 :: (generationOf (searchCallText "q")).tokenIds
  responseIds := (generationOf (searchCallText "q")).tokenIds
  responseMask := List.replicate 70 true
  assistantTurns := 1
  toolCalls := [{ name := lit "search", arguments := lit "\x7b\"query\": \"q\"\x7d" }]
  extraFields := [(lit "global_steps", .num 1)]

/-- The data after the call, whose response of 48 tokens does not fit in. -/
def overflowData : AgentData :=
  { searchCallData with
    toolMessages := [lit "<information>\nDoc 1(Title: T):\nC\n</information>"]
    toolRewards := [0]
    extraFields := searchCallData.extraFields ++
      (metricNumbers oneDocMetrics).map fun e => (e.1, .num e.2) }

def unscored : Score where
  score := 0
  answerEm := 0
  hasFinalAnswer := 0
  toolMetricsAvailable := 0
  numSearchCalls := 0
  searchSuccessCount := 0
  searchFailedCount := 0
  searchTimeoutCount := 0
  searchNumDocs := 0
  hasSuccessfulSearch := 0
  allSearchesSuccessful := 0
  retrievalCorrect := 0
  missingSuccessfulSearchPenalty := 0

theorem reaches_promptData (config : Config) :
    Reaches (asciiWorker config) .generating promptData [] :=
  reaches_start.step (Step.pending [81])

theorem step_searchCallData : Step (asciiWorker { responseLength := 100 })
    (.generating, promptData) [] (.processingTools, searchCallData) := by
  apply Step.generating (generationOf (searchCallText "q"))
  decide +kernel

theorem step_overflowData : Step (asciiWorker { responseLength := 100 })
    (.processingTools, searchCallData) [oneDocMetrics]
    (.terminated .toolResponseLength, overflowData) := by
  apply Step.processingTools fun _ => oneDocService
  decide +kernel

/-- The response to a search hits the budget, and nothing reports it. -/
theorem not_reportsTruncation_overflowData :
    Reaches (asciiWorker { responseLength := 100 }) (.terminated .toolResponseLength)
        overflowData [oneDocMetrics] ∧
      ¬ ReportsTruncation (postprocess 1 100 (fun _ : Fin 1 => "prompt")
        (fun _ => finalizeOutput (asciiWorker { responseLength := 100 }) overflowData)
        fun _ => unscored) 100 0 := by
  have hrun : Reaches (asciiWorker { responseLength := 100 }) .processingTools searchCallData
      [] := (reaches_promptData _).step step_searchCallData
  refine ⟨hrun.step step_overflowData, ?_⟩
  rw [reportsTruncation_iff_length, responseLengths_postprocess]
  decide

/-- A generation that hits the budget. -/
def cutOffData : AgentData where
  promptIds := 81 :: (generationOf (lit "Paris")).tokenIds
  responseIds := (generationOf (lit "Paris")).tokenIds
  responseMask := List.replicate 5 true
  assistantTurns := 1
  extraFields := [(lit "global_steps", .num 1)]

theorem step_cutOffData : Step (asciiWorker { responseLength := 5 }) (.generating, promptData) []
    (.terminated .responseLength, cutOffData) := by
  apply Step.generating (generationOf (lit "Paris"))
  decide

theorem reportsTruncation_cutOffData :
    ReportsTruncation (postprocess 1 5 (fun _ : Fin 1 => "prompt")
      (fun _ => finalizeOutput (asciiWorker { responseLength := 5 }) cutOffData)
      fun _ => unscored) 5 0 :=
  (reportsTruncation_iff (reaches_promptData _) step_cutOffData (.inl rfl)
    (fun _ : Fin 1 => "prompt") _ (fun _ => unscored) rfl).mpr rfl

end SearchR1.ToolAgentLoop
