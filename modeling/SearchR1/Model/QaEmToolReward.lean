import SearchR1.Model.AnswerMatching
import SearchR1.Model.ToolAgentLoop

/-! # The reward of a trajectory -/

namespace SearchR1.QaEmToolReward

open PyText ToolAgentLoop

variable {F : Type} (py : Python F)

/-! ## Extraction -/

def extractSolution (solutionStr : Text) : Option Text :=
  (blocks answerOpen answerClose solutionStr).getLast?.map strip

def extractInformationBlocks (text : Text) : List Text :=
  strippedBlocks informationOpen informationClose text

def searchFailed : Text := lit "Search failed:"

def retrievalContainsAnswer (informationBlocks targets : List Text) : Bool :=
  informationBlocks.any fun block =>
    let normBlock := normalizeAnswer py block
    targets.any fun target => contains (normalizeAnswer py target) normBlock

/-! ## Tool state -/

structure ToolState where
  metricsAvailable : Bool
  informationBlocks : List Text
  numSearchCalls : ℤ
  searchSuccessCount : ℤ
  searchFailedCount : ℤ
  searchTimeoutCount : ℤ
  searchNumDocs : ℤ
  hasSuccessfulSearch : Bool
  allSearchesSuccessful : Bool

/-- `int(extra_info.get(key, 0))`. -/
def readCount (extraInfo : Fields) (key : Text) : Option ℤ :=
  ((extraInfo.get? key).getD (.num 0)).toInt py

def ofBool (b : Bool) : ℤ := if b then 1 else 0

/-- A block counts as a success unless it is blank or reports a failure. -/
def xmlSuccess (informationBlocks : List Text) : Bool :=
  informationBlocks.any fun block => !(strip block).isEmpty && !contains searchFailed block

/-- The state of the search tool: the structured metrics when there are any, else what the
information blocks of the text show. -/
def extractToolState (solutionStr : Text) (extraInfo : Option Fields) : Option ToolState := do
  let extraInfo := extraInfo.getD []
  let informationBlocks := extractInformationBlocks solutionStr
  let xmlSearchCount := informationBlocks.length
  let xmlSuccess := xmlSuccess informationBlocks
  let metricsAvailable := (extraInfo.get? (lit "tool/search_called")).isSome
  let (numSearchCalls, searchSuccessCount, searchFailedCount, searchTimeoutCount,
      searchNumDocs) ←
    if metricsAvailable then do
      let called ← readCount py extraInfo (lit "tool/search_called")
      let success ← readCount py extraInfo (lit "tool/search_success")
      let failed ← readCount py extraInfo (lit "tool/search_failed")
      let timeout ← readCount py extraInfo (lit "tool/search_timeout")
      let numDocs ← readCount py extraInfo (lit "tool/search_num_docs")
      some (called, success, failed, timeout, numDocs)
    else
      some ((xmlSearchCount : ℤ), ofBool xmlSuccess, ofBool (xmlSearchCount > 0 && !xmlSuccess),
        (0 : ℤ), ofBool xmlSuccess)
  return {
    metricsAvailable
    informationBlocks
    numSearchCalls
    searchSuccessCount
    searchFailedCount
    searchTimeoutCount
    searchNumDocs
    hasSuccessfulSearch := numSearchCalls > 0 && searchSuccessCount > 0 && searchNumDocs > 0
    allSearchesSuccessful :=
      numSearchCalls > 0 && searchSuccessCount = numSearchCalls && searchFailedCount = 0 }

/-! ## Score -/

/-- `ground_truth["target"]`, a text or a list of texts. -/
inductive Target where
  | one (t : Text)
  | many (ts : List Text)

structure GroundTruth where
  target : Target := .many []

def GroundTruth.targets (groundTruth : GroundTruth) : List Text :=
  match groundTruth.target with
  | .one t => [t]
  | .many ts => ts

structure Score where
  score : ℚ
  answerEm : ℚ
  hasFinalAnswer : ℚ
  toolMetricsAvailable : ℚ
  numSearchCalls : ℚ
  searchSuccessCount : ℚ
  searchFailedCount : ℚ
  searchTimeoutCount : ℚ
  searchNumDocs : ℚ
  hasSuccessfulSearch : ℚ
  allSearchesSuccessful : ℚ
  retrievalCorrect : ℚ
  missingSuccessfulSearchPenalty : ℚ

def multiHopSources : List Text :=
  [lit "hotpotqa", lit "2wikimultihopqa", lit "musique", lit "bamboogle"]

/-- `float(value)` of a `bool`. -/
def toFloat (b : Bool) : ℚ := if b then 1 else 0

/-- `compute_score`. -/
def computeScore (dataSource solutionStr : Text) (groundTruth : GroundTruth)
    (extraInfo : Option Fields) : Option Score := do
  let targets := groundTruth.targets
  let answer := extractSolution solutionStr
  let hasAnswer := answer.isSome
  let answerCorrect := answer.any fun answer => emCheck py answer targets
  let toolState ← extractToolState py solutionStr extraInfo
  let infoBlocks := toolState.informationBlocks
  let retrievalOk :=
    if infoBlocks.isEmpty then false else retrievalContainsAnswer py infoBlocks targets
  let isMultiHop := multiHopSources.contains (py.lower dataSource)
  let missing := isMultiHop && !toolState.hasSuccessfulSearch
  let reward : ℚ := (if answerCorrect then 8 / 10 else 0) + (if hasAnswer then 1 / 10 else 0) +
    (if toolState.hasSuccessfulSearch then 5 / 100 else 0) +
    (if retrievalOk then 5 / 100 else 0) - (if missing then 2 / 10 else 0)
  return {
    score := max (-2 / 10) (min 1 reward)
    answerEm := toFloat answerCorrect
    hasFinalAnswer := toFloat hasAnswer
    toolMetricsAvailable := toFloat toolState.metricsAvailable
    numSearchCalls := toolState.numSearchCalls
    searchSuccessCount := toolState.searchSuccessCount
    searchFailedCount := toolState.searchFailedCount
    searchTimeoutCount := toolState.searchTimeoutCount
    searchNumDocs := toolState.searchNumDocs
    hasSuccessfulSearch := toFloat toolState.hasSuccessfulSearch
    allSearchesSuccessful := toFloat toolState.allSearchesSuccessful
    retrievalCorrect := toFloat retrievalOk
    missingSuccessfulSearchPenalty := toFloat missing }

end SearchR1.QaEmToolReward
