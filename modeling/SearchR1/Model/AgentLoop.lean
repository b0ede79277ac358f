import SearchR1.Model.QaEmToolReward
import SearchR1.Model.RayTrainer

/-! # From the output of a rollout to its score and its row in the batch -/

namespace SearchR1.AgentLoop

open PyText ToolAgentLoop QaEmToolReward RayTrainer TrajectoryFilter

variable {F : Type}

/-! ## Scoring -/

/-- What the dataset knows about a sample. -/
structure Sample where
  dataSource : Text
  groundTruth : GroundTruth
  extraInfo : ForeignFields

/-- The extra info `NaiveRewardManager.run_single` hands on: the sample's own, updated with the
fields of the rollout, to which the worker has added the prompt. -/
def mergeExtraInfo (sample : Sample) (output : AgentLoopOutput) : Fields :=
  let toolExtraFields := output.extraFields.set (lit "raw_prompt") .other
  let extraInfo := sample.extraInfo.fields.update toolExtraFields
  let extraInfo := extraInfo.set (lit "num_turns") (.num output.numTurns)
  extraInfo.set (lit "rollout_reward_scores") .other

/-- The response that `run_single` decodes. Its attention mask has no padding, and `[-0:]` is the
whole mask. -/
def validResponseIds (output : AgentLoopOutput) : List TokenId :=
  let attentionMask := List.replicate (output.promptIds.length + output.responseIds.length) 1
  output.responseIds.take (lastItems attentionMask output.responseIds.length).sum

def decodeResponse (w : Worker F) (output : AgentLoopOutput) : Text :=
  w.tokenizer.decodeVisible (validResponseIds output)

/-- `NaiveRewardManager.run_single` with the reward function of the recipe. -/
def runSingle (w : Worker F) (sample : Sample) (output : AgentLoopOutput) : Option Score :=
  computeScore w.py sample.dataSource (decodeResponse w output) sample.groundTruth
    (some (mergeExtraInfo sample output))

/-! ## The batch -/

/-- The attention mask of a prompt, padded on the left. -/
def promptAttention (P : ℕ) (ids : List TokenId) (t : Fin P) : Bool := P - ids.length ≤ t.val

/-- The attention mask of a response, padded on the right. -/
def responseAttention (L : ℕ) (ids : List TokenId) (t : Fin L) : Bool := t.val < ids.length

/-- A column of the extra fields, absent when no trajectory has the key. -/
def column {n : ℕ} {α : Type} (read : Field → Option α) (outputs : Fin n → AgentLoopOutput)
    (key : Text) : Option (Fin n → Option α) :=
  if ∃ i, ((outputs i).extraFields.get? key).isSome then
    some fun i => ((outputs i).extraFields.get? key).bind read
  else none

def readNumber : Field → Option ℚ
  | .num q => some q
  | _ => none

def readText : Field → Option Text
  | .str t => some t
  | _ => none

/-- `_postprocess`: the batch of the padded outputs with the results of the reward function. -/
def postprocess {U : Type*} {n : ℕ} (P L : ℕ) (uid : Fin n → U)
    (outputs : Fin n → AgentLoopOutput) (scores : Fin n → Score) : Batch U n P L where
  uid := uid
  attentionMask i := Fin.append (promptAttention P (outputs i).promptIds)
    (responseAttention L (outputs i).responseIds)
  responseMask i t := (outputs i).responseMask.getD t false &&
    responseAttention L (outputs i).responseIds t
  searchTimeout := column readNumber outputs (lit "tool/search_timeout")
  searchExceptionType := column readText outputs (lit "tool/search_exception_type")
  searchResponseTruncated := column readNumber outputs (lit "tool/search_response_truncated")
  numSearchCalls := some fun i => (scores i).numSearchCalls
  hasFinalAnswer := some fun i => (scores i).hasFinalAnswer
  answerEm := some fun i => (scores i).answerEm

/-- The lookups of `detect_tool_anomalies` in a dictionary of metrics. -/
def toolMetricsOf (toolMetrics : Fields) : ToolMetrics where
  searchTimeout := readNumber ((toolMetrics.get? (lit "tool/search_timeout")).getD (.num 0))
  searchExceptionType :=
    readText ((toolMetrics.get? (lit "tool/search_exception_type")).getD (.str (lit "none")))
  searchResponseTruncated :=
    readNumber ((toolMetrics.get? (lit "tool/search_response_truncated")).getD (.num 0))

end SearchR1.AgentLoop
