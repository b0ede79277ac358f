import SearchR1.Library.Text
import Mathlib.Data.Rat.Defs
import Mathlib.Algebra.Order.Ring.Rat

/-! # Anomaly detection and filtering of trajectories -/

namespace SearchR1.TrajectoryFilter

open PyText

inductive AnomalyType where
  | toolTimeout
  | toolHttpError
  | toolParseError
  | retrieverCrash
  | emptyRetrievalSystem
  | toolResponseTruncated
  | sequenceTruncated
  | rolloutEngineError
  | maxToolCallsExceeded
  | invalidToolArguments
  | invalidAnswerFormat
  | noFinalAnswer
  | unnecessarySearch
  | wrongAnswer
  deriving DecidableEq

open AnomalyType

def AnomalyType.value : AnomalyType → Text
  | toolTimeout => lit "tool_timeout"
  | toolHttpError => lit "tool_http_error"
  | toolParseError => lit "tool_parse_error"
  | retrieverCrash => lit "retriever_crash"
  | emptyRetrievalSystem => lit "empty_retrieval_due_to_system"
  | toolResponseTruncated => lit "tool_response_truncated"
  | sequenceTruncated => lit "sequence_truncated"
  | rolloutEngineError => lit "rollout_engine_error"
  | maxToolCallsExceeded => lit "max_tool_calls_exceeded"
  | invalidToolArguments => lit "invalid_tool_arguments"
  | invalidAnswerFormat => lit "invalid_answer_format"
  | noFinalAnswer => lit "no_final_answer"
  | unnecessarySearch => lit "unnecessary_search"
  | wrongAnswer => lit "wrong_answer"

/-- The members of the enumeration, in their order. -/
def anomalyTypes : List AnomalyType :=
  [toolTimeout, toolHttpError, toolParseError, retrieverCrash, emptyRetrievalSystem,
    toolResponseTruncated, sequenceTruncated, rolloutEngineError, maxToolCallsExceeded,
    invalidToolArguments, invalidAnswerFormat, noFinalAnswer, unnecessarySearch, wrongAnswer]

def defaultMaskOn : List AnomalyType :=
  [toolTimeout, toolHttpError, toolParseError, retrieverCrash, sequenceTruncated,
    rolloutEngineError]

/-- The tool metrics a trajectory is classified by, with the defaults of their lookups. A
number is `none` when it is NaN, the exception type when it is `None`. -/
structure ToolMetrics where
  searchTimeout : Option ℚ := some 0
  searchExceptionType : Option Text := some (lit "none")
  searchResponseTruncated : Option ℚ := some 0

/-- `value > 0`, which is false of NaN. -/
def isPositive (value : Option ℚ) : Bool := value.any fun q => 0 < q

/-! ## Detectors -/

def detectToolAnomalies (toolMetrics : ToolMetrics) : List AnomalyType :=
  (if isPositive toolMetrics.searchTimeout then [toolTimeout] else []) ++
  (if toolMetrics.searchExceptionType = some (lit "http_error") then [toolHttpError] else []) ++
  (if toolMetrics.searchExceptionType = some (lit "parse_error") then [toolParseError] else []) ++
  (if isPositive toolMetrics.searchResponseTruncated then [toolResponseTruncated] else [])

def detectRolloutAnomalies (responseLength maxResponseLength numToolCalls maxToolCalls : ℤ) :
    List AnomalyType :=
  (if responseLength ≥ maxResponseLength then [sequenceTruncated] else []) ++
  (if numToolCalls > maxToolCalls then [maxToolCallsExceeded] else [])

def detectFormatAnomalies (hasAnswer hasValidFormat answerCorrect : Bool) : List AnomalyType :=
  (if !hasAnswer then [noFinalAnswer] else if !answerCorrect then [wrongAnswer] else []) ++
  (if !hasValidFormat && hasAnswer then [invalidAnswerFormat] else [])

/-! ## Filtering -/

/-- What the constructor is given; a set of anomalies is a list of them. -/
structure Config where
  maskOn : Option (List AnomalyType) := none
  minValidTrajectories : ℤ := 2
  maxToolCalls : ℤ := 10

/-- `mask_on or DEFAULT_MASK_ON`, which takes an empty set for a missing one. -/
def Config.effectiveMaskOn (cfg : Config) : List AnomalyType :=
  match cfg.maskOn with
  | none => defaultMaskOn
  | some maskOn => if maskOn.isEmpty then defaultMaskOn else maskOn

/-- A trajectory as `filter_group` reads it, with the defaults of its lookups. -/
structure Trajectory where
  toolMetrics : ToolMetrics := {}
  responseLength : ℤ := 0
  maxResponseLength : ℤ := 1
  numToolCalls : ℤ := 0
  hasAnswer : Bool := false
  hasValidFormat : Bool := false
  answerCorrect : Bool := false

/-- Whether the trajectory is masked, and its anomalies. -/
def classifyTrajectory (cfg : Config) (traj : Trajectory) : Bool × List AnomalyType :=
  let anomalies := detectToolAnomalies traj.toolMetrics ++
    detectRolloutAnomalies traj.responseLength traj.maxResponseLength traj.numToolCalls
      cfg.maxToolCalls ++
    detectFormatAnomalies traj.hasAnswer traj.hasValidFormat traj.answerCorrect
  (anomalies.any fun a => cfg.effectiveMaskOn.contains a, anomalies)

structure SkippedInfo where
  nTotal : ℕ
  nValid : ℕ
  nMasked : ℕ
  minRequired : ℤ
  anomaliesPerTraj : List (List AnomalyType)

structure GroupResult where
  validIndices : List ℕ
  maskedIndices : List ℕ
  skippedInfo : Option SkippedInfo

/-- The indices of a group that are masked or not, before the minimum is applied. -/
def splitIndices (cfg : Config) (group : List Trajectory) (masked : Bool) : List ℕ :=
  (group.zipIdx.filter fun p => (classifyTrajectory cfg p.1).1 = masked).map Prod.snd

def filterGroup (cfg : Config) (group : List Trajectory) : GroupResult :=
  let validIndices := splitIndices cfg group false
  let maskedIndices := splitIndices cfg group true
  if validIndices.length < cfg.minValidTrajectories then
    { validIndices := []
      maskedIndices := List.range group.length
      skippedInfo := some
        { nTotal := group.length
          nValid := validIndices.length
          nMasked := maskedIndices.length
          minRequired := cfg.minValidTrajectories
          anomaliesPerTraj := group.map fun traj => (classifyTrajectory cfg traj).2 } }
  else { validIndices, maskedIndices, skippedInfo := none }

end SearchR1.TrajectoryFilter
