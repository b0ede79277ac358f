import SearchR1.Library.Dict
import SearchR1.Library.Runs
import SearchR1.Model.SearchTool
import SearchR1.Model.ToolParser
import Mathlib.Algebra.Order.Ring.Rat

/-! # The tool agent loop

The state machine of a rollout with the Hermes format and text tools, in the mode without
continuous tokens. -/

namespace SearchR1.ToolAgentLoop

open PyText PyJson ToolParser

/-! ## Extra fields -/

/-- A value of `extra_fields` or `extra_info`; `other` stands for what is carried along only. -/
inductive Field where
  | none
  | num (q : ℚ)
  | str (t : Text)
  | nums (qs : List ℚ)
  | other
  deriving DecidableEq

def Field.truthy : Field → Bool
  | .none => false
  | .num q => q ≠ 0
  | .str t => !t.isEmpty
  | .nums qs => !qs.isEmpty
  | .other => true

/-- `int(value)`. -/
def Field.toInt {F : Type} (py : Python F) : Field → Option ℤ
  | .num q => some (Int.tdiv q.num q.den)
  | .str t => py.intOfStr t
  | _ => Option.none

abbrev Fields := Dict Text Field

def isToolKey (key : Text) : Bool := (lit "tool/").isPrefixOf key

/-- Fields that come from outside the tools. -/
structure ForeignFields where
  fields : Fields
  not_tool : ∀ key ∈ fields.keys, isToolKey key = false

/-- The metrics dictionary of a search call. -/
def metricItems (m : SearchTool.SearchMetrics) : Fields :=
  [(lit "tool/search_called", .num m.called),
    (lit "tool/search_success", .num m.success),
    (lit "tool/search_failed", .num m.failed),
    (lit "tool/search_timeout", .num m.timeout),
    (lit "tool/search_empty_query", .num m.emptyQuery),
    (lit "tool/search_latency_ms", .num m.latencyMs),
    (lit "tool/search_num_docs", .num m.numDocs),
    (lit "tool/search_response_truncated", .num m.responseTruncated),
    (lit "tool/search_exception_type", .str m.exceptionType.name)]

/-- One item of `tool_metrics`: numbers are added, of the texts other than `none` the first one
is kept. A number on top of another value raises. -/
def accumulateItem (extraFields : Fields) (item : Text × Field) : Option Fields :=
  match item.2 with
  | .num v =>
      match (extraFields.get? item.1).getD (.num 0) with
      | .num prev => some (extraFields.set item.1 (.num (prev + v)))
      | _ => none
  | .str v =>
      if v ≠ lit "none" then some (extraFields.setdefault item.1 (.str v)) else some extraFields
  | _ => some extraFields

def accumulate (extraFields : Fields) (toolMetrics : Fields) : Option Fields :=
  toolMetrics.foldlM accumulateItem extraFields

/-- The loop over the responses of the tools. -/
def accumulateAll (extraFields : Fields) (metrics : List SearchTool.SearchMetrics) :
    Option Fields :=
  metrics.foldlM (fun fields m => accumulate fields (metricItems m)) extraFields

/-! ## Settings and data -/

abbrev TokenId := ℕ

/-- `xs[-n:]`. -/
def lastItems {α : Type} (xs : List α) (n : ℕ) : List α :=
  if n = 0 then xs else xs.drop (xs.length - n)

inductive TruncateSide where
  | left
  | right
  | middle

/-- A limit on turns that is unset is 0. -/
structure Config where
  responseLength : ℕ
  maxUserTurns : ℕ := 0
  maxAssistantTurns : ℕ := 0
  maxParallelCalls : ℕ := 1
  maxToolResponseLength : ℕ := 256
  toolResponseTruncateSide : TruncateSide := .middle

/-- The tokenizer with its chat template; `toolTurn` renders the tool messages of a turn. -/
structure Tokenizer where
  decode : List TokenId → Text
  decodeVisible : List TokenId → Text
  toolTurn : List Text → List TokenId
  turnSeparator : List TokenId
  decode_nil : decode [] = []

/-- What a rollout worker holds: every active tool is a search tool. -/
structure Worker (F : Type) where
  py : Python F
  raisedText : SearchTool.Raised F → Text
  tokenizer : Tokenizer
  searchTool : SearchTool.Config
  activeTools : List Text
  config : Config

structure TokenOutput where
  tokenIds : List TokenId
  extraFields : ForeignFields

structure AgentData where
  toolMessages : List Text := []
  promptIds : List TokenId := []
  responseIds : List TokenId := []
  responseMask : List Bool := []
  toolRewards : List ℚ := []
  userTurns : ℕ := 0
  assistantTurns : ℕ := 0
  toolCalls : List FunctionCall := []
  extraFields : Fields := []
  deriving DecidableEq

/-- Which `return AgentState.TERMINATED` ended the loop. -/
inductive Exit where
  | responseLength
  | assistantTurns
  | userTurns
  | noToolCalls
  | toolResponseLength
  deriving DecidableEq

inductive AgentState where
  | pending
  | generating
  | processingTools
  | terminated (exit : Exit)
  deriving DecidableEq

variable {F : Type} (w : Worker F)

/-! ## Handlers -/

/-- `_handle_pending_state`, with the rendered prompt. -/
def handlePendingState (promptIds : List TokenId) (d : AgentData) : AgentState × AgentData :=
  (.generating, { d with promptIds })

def specDecodeExtraKeys : List Text :=
  [lit "spec_num_draft_tokens", lit "spec_num_accepted_tokens", lit "spec_num_verify_steps"]

/-- One round of the loop over `SPEC_DECODE_EXTRA_KEYS`. -/
def addSpecDecode (output extraFields : Fields) (key : Text) : Option Fields :=
  match output.get? key, extraFields.get? key with
  | some new, some old => do
      let old ← old.toInt w.py
      let new ← new.toInt w.py
      return extraFields.set key (.num (old + new))
  | _, _ => some extraFields

/-- The fields of a generation: all of them at first, the counters later on. -/
def mergeOutputFields (extraFields output : Fields) : Option Fields :=
  if extraFields.isEmpty then some (extraFields.update output)
  else
    let maxGlobalSteps := (output.get? (lit "max_global_steps")).getD .none
    let extraFields := if maxGlobalSteps.truthy then
      extraFields.set (lit "max_global_steps") maxGlobalSteps else extraFields
    specDecodeExtraKeys.foldlM (addSpecDecode w output) extraFields

/-- `_handle_generating_state`. -/
def handleGeneratingState (output : TokenOutput) (d : AgentData) :
    Option (AgentState × AgentData) := do
  let extraFields ← mergeOutputFields w d.extraFields output.extraFields.fields
  let d := { d with
    extraFields
    assistantTurns := d.assistantTurns + 1
    responseIds := output.tokenIds
    promptIds := d.promptIds ++ output.tokenIds
    responseMask := d.responseMask ++ List.replicate output.tokenIds.length true }
  if d.responseMask.length ≥ w.config.responseLength then
    return (.terminated .responseLength, d)
  if w.config.maxAssistantTurns ≠ 0 ∧ d.assistantTurns ≥ w.config.maxAssistantTurns then
    return (.terminated .assistantTurns, d)
  if w.config.maxUserTurns ≠ 0 ∧ d.userTurns ≥ w.config.maxUserTurns then
    return (.terminated .userTurns, d)
  let d := { d with toolCalls := (extractToolCalls w.py (w.tokenizer.decode d.responseIds)).2 }
  return (if d.toolCalls.isEmpty then .terminated .noToolCalls else .processingTools, d)

def truncateToolResponse (text : Text) : Text :=
  let limit := w.config.maxToolResponseLength
  if text.length > limit then
    match w.config.toolResponseTruncateSide with
    | .left => lit "(truncated)..." ++ lastItems text limit
    | .right => text.take limit ++ lit "...(truncated)"
    | .middle => text.take (limit / 2) ++ lit "...(truncated)..." ++ lastItems text (limit / 2)
  else text

/-- `_call_tool`: the text of the response, and the metrics when `execute` returned. The reward
is 0 in every case. -/
def callTool (toolCall : FunctionCall) (service : SearchTool.Service) :
    Text × Option SearchTool.SearchMetrics :=
  if toolCall.name ∉ w.activeTools then
    let available := w.py.str (.arr (w.activeTools.map .str))
    (lit "Unknown function '" ++ toolCall.name ++ lit "'. Available tools: " ++ available, none)
  else
    match loads w.py.json toolCall.arguments with
    | none => (lit "Invalid JSON in arguments for '" ++ toolCall.name ++ lit "': " ++
        w.py.decodeError toolCall.arguments, none)
    | some toolArgs =>
        match SearchTool.execute w.py w.searchTool toolArgs service with
        | .error e => (lit "Error executing tool '" ++ toolCall.name ++ lit "': " ++
            w.raisedText e, none)
        | .ok (response, metrics) => (truncateToolResponse w response.text, some metrics)

/-- The calls of a turn, each with the retrieval service as it meets it. -/
def callTools (services : ℕ → SearchTool.Service) (toolCalls : List FunctionCall) :
    List (Text × Option SearchTool.SearchMetrics) :=
  ((toolCalls.take w.config.maxParallelCalls).zipIdx).map fun call =>
    callTool w call.1 (services call.2)

/-- `_handle_processing_tools_state`, with the metrics the calls returned. -/
def handleProcessingToolsState (services : ℕ → SearchTool.Service) (d : AgentData) :
    Option (AgentState × AgentData × List SearchTool.SearchMetrics) := do
  let responses := callTools w services d.toolCalls
  let returned := responses.filterMap Prod.snd
  let extraFields ← accumulateAll d.extraFields returned
  let addMessages := responses.map Prod.fst
  let d := { d with
    extraFields
    toolRewards := d.toolRewards ++ responses.map fun _ => 0
    toolMessages := d.toolMessages ++ addMessages }
  let responseIds := w.tokenizer.turnSeparator ++ w.tokenizer.toolTurn addMessages
  if d.responseMask.length + responseIds.length ≥ w.config.responseLength then
    return (.terminated .toolResponseLength, d, returned)
  let d := { d with
    promptIds := d.promptIds ++ responseIds
    responseMask := d.responseMask ++ List.replicate responseIds.length false
    userTurns := d.userTurns + 1 }
  return (.generating, d, returned)

/-! ## Runs -/

/-- One round of the loop of `run`, with the metrics that search calls returned in it. -/
inductive Step : AgentState × AgentData → List SearchTool.SearchMetrics →
    AgentState × AgentData → Prop where
  | pending {d : AgentData} (promptIds : List TokenId) :
      Step (.pending, d) [] (handlePendingState promptIds d)
  | generating {d : AgentData} {next : AgentState × AgentData} (output : TokenOutput) :
      handleGeneratingState w output d = some next → Step (.generating, d) [] next
  | processingTools {d d' : AgentData} {state : AgentState}
      {returned : List SearchTool.SearchMetrics} (services : ℕ → SearchTool.Service) :
      handleProcessingToolsState w services d = some (state, d', returned) →
      Step (.processingTools, d) returned (state, d')

/-- The state machine, which emits the metrics of the executed search calls. -/
def machine : Runs.Machine (AgentState × AgentData) SearchTool.SearchMetrics where
  init s := s = (.pending, {})
  step := Step w

/-- `run` reaches the state, and its search calls returned these metrics so far. -/
def Reaches (state : AgentState) (d : AgentData) (returned : List SearchTool.SearchMetrics) :
    Prop :=
  Runs.Run (machine w) (state, d) returned

/-! ## Output -/

structure AgentLoopOutput where
  promptIds : List TokenId
  responseIds : List TokenId
  responseMask : List Bool
  numTurns : ℕ
  extraFields : Fields

/-- The output of `run` once it has terminated. -/
def finalizeOutput (d : AgentData) : AgentLoopOutput where
  promptIds := d.promptIds.take (d.promptIds.length - d.responseMask.length)
  responseIds := (lastItems d.promptIds d.responseMask.length).take w.config.responseLength
  responseMask := d.responseMask.take w.config.responseLength
  numTurns := d.userTurns + d.assistantTurns + 1
  extraFields := d.extraFields.update
    [(lit "turn_scores", .nums []), (lit "tool_rewards", .nums d.toolRewards)]

end SearchR1.ToolAgentLoop
