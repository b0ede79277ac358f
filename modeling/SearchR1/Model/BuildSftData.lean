import SearchR1.Model.AnswerMatching

/-! # Building the SFT data from teacher trajectories -/

namespace SearchR1.BuildSftData

open PyText PyJson

inductive Role where
  | system
  | user
  | assistant
  | tool
  | other (name : Text)
  deriving DecidableEq

structure Message where
  role : Role
  content : Text
  deriving DecidableEq

variable {F : Type} (py : Python F)

def toolCallPattern (content : Text) : List Text :=
  strippedBlocks toolCallOpen toolCallClose content

def answerPattern (content : Text) : List Text := strippedBlocks answerOpen answerClose content

def searchFailureMarkers : List Text :=
  [lit "Search failed:", lit "timed out", lit "HTTP error", lit "Unexpected error",
    lit "Query is empty"]

/-! ## Tool calls -/

/-- `value == "search"`. -/
def isSearch : Json F → Bool
  | .str name => name = lit "search"
  | _ => false

/-- `isinstance(query, str) and query.strip()`. -/
def isNonBlankStr : Json F → Bool
  | .str query => !(strip query).isEmpty
  | _ => false

/-- The validation of one call body; the error is the text of the `ValueError`. -/
def parseToolCall (rawStripped : Text) : Except Text (Dict Text (Json F)) :=
  match loads py.json rawStripped with
  | none => .error (lit "tool_call is not valid JSON: " ++ py.decodeError rawStripped)
  | some (.obj payload) =>
      let name := (Dict.get? payload (lit "name")).getD .null
      if !isSearch name then
        .error (lit "Tool name must be 'search', got '" ++ py.text name ++ lit "'.")
      else
        match Dict.get? payload (lit "arguments") with
        | some (.obj arguments) =>
            if !isNonBlankStr ((Dict.get? arguments (lit "query")).getD .null) then
              .error (lit "Search query must be a non-empty string.")
            else
              let topk := (Dict.get? arguments (lit "topk")).getD (.int 3)
              match asInt topk with
              | none => .error (lit "topk must be an integer, got " ++ typeName topk ++ lit ".")
              | some n =>
                  if 1 ≤ n ∧ n ≤ 5 then .ok payload
                  else .error (lit "topk must be between 1 and 5, got " ++ py.text topk ++ lit ".")
        | _ => .error (lit "Tool arguments must be a JSON object.")
  | some _ => .error (lit "Tool call payload must be a JSON object.")

/-- The bodies that are not skipped as blank. -/
def callBodies (content : Text) : List Text :=
  ((toolCallPattern content).map strip).filter fun b => !b.isEmpty

def parseToolCalls (content : Text) : Except Text (List (Dict Text (Json F))) :=
  (callBodies content).mapM (parseToolCall py)

def assistantContents (trajectory : List Message) : List Text :=
  (trajectory.filter fun turn => turn.role = .assistant).map Message.content

/-- `validate_tool_calls`; the error is the reason. -/
def validateToolCalls (trajectory : List Message) : Except Text Unit := do
  let calls ← (assistantContents trajectory).mapM (parseToolCalls py)
  if (calls.map List.length).sum = 0 then .error (lit "no_tool_call") else .ok ()

def countToolCalls (trajectory : List Message) : ℕ :=
  ((assistantContents trajectory).map fun content =>
    match parseToolCalls py content with
    | .ok calls => calls.length
    | .error _ => (toolCallPattern content).length).sum

/-! ## Role sequence -/

def roleText : Role → Text
  | .system => lit "system"
  | .user => lit "user"
  | .assistant => lit "assistant"
  | .tool => lit "tool"
  | .other name => name

/-- The check of a tool message against the message at `index - 1`. -/
def checkTool (previous : Option Message) (message : Message) : Except Text Unit :=
  if message.role = .tool then
    match previous with
    | none => .error (lit "orphan_tool_response")
    | some previous =>
        if previous.role ≠ .assistant then .error (lit "orphan_tool_response")
        else if ¬ contains toolCallOpen previous.content then
          .error (lit "tool_without_tool_call")
        else .ok ()
  else .ok ()

/-- The check of an assistant message against the message at `index + 1`. -/
def checkAssistant (message : Message) (next : Option Message) : Except Text Unit :=
  if message.role = .assistant ∧ contains toolCallOpen message.content then
    match next with
    | none => .error (lit "missing_tool_response")
    | some next => if next.role ≠ .tool then .error (lit "missing_tool_response") else .ok ()
  else .ok ()

/-- The loop over the messages that are not system messages. -/
def checkMessages (previous : Option Message) : List Message → Except Text Unit
  | [] => .ok ()
  | message :: rest => do
      checkTool previous message
      checkAssistant message rest.head?
      checkMessages (some message) rest

def isKnownRole : Role → Bool
  | .other _ => false
  | _ => true

def nonSystem (messages : List Message) : List Message :=
  messages.filter fun m => m.role ≠ .system

def validateRoleSequence (messages : List Message) : Except Text Unit :=
  match messages.find? fun m => !isKnownRole m.role with
  | some m => .error (lit "unknown_role: " ++ roleText m.role)
  | none =>
      match nonSystem messages with
      | [] => .error (lit "empty_messages")
      | first :: rest =>
          if first.role ≠ .user then .error (lit "missing_user")
          else checkMessages none (first :: rest)

/-! ## Tool responses and answers -/

def isFailedToolResponse (content : Text) : Bool :=
  searchFailureMarkers.any (contains · content) ||
    (!contains informationOpen content || !contains informationClose content) ||
    match (blocks informationOpen informationClose content).head? with
    | none => true
    | some inner => (strip inner).isEmpty

def hasFailedToolResponse (trajectory : List Message) : Bool :=
  trajectory.any fun turn => turn.role = .tool && isFailedToolResponse turn.content

/-- The last of the answers of the last assistant message that has any. -/
def extractFinalAnswer (trajectory : List Message) : Text :=
  match (assistantContents trajectory).reverse.find? fun c => !(answerPattern c).isEmpty with
  | none => []
  | some content => strip ((answerPattern content).getLast?.getD [])

def hasFinalAnswer (trajectory : List Message) : Bool :=
  (assistantContents trajectory).reverse.any fun c => !(answerPattern c).isEmpty

/-- The number of tokens the tokenizer's chat template gives for the messages and the tool
schema, or `none` when it raises. -/
abbrev Tokenizer := List Message → Option ℕ

def checkTokenLength (trajectory : List Message) (tokenizer : Option Tokenizer)
    (maxLength : ℤ) : Bool :=
  match tokenizer with
  | none => true
  | some tokenize =>
      match tokenize trajectory with
      | none => false
      | some tokenLength => tokenLength ≤ maxLength

/-! ## Main -/

structure Args where
  tokenizer : Option Tokenizer := none
  maxLength : ℤ := 4096
  maxTurns : ℤ := 3
  maxToolCalls : ℤ := 2

/-- An input record. -/
structure Example where
  question : Text
  trajectory : List Message
  answer : List Text
  dataSource : Text

structure Metadata where
  question : Text
  answers : List Text
  dataSource : Text
  numToolCalls : ℕ
  emCorrect : Bool
  retrievalSuccess : Bool

structure OutputRecord where
  messages : List Message
  metadata : Metadata

/-- The counters of discarded records. -/
inductive Discard where
  | noToolCall
  | invalidToolJson
  | invalidToolName
  | emptyQuery
  | failedRetrieval
  | missingToolResponse
  | invalidRoleSequence
  | missingFinalAnswer
  | wrongAnswer
  | tooManyTurns
  | tooManyToolCalls
  | tooLong
  deriving DecidableEq

/-- The counter a reason of `validate_tool_calls` belongs to. -/
def toolDiscard (reason : Text) : Discard :=
  if reason = lit "no_tool_call" then .noToolCall
  else if contains (lit "JSON") reason then .invalidToolJson
  else if contains (lit "name") reason then .invalidToolName
  else if contains (lit "query") (py.lower reason) then .emptyQuery
  else .invalidToolJson

/-- The counter a reason of `validate_role_sequence` belongs to. -/
def sequenceDiscard (reason : Text) : Discard :=
  if reason = lit "missing_tool_response" then .missingToolResponse
  else if (lit "orphan").isPrefixOf reason ∨ reason = lit "tool_without_tool_call" then
    .missingToolResponse
  else .invalidRoleSequence

/-- The eight checks on one record: the counter of the first that fails, or the number of
tool calls of a record that is kept. -/
def examine (args : Args) (example_ : Example) : Except Discard ℕ :=
  let trajectory := example_.trajectory
  match validateToolCalls py trajectory with
  | .error reason => .error (toolDiscard py reason)
  | .ok () =>
  let numToolCalls := countToolCalls py trajectory
  if !hasFinalAnswer trajectory then .error .missingFinalAnswer
  else
  let predictedAnswer := extractFinalAnswer trajectory
  if predictedAnswer.isEmpty || !emCheck py predictedAnswer example_.answer then
    .error .wrongAnswer
  else if hasFailedToolResponse trajectory then .error .failedRetrieval
  else
  match validateRoleSequence trajectory with
  | .error reason => .error (sequenceDiscard reason)
  | .ok () =>
  if (assistantContents trajectory).length > args.maxTurns then .error .tooManyTurns
  else if numToolCalls > args.maxToolCalls then .error .tooManyToolCalls
  else if !checkTokenLength trajectory args.tokenizer args.maxLength then .error .tooLong
  else .ok numToolCalls

structure DatasetStats where
  total : ℕ := 0
  kept : ℕ := 0

structure Stats where
  total : ℕ := 0
  kept : ℕ := 0
  discarded : Discard → ℕ := fun _ => 0

structure State where
  stats : Stats := {}
  datasetStats : Dict Text DatasetStats := []
  output : List OutputRecord := []

def outputRecord (example_ : Example) (numToolCalls : ℕ) : OutputRecord where
  messages := example_.trajectory
  metadata :=
    { question := example_.question
      answers := example_.answer
      dataSource := example_.dataSource
      numToolCalls := numToolCalls
      emCorrect := true
      retrievalSuccess := true }

def countDataset (f : DatasetStats → DatasetStats) (st : Dict Text DatasetStats)
    (dataSource : Text) : Dict Text DatasetStats :=
  Dict.set st dataSource (f ((Dict.get? st dataSource).getD {}))

/-- One round of the loop over the records. -/
def processExample (args : Args) (st : State) (example_ : Example) : State :=
  let total := { st.stats with total := st.stats.total + 1 }
  let datasets := countDataset (fun d => { d with total := d.total + 1 }) st.datasetStats
    example_.dataSource
  match examine py args example_ with
  | .error reason =>
      { st with
        stats := { total with
          discarded := fun r => total.discarded r + if r = reason then 1 else 0 }
        datasetStats := datasets }
  | .ok numToolCalls =>
      { stats := { total with kept := total.kept + 1 }
        datasetStats := countDataset (fun d => { d with kept := d.kept + 1 }) datasets
          example_.dataSource
        output := st.output ++ [outputRecord example_ numToolCalls] }

/-! ## Reading records -/

def readRole : Option (Json F) → Option Role
  | none => some (.other (lit "None"))
  | some (.str t) => some
      (if t = lit "system" then .system
      else if t = lit "user" then .user
      else if t = lit "assistant" then .assistant
      else if t = lit "tool" then .tool
      else .other t)
  | some (.arr _) | some (.obj _) => none
  | some v => some (.other (py.text v))

def readText (default : Text) : Option (Json F) → Option Text
  | none => some default
  | some (.str t) => some t
  | some _ => none

def readMessage : Json F → Option Message
  | .obj ms => do
      let role ← readRole py (Dict.get? ms (lit "role"))
      let content ← readText [] (Dict.get? ms (lit "content"))
      return { role, content }
  | _ => none

def readTrajectory : Option (Json F) → Option (List Message)
  | none => some []
  | some (.arr vs) => vs.mapM (readMessage py)
  | some _ => none

/-- A single answer stands for a list of one. -/
def readAnswer : Option (Json F) → Option (List Text)
  | none => some []
  | some (.str t) => some [t]
  | some (.arr vs) => vs.mapM fun v => readText [] (some v)
  | some _ => none

/-- The fields of a record with their defaults. Records of other shapes are not modelled. -/
def readExample : Json F → Option Example
  | .obj ms => do
      let question ← readText [] (Dict.get? ms (lit "question"))
      let trajectory ← readTrajectory py (Dict.get? ms (lit "trajectory"))
      let answer ← readAnswer (Dict.get? ms (lit "answer"))
      let dataSource ← readText (lit "unknown") (Dict.get? ms (lit "data_source"))
      return { question, trajectory, answer, dataSource }
  | _ => none

/-- The lines of the input file; `none` when a line is no record. -/
def readLines (lines : List Text) : Option (List Example) :=
  ((lines.map strip).filter fun line => !line.isEmpty).mapM fun line =>
    (loads py.json line).bind (readExample py)

/-- `main` on the lines of the input file. -/
def main (args : Args) (lines : List Text) : Option State :=
  (readLines py lines).map fun examples => examples.foldl (processExample py args) {}

end SearchR1.BuildSftData
