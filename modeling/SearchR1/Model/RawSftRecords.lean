import SearchR1.Library.Monadic
import SearchR1.Model.BuildSftData

/-! # Building the SFT data from records of any shape

The functions of `build_sft_data` on the values that `json.loads` gives, with what raises where
a value is no message or no text. -/

namespace SearchR1.BuildSftData.Raw

open PyText PyJson PyLoop

variable {F : Type} (py : Python F)

/-- What a function raises: a `ValueError` with its text, or another exception. -/
inductive Raised where
  | valueError (reason : Text)
  | other
  deriving DecidableEq

/-! ## Values -/

/-- `value.get(key, default)`, which only dictionaries have. -/
def get (value : Json F) (key : String) (default : Json F) : Except Raised (Json F) :=
  match value with
  | .obj ms => .ok ((Dict.get? ms (lit key)).getD default)
  | _ => .error .other

/-- `value == text`. -/
def isText (text : Text) : Json F → Bool
  | .str t => t = text
  | _ => false

/-- What a pattern or a method of texts is applied to. -/
def asText : Json F → Except Raised Text
  | .str t => .ok t
  | _ => .error .other

/-- `text in value`. -/
def isIn (text : Text) : Json F → Except Raised Bool
  | .str t => .ok (contains text t)
  | .arr vs => .ok (vs.any (isText text))
  | .obj ms => .ok (ms.any fun m => m.1 = text)
  | _ => .error .other

/-- `for item in value`. -/
def iterate : Json F → Except Raised (List (Json F))
  | .arr vs => .ok vs
  | .str t => .ok (t.map fun c => .str [c])
  | .obj ms => .ok (ms.map fun m => .str m.1)
  | _ => .error .other

def hasRole (role : String) (turn : Json F) : Except Raised Bool := do
  return isText (lit role) (← get turn "role" .null)

def content (turn : Json F) : Except Raised (Json F) := get turn "content" (.str [])

/-! ## Tool calls -/

def parseToolCalls (content : Json F) : Except Raised (List (Dict Text (Json F))) := do
  match BuildSftData.parseToolCalls py (← asText content) with
  | .ok calls => .ok calls
  | .error reason => .error (.valueError reason)

/-- One round of the loop of `validate_tool_calls`. -/
def validateTurn (turn : Json F) : Except Raised ℕ := do
  if ← hasRole "assistant" turn then
    return (← parseToolCalls py (← content turn)).length
  else return 0

/-- `validate_tool_calls`; the result is the reason of a rejection. -/
def validateToolCalls (trajectory : List (Json F)) : Except Raised (Option Text) :=
  match trajectory.mapM (validateTurn py) with
  | .ok calls => .ok (if calls.sum = 0 then some (lit "no_tool_call") else none)
  | .error (.valueError reason) => .ok (some reason)
  | .error .other => .error .other

/-- One round of the loop of `count_tool_calls`. -/
def countTurn (turn : Json F) : Except Raised ℕ := do
  if ← hasRole "assistant" turn then
    let content ← content turn
    match parseToolCalls py content with
    | .ok calls => return calls.length
    | .error (.valueError _) => return (toolCallPattern (← asText content)).length
    | .error .other => .error .other
  else return 0

def countToolCalls (trajectory : List (Json F)) : Except Raised ℕ := do
  return (← trajectory.mapM (countTurn py)).sum

/-! ## Role sequence -/

/-- One round of the first loop of `validate_role_sequence`: the role when it is none of the four.
A list or a dictionary is in no set. -/
def unknownRole (message : Json F) : Except Raised (Option Text) :=
  match message with
  | .obj ms =>
      match readRole py (Dict.get? ms (lit "role")) with
      | none => .error .other
      | some role => .ok (if isKnownRole role then none else some (roleText role))
  | _ => .error .other

/-- One round of the loop over the messages that are not system messages: the reason of a
violation. -/
def checkMessage (previous : Option (Json F)) (message : Json F) (next : Option (Json F)) :
    Except Raised (Option Text) := do
  let role ← get message "role" .null
  let messageContent ← content message
  if isText (lit "tool") role then
    match previous with
    | none => return some (lit "orphan_tool_response")
    | some previous =>
        if !(← hasRole "assistant" previous) then return some (lit "orphan_tool_response")
        if !(← isIn toolCallOpen (← content previous)) then
          return some (lit "tool_without_tool_call")
        return none
  else if isText (lit "assistant") role then
    if !(← isIn toolCallOpen messageContent) then return none
    match next with
    | none => return some (lit "missing_tool_response")
    | some next =>
        if !(← hasRole "tool" next) then return some (lit "missing_tool_response")
        return none
  else return none

def checkMessages (previous : Option (Json F)) : List (Json F) → Except Raised (Option Text)
  | [] => .ok none
  | message :: rest => do
      match ← checkMessage previous message rest.head? with
      | some reason => return some reason
      | none => checkMessages (some message) rest

def nonSystem (messages : List (Json F)) : Except Raised (List (Json F)) :=
  messages.filterM fun m => do return !(← hasRole "system" m)

/-- `validate_role_sequence`; the result is the reason of a rejection. -/
def validateRoleSequence (messages : List (Json F)) : Except Raised (Option Text) := do
  match ← firstSome (unknownRole py) messages with
  | some role => return some (lit "unknown_role: " ++ role)
  | none =>
      match ← nonSystem messages with
      | [] => return some (lit "empty_messages")
      | first :: rest =>
          if !(← hasRole "user" first) then return some (lit "missing_user")
          checkMessages none (first :: rest)

/-! ## Tool responses and answers -/

/-- One round of the loop of `has_failed_tool_response`. -/
def failedTurn (turn : Json F) : Except Raised (Option Unit) := do
  if !(← hasRole "tool" turn) then return none
  let content ← content turn
  if ← searchFailureMarkers.anyM fun marker => isIn marker content then return some ()
  if !(← isIn informationOpen content) then return some ()
  if !(← isIn informationClose content) then return some ()
  match (blocks informationOpen informationClose (← asText content)).head? with
  | none => return some ()
  | some inner => return if (strip inner).isEmpty then some () else none

def hasFailedToolResponse (trajectory : List (Json F)) : Except Raised Bool := do
  return (← firstSome failedTurn trajectory).isSome

/-- The last answer of an assistant message that has any. -/
def turnAnswer (turn : Json F) : Except Raised (Option Text) := do
  if !(← hasRole "assistant" turn) then return none
  return (answerPattern (← asText (← content turn))).getLast?.map strip

def extractFinalAnswer (trajectory : List (Json F)) : Except Raised Text := do
  return (← firstSome turnAnswer trajectory.reverse).getD []

def hasFinalAnswer (trajectory : List (Json F)) : Except Raised Bool := do
  return (← firstSome turnAnswer trajectory.reverse).isSome

/-- One round of the loop of `em_check`. -/
def matchAnswer (prediction : Text) (goldenAnswer : Json F) : Except Raised (Option Unit) := do
  let answer ← asText goldenAnswer
  return if normalizeAnswer py answer = normalizeAnswer py prediction then some () else none

def emCheck (prediction : Text) (goldenAnswers : Json F) : Except Raised Bool := do
  return (← firstSome (matchAnswer py prediction) (← iterate goldenAnswers)).isSome

/-- The tokenizer on the messages as they stand in a record. -/
abbrev Tokenizer (F : Type) := List (Json F) → Option ℕ

def checkTokenLength (trajectory : List (Json F)) (tokenizer : Option (Tokenizer F))
    (maxLength : ℤ) : Bool :=
  match tokenizer with
  | none => true
  | some tokenize =>
      match tokenize trajectory with
      | none => false
      | some tokenLength => tokenLength ≤ maxLength

/-! ## Main -/

/-- The arguments, and the sameness of dictionary keys of the interpreter. -/
structure Args (F : Type) where
  sameKey : Json F → Json F → Bool
  tokenizer : Option (Tokenizer F) := none
  maxLength : ℤ := 4096
  maxTurns : ℤ := 3
  maxToolCalls : ℤ := 2

structure State (F : Type) where
  stats : Stats := {}
  datasetStats : List (Json F × DatasetStats) := []
  output : List (Json F) := []

/-- `stats[reason] += 1`. -/
def State.bump (st : State F) (reason : Discard) : State F :=
  { st with
    stats := { st.stats with
      discarded := fun r => st.stats.discarded r + if r = reason then 1 else 0 } }

/-- `hash(key)`, which lists and dictionaries have not. -/
def hash : Json F → Except Raised Unit
  | .arr _ => .error .other
  | .obj _ => .error .other
  | _ => .ok ()

/-- The entry for a key, new when there is none. -/
def initDataset (sameKey : Json F → Json F → Bool) (d : List (Json F × DatasetStats))
    (key : Json F) : List (Json F × DatasetStats) :=
  if d.any fun e => sameKey e.1 key then d else d ++ [(key, { total := 0, kept := 0 })]

/-- `dataset_stats[key]` updated in place; a missing key raises. -/
def countDataset (sameKey : Json F → Json F → Bool) (f : DatasetStats → DatasetStats) :
    List (Json F × DatasetStats) → Json F → Except Raised (List (Json F × DatasetStats))
  | [], _ => .error .other
  | e :: d, key =>
      if sameKey e.1 key then .ok ((e.1, f e.2) :: d)
      else (countDataset sameKey f d key).map (e :: ·)

def searchToolSchema : Json F :=
  .arr [.obj [(lit "type", .str (lit "function")),
    (lit "function", .obj [(lit "name", .str (lit "search")),
      (lit "description", .str (lit ("Search Wikipedia passages relevant to a factual question. " ++
        "Returns the top-k passages formatted as <information>...</information>."))),
      (lit "parameters", .obj [(lit "type", .str (lit "object")),
        (lit "properties", .obj [
          (lit "query", .obj [(lit "type", .str (lit "string")),
            (lit "description", .str (lit "The search query string."))]),
          (lit "topk", .obj [(lit "type", .str (lit "integer")),
            (lit "description", .str (lit "Number of passages to retrieve, from 1 to 5."))])]),
        (lit "required", .arr [.str (lit "query")])])])]]

def outputRecord (question trajectory goldenAnswers dataSource : Json F) (numToolCalls : ℕ) :
    Json F :=
  .obj [(lit "messages", trajectory),
    (lit "tools", .str (dumps py.json searchToolSchema)),
    (lit "metadata", .obj [(lit "question", question), (lit "answers", goldenAnswers),
      (lit "data_source", dataSource), (lit "num_tool_calls", .int numToolCalls),
      (lit "em_correct", .bool true), (lit "retrieval_success", .bool true)])]

/-- `isinstance(golden_answers, str)`: a single answer stands for a list of one. -/
def listAnswers : Json F → Json F
  | .str t => .arr [.str t]
  | v => v

/-- The checks of the loop body from the first one on. -/
def examine (args : Args F) (st : State F)
    (question trajectory goldenAnswers dataSource : Json F) : Except Raised (State F) := do
  let turns ← iterate trajectory
  match ← validateToolCalls py turns with
  | some toolReason => return st.bump (toolDiscard py toolReason)
  | none => pure ()
  let numToolCalls ← countToolCalls py turns
  if !(← hasFinalAnswer turns) then return st.bump .missingFinalAnswer
  let predictedAnswer ← extractFinalAnswer turns
  if predictedAnswer.isEmpty then return st.bump .wrongAnswer
  if !(← emCheck py predictedAnswer goldenAnswers) then return st.bump .wrongAnswer
  if ← hasFailedToolResponse turns then return st.bump .failedRetrieval
  match ← validateRoleSequence py turns with
  | some seqReason => return st.bump (sequenceDiscard seqReason)
  | none => pure ()
  let assistantTurns := (← turns.filterM (hasRole "assistant")).length
  if assistantTurns > args.maxTurns then return st.bump .tooManyTurns
  if numToolCalls > args.maxToolCalls then return st.bump .tooManyToolCalls
  if !checkTokenLength turns args.tokenizer args.maxLength then return st.bump .tooLong
  let datasetStats ← countDataset args.sameKey (fun d => { d with kept := d.kept + 1 })
    st.datasetStats dataSource
  return { stats := { st.stats with kept := st.stats.kept + 1 }
           datasetStats := datasetStats
           output := st.output ++
             [outputRecord py question trajectory goldenAnswers dataSource numToolCalls] }

/-- The body of the loop for a record. -/
def processExample (args : Args F) (st : State F) (example_ : Json F) :
    Except Raised (State F) := do
  let question ← get example_ "question" (.str [])
  let trajectory ← get example_ "trajectory" (.arr [])
  let goldenAnswers ← get example_ "answer" (.arr [])
  let dataSource ← get example_ "data_source" (.str (lit "unknown"))
  hash dataSource
  let datasetStats ← countDataset args.sameKey (fun d => { d with total := d.total + 1 })
    (initDataset args.sameKey st.datasetStats dataSource) dataSource
  let stats := { st.stats with total := st.stats.total + 1 }
  examine py args { st with stats, datasetStats } question trajectory (listAnswers goldenAnswers)
    dataSource

/-- The body of the loop for a line of the input file. -/
def processLine (args : Args F) (st : State F) (line : Text) : Except Raised (State F) :=
  if (strip line).isEmpty then .ok st
  else
    match loads py.json (strip line) with
    | none => .error (.valueError (py.decodeError (strip line)))
    | some example_ => processExample py args st example_

def main (args : Args F) (lines : List Text) : Except Raised (State F) :=
  lines.foldlM (processLine py args) {}

end SearchR1.BuildSftData.Raw
