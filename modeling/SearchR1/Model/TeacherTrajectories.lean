import SearchR1.Model.GenerateTeacherTrajectories
import SearchR1.Model.QaParquet

/-! # Generating teacher trajectories -/

namespace SearchR1.GenerateTeacherTrajectories

open PyText PyJson BuildSftData QaParquet

/-! ## Retrieval -/

/-- What reading a value of the wrong shape raises. -/
inductive Raised (F : Type) where
  | noItem (value : Json F) (key : Text)
  | noIndex (value : Json F)
  | noIteration (value : Json F)
  | noAttribute (value : Json F) (name : Text)

/-- The retrieval service as one call sees it: the JSON of the response, or the text of what
the request raises. -/
abbrev Service (F : Type) := Text → ℤ → Except Text (Json F)

variable {F : Type} (py : Python F) (raisedText : Raised F → Text)

/-- `value[key]`. -/
def getItem (value : Json F) (key : Text) : Except (Raised F) (Json F) :=
  match value with
  | .obj ms =>
      match Dict.get? ms key with
      | some v => .ok v
      | none => .error (.noItem value key)
  | _ => .error (.noItem value key)

/-- `results[0] if results else []`. -/
def firstResult (results : Json F) : Except (Raised F) (Json F) :=
  if py.truthy results then
    match results with
    | .arr (docs :: _) => .ok docs
    | .str (c :: _) => .ok (.str [c])
    | v => .error (.noIndex v)
  else .ok (.arr [])

/-- Iteration over a value: the items of a list, the code points of a string, the keys of
an object. -/
def iterate : Json F → Except (Raised F) (List (Json F))
  | .arr vs => .ok vs
  | .str t => .ok (t.map fun c => .str [c])
  | .obj ms => .ok (ms.map fun m => .str m.1)
  | v => .error (.noIteration v)

/-- The first line of the contents and the lines behind it. -/
def splitTitle (content : Text) : Text × Text :=
  (content.takeWhile (· ≠ ch '\n'), (content.dropWhile (· ≠ ch '\n')).drop 1)

def formatDoc (idx : ℕ) (docItem : Json F) : Except (Raised F) Text := do
  let document ← getItem docItem (lit "document")
  let content ← getItem document (lit "contents")
  match content with
  | .str content =>
      let (title, text) := splitTitle content
      return lit "Doc " ++ natText (idx + 1) ++ lit "(Title: " ++ title ++ lit ") " ++ text
  | v => .error (.noAttribute v (lit "split"))

/-- The loop over the documents from the `idx`th on. -/
def formatDocs (idx : ℕ) : List (Json F) → Except (Raised F) (List Text)
  | [] => .ok []
  | docItem :: docs => do
      let part ← formatDoc idx docItem
      let parts ← formatDocs (idx + 1) docs
      return part :: parts

def readParts (response : Json F) : Except (Raised F) (List Text) := do
  let results ← getItem response (lit "result")
  let docs ← firstResult py results
  let docs ← iterate docs
  formatDocs 0 docs

/-- `call_retrieval`; the error is the text of the exception. -/
def callRetrieval (query : Text) (service : Service F) (topk : ℤ) : Except Text Text := do
  let response ← service query topk
  match readParts py response with
  | .error e => .error (raisedText e)
  | .ok parts =>
      if parts.isEmpty then return lit "<information>No results found.</information>"
      else return informationOpen ++ (lit "\n\n").intercalate parts ++ informationClose

/-! ## Trajectories -/

structure Options where
  maxTurns : ℤ := 3
  topk : ℤ := 3

/-- The content of the tool message for a query. -/
def toolContent (query : Text) (service : Service F) (topk : ℤ) : Text :=
  match callRetrieval py raisedText query service topk with
  | .ok searchResults => searchResults
  | .error e => lit "<information>Search failed: " ++ e ++ lit "</information>"

def systemMessages (systemPrompt : Text) : List Message :=
  if systemPrompt = [] then [] else [{ role := .system, content := systemPrompt }]

/-- The messages before the first turn. -/
def promptMessages (question systemPrompt : Text) : List Message :=
  systemMessages systemPrompt ++ [{ role := .user, content := question }]

/-- The rest of the loop over the turns. `generate` gives the text that the model adds to the
messages in a turn, and `services` the retrieval service at that time. -/
def runTurns (generate : ℕ → List Message → Text) (services : ℕ → Service F) (topk : ℤ) :
    ℕ → ℕ → List Message → Except Unit (List Message)
  | 0, _, messages => .ok messages
  | left + 1, turn, messages =>
      let response := strip (generate turn messages)
      if response = [] then .ok messages
      else
        let messages := messages ++ [{ role := .assistant, content := response }]
        match extractSearchQuery py response with
        | .error e => .error e
        | .ok query =>
            let query := query.getD []
            if query = [] then .ok messages
            else
              let result := toolContent py raisedText query (services turn) topk
              let messages := messages ++ [{ role := .tool, content := result }]
              if contains answerOpen response ∧ contains answerClose response then .ok messages
              else runTurns generate services topk left (turn + 1) messages

/-- A model of transformers with its tokenizer; the output of a turn repeats the input. -/
structure HfModel where
  applyChatTemplate : List Message → List ℕ
  generate : ℕ → List ℕ → List ℕ
  decode : List ℕ → Text

def HfModel.response (model : HfModel) (turn : ℕ) (messages : List Message) : Text :=
  let modelInputs := model.applyChatTemplate messages
  model.decode ((model.generate turn modelInputs).drop modelInputs.length)

/-- `llm.chat` in a turn, with the text of its first output. -/
abbrev VllmModel := ℕ → List Message → Text

def generateTrajectory (question systemPrompt : Text) (model : HfModel)
    (services : ℕ → Service F) (options : Options) : Except Unit (List Message) :=
  runTurns py raisedText model.response services options.topk options.maxTurns.toNat 0
    (promptMessages question systemPrompt)

def generateTrajectoryVllm (question systemPrompt : Text) (llm : VllmModel)
    (services : ℕ → Service F) (options : Options) : Except Unit (List Message) :=
  runTurns py raisedText llm services options.topk options.maxTurns.toNat 0
    (promptMessages question systemPrompt)

/-! ## Main -/

/-- `extract_prompt_messages`: the last system and the last user message; `none` is the
`ValueError`. -/
def extractPromptMessages (prompt : List Message) : Option (Text × Text) :=
  let found := prompt.foldl (fun found message =>
    match message.role with
    | .system => (message.content, found.2)
    | .user => (found.1, message.content)
    | _ => found) ([], [])
  if found.2 = [] then none else some found

/-- The model of a run: `use_vllm` or not. -/
inductive Teacher where
  | hf (model : HfModel)
  | vllm (llm : VllmModel)

structure Record where
  question : Text
  systemPrompt : Text
  trajectory : List Message
  answer : List Text
  dataSource : Text
  retrievalSuccess : Bool
  trajectoryValid : Bool
  numToolCalls : ℕ

structure RunStats where
  total : ℕ := 0
  hasSearch : ℕ := 0
  hasAnswer : ℕ := 0
  hasToolCall : ℕ := 0
  errors : ℕ := 0

structure RunState where
  stats : RunStats := {}
  output : List Record := []

def hasTag (tag : Text) (trajectory : List Message) : Bool :=
  trajectory.any fun t => contains tag t.content

def numSearch (trajectory : List Message) : ℕ :=
  trajectory.countP fun t => contains searchOpen t.content || contains toolCallOpen t.content

def makeRecord (row : Row) (question systemPrompt : Text) (trajectory : List Message) : Record :=
  let hasSearch := hasTag searchOpen trajectory || hasTag toolCallOpen trajectory
  { question := question
    systemPrompt := systemPrompt
    trajectory := trajectory
    answer := row.target
    dataSource := row.dataSource
    retrievalSuccess := hasSearch
    trajectoryValid := hasSearch && hasTag answerOpen trajectory
    numToolCalls := numSearch trajectory }

def countTrajectory (stats : RunStats) (trajectory : List Message) : RunStats :=
  let count (b : Bool) : ℕ := if b then 1 else 0
  let hasToolCall := hasTag toolCallOpen trajectory
  { stats with
    total := stats.total + 1
    hasSearch := stats.hasSearch + count (hasTag searchOpen trajectory || hasToolCall)
    hasToolCall := stats.hasToolCall + count hasToolCall
    hasAnswer := stats.hasAnswer + count (hasTag answerOpen trajectory) }

def RunState.countError (st : RunState) : RunState :=
  { st with stats := { st.stats with errors := st.stats.errors + 1 } }

def Teacher.generateTrajectory (teacher : Teacher) (question systemPrompt : Text)
    (services : ℕ → Service F) (options : Options) : Except Unit (List Message) :=
  match teacher with
  | .hf model => GenerateTeacherTrajectories.generateTrajectory py raisedText question
      systemPrompt model services options
  | .vllm llm => generateTrajectoryVllm py raisedText question systemPrompt llm services options

/-- A round of the loop over the rows. -/
def processRow (teacher : Teacher) (services : ℕ → Service F) (options : Options)
    (st : RunState) (row : Row) : RunState :=
  match extractPromptMessages row.prompt with
  | none => st.countError
  | some (systemPrompt, question) =>
      match teacher.generateTrajectory py raisedText question systemPrompt services options with
      | .error _ => st.countError
      | .ok trajectory =>
          { stats := countTrajectory st.stats trajectory
            output := st.output ++ [makeRecord row question systemPrompt trajectory] }

/-- `main` on the sampled rows. The model samples and the service may change between rows, so
each row comes with what it meets. -/
def main (options : Options) (rows : List (Row × Teacher × (ℕ → Service F))) : RunState :=
  rows.foldl (fun st r => processRow py raisedText r.2.1 r.2.2 options st r.1) {}

end SearchR1.GenerateTeacherTrajectories
