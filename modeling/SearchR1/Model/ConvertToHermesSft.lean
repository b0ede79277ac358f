import SearchR1.Model.BuildSftData

/-! # Converting search tags to the Hermes format -/

namespace SearchR1.ConvertToHermesSft

open PyText PyJson BuildSftData

variable {F : Type} (py : Python F)

def searchPayload (arguments : Json F) : Json F :=
  .obj [(lit "name", .str (lit "search")), (lit "arguments", arguments)]

/-- The call that stands for the stripped body of a search block. -/
def toolCallPayload (queryContent : Text) : Json F :=
  match loads py.json queryContent with
  | some (.obj parsed) =>
      if (Dict.get? parsed (lit "name")).isSome ∧ (Dict.get? parsed (lit "arguments")).isSome then
        .obj parsed
      else searchPayload (.obj parsed)
  | some parsed => searchPayload (.obj [(lit "query", .str (py.text parsed))])
  | none => searchPayload (.obj [(lit "query", .str queryContent)])

/-- The replacement of one match. -/
def replace (body : Text) : Text :=
  toolCallOpen ++ (lit "\n" ++ dumps py.json (toolCallPayload py (strip body)) ++ lit "\n") ++
    toolCallClose

def convertSearchToToolCall (text : Text) : Text :=
  replaceBlocks searchOpen searchClose (replace py) text

def isAlreadyHermes (text : Text) : Bool := contains toolCallOpen text

def convertTurn (turn : Message) : Message :=
  if turn.role = .assistant ∧ !isAlreadyHermes turn.content then
    { turn with content := convertSearchToToolCall py turn.content }
  else turn

def convertTrajectory (trajectory : List Message) : List Message :=
  trajectory.map (convertTurn py)

/-! ## Turns with all their fields -/

abbrev Turn (F : Type) := Dict Text (Json F)

/-- `turn.get("role") == "assistant"`. -/
def isAssistant (turn : Turn F) : Bool :=
  match Dict.get? turn (lit "role") with
  | some (.str role) => role = lit "assistant"
  | _ => false

/-- `turn.get("content", "")`. -/
def turnContent (turn : Turn F) : Json F := (Dict.get? turn (lit "content")).getD (.str [])

def isToolCallTag : Json F → Bool
  | .str item => item = toolCallOpen
  | _ => false

/-- `is_already_hermes` on any value; `none` when `in` raises. -/
def isValueHermes : Json F → Option Bool
  | .str content => some (isAlreadyHermes content)
  | .arr items => some (items.any isToolCallTag)
  | .obj items => some (Dict.get? items toolCallOpen).isSome
  | _ => none

/-- `convert_search_to_tool_call` on any value; `none` when `re.sub` raises. -/
def convertValue : Json F → Option (Json F)
  | .str content => some (.str (convertSearchToToolCall py content))
  | _ => none

/-- A round of the loop of `convert_trajectory`. -/
def convertFields (turn : Turn F) : Option (Turn F) :=
  if isAssistant turn then
    match isValueHermes (turnContent turn) with
    | none => none
    | some true => some turn
    | some false => (convertValue py (turnContent turn)).map fun content =>
        Dict.set turn (lit "content") content
  else some turn

def convertTurns (trajectory : List (Turn F)) : Option (List (Turn F)) :=
  trajectory.mapM (convertFields py)

end SearchR1.ConvertToHermesSft
