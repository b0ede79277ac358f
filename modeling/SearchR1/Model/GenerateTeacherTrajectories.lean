import SearchR1.Model.Runtime

/-! # The query a teacher trajectory runs -/

namespace SearchR1.GenerateTeacherTrajectories

open PyText PyJson

def searchPattern (text : Text) : List Text := blocks searchOpen searchClose text

def toolCallPattern (text : Text) : List Text := strippedBlocks toolCallOpen toolCallClose text

variable {F : Type} (py : Python F)

/-- What a call body contributes: a query, nothing (`none`), or an `AttributeError` when
`arguments` is no object. -/
def callQuery (rawCall : Text) : Except Unit (Option Text) :=
  match loads py.json (strip rawCall) with
  | some (.obj payload) =>
      match Dict.get? payload (lit "name") with
      | some (.str name) =>
          if name = lit "search" then
            match (Dict.get? payload (lit "arguments")).getD (.obj []) with
            | .obj args =>
                match (Dict.get? args (lit "query")).getD (.str []) with
                | .str query => .ok (if strip query = [] then none else some (strip query))
                | _ => .ok none
            | _ => .error ()
          else .ok none
      | _ => .ok none
  | _ => .ok none

/-- The first body with a query, in the order given. -/
def firstQuery : List Text → Except Unit (Option Text)
  | [] => .ok none
  | rawCall :: rest =>
      match callQuery py rawCall with
      | .error e => .error e
      | .ok (some query) => .ok (some query)
      | .ok none => firstQuery rest

def extractSearchQuery (text : Text) : Except Unit (Option Text) :=
  match firstQuery py (toolCallPattern text).reverse with
  | .error e => .error e
  | .ok (some query) => .ok (some query)
  | .ok none => .ok ((searchPattern text).getLast?.map strip)

end SearchR1.GenerateTeacherTrajectories
