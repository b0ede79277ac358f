import SearchR1.Model.Runtime

/-! # The Hermes tool parser of the rollout -/

namespace SearchR1.ToolParser

open PyText PyJson

structure FunctionCall where
  name : Text
  arguments : Text
  deriving DecidableEq

/-- The rest of a match of `(?:[^{}]|(?:\{[^{}]*\}))*\}`; `inner` tells whether an inner
pair of braces is open. A brace can be read in one way only, so there is nothing to
backtrack to. -/
def braceMatch (inner : Bool) : Text → Option Text
  | [] => none
  | c :: s =>
      if c = ch '}' then
        if inner then (braceMatch false s).map (c :: ·) else some [c]
      else if c = ch '{' then
        if inner then none else (braceMatch true s).map (c :: ·)
      else (braceMatch inner s).map (c :: ·)

/-- `re.search` for the lenient pattern `\{(?:[^{}]|(?:\{[^{}]*\}))*\}`. -/
def lenientSearch : Text → Option Text
  | [] => none
  | c :: s =>
      if c = ch '{' then
        match braceMatch false s with
        | some m => some (c :: m)
        | none => lenientSearch s
      else lenientSearch s

variable {F : Type} (py : Python F)

/-- The call an object describes. A missing key, a value that is no object and a name that
is no string raise in the source. -/
def functionCall : Json F → Option FunctionCall
  | .obj ms =>
      match Dict.get? ms (lit "name"), Dict.get? ms (lit "arguments") with
      | some (.str name), some arguments =>
          some { name := name, arguments := dumps py.json arguments }
      | _, _ => none
  | _ => none

/-- One block: the strict route, and the lenient one when the strict one raises. -/
def decodeMatch (body : Text) : Option FunctionCall :=
  match (loads py.json body).bind (functionCall py) with
  | some call => some call
  | none => (lenientSearch body).bind fun repaired =>
      (loads py.json repaired).bind (functionCall py)

/-- `HermesToolParser.extract_tool_calls` on the decoded text. -/
def extractToolCalls (text : Text) : Text × List FunctionCall :=
  if ¬ contains toolCallOpen text ∨ ¬ contains toolCallClose text then (text, [])
  else (removeBlocks toolCallOpen toolCallClose text,
    (blocks toolCallOpen toolCallClose text).filterMap (decodeMatch py))

end SearchR1.ToolParser
