import SearchR1.Model.Runtime
import Mathlib.Data.Rat.Defs

/-! # The search tool -/

namespace SearchR1.SearchTool

open PyText PyJson

structure Config where
  timeout : ℕ := 5
  defaultTopk : ℤ := 3
  maxTopk : ℤ := 5
  maxDocChars : ℕ := 1200
  maxToolResponseChars : ℕ := 6000

/-- How a request to the retrieval service ends: the body of the response, or one of the
exceptions the tool tells apart, with its text. -/
inductive Retrieval where
  | text (responseText : Text)
  | timeout
  | clientError (e : Text)
  | exception (e : Text)

/-- The service as one call sees it: the outcome of a request and its latency in ms. -/
abbrev Service := Text → ℤ → Retrieval × ℚ

/-- The values of `tool/search_exception_type`. -/
inductive ExceptionType where
  | none
  | emptyResult
  | emptyQuery
  | timeout
  | httpError
  | unknownError
  deriving DecidableEq

def ExceptionType.name : ExceptionType → Text
  | .none => lit "none"
  | .emptyResult => lit "empty_result"
  | .emptyQuery => lit "empty_query"
  | .timeout => lit "timeout"
  | .httpError => lit "http_error"
  | .unknownError => lit "unknown_error"

structure ToolResponse where
  text : Text

structure SearchMetrics where
  called : ℕ
  success : ℕ
  failed : ℕ
  timeout : ℕ
  emptyQuery : ℕ
  latencyMs : ℚ
  numDocs : ℕ
  responseTruncated : ℕ
  exceptionType : ExceptionType
  deriving DecidableEq

/-- What an operation on a value of the wrong type raises. -/
inductive Raised (F : Type) where
  | noAttribute (value : Json F) (name : Text)
  | noInt (value : Json F)
  | noLength (value : Json F)
  | noIteration (value : Json F)
  | noSlice (value : Json F)

variable {F : Type} (py : Python F) (cfg : Config)

/-! ## Parameters -/

/-- `parameters.get("query", "").strip()`. -/
def readQuery : Json F → Except (Raised F) Text
  | .obj parameters =>
      match (Dict.get? parameters (lit "query")).getD (.str []) with
      | .str query => .ok (strip query)
      | v => .error (.noAttribute v (lit "strip"))
  | v => .error (.noAttribute v (lit "get"))

/-- `int(topk)`. -/
def toInt (topk : Json F) : Except (Raised F) ℤ :=
  let value := match topk with
    | .float x => py.floatToInt x
    | .str t => py.intOfStr t
    | v => asInt v
  match value with
  | some n => .ok n
  | none => .error (.noInt topk)

def readTopk : Json F → Except (Raised F) ℤ
  | .obj parameters => do
      let topk := (Dict.get? parameters (lit "topk")).getD (.int cfg.defaultTopk)
      let n ← if py.truthy topk then toInt py topk else .ok cfg.defaultTopk
      return min (max 1 n) cfg.maxTopk
  | v => .error (.noAttribute v (lit "get"))

/-! ## Responses -/

def makeErrorResponse (errorType : ExceptionType) (message : Text) (latencyMs : ℚ) :
    ToolResponse × SearchMetrics :=
  ({ text := lit "<information>\nSearch failed: " ++ message ++ lit "\n</information>" },
    { called := 1
      success := 0
      failed := 1
      timeout := if errorType = .timeout then 1 else 0
      emptyQuery := if errorType = .emptyQuery then 1 else 0
      latencyMs := latencyMs
      numDocs := 0
      responseTruncated := 0
      exceptionType := errorType })

/-- The documents of the first query; a body that is no JSON has none. -/
def readDocs (responseText : Text) : Except (Raised F) (Json F) :=
  match loads py.json responseText with
  | none => .ok (.arr [])
  | some (.obj parsed) =>
      match Dict.get? parsed (lit "result") with
      | some (.arr (docs :: _)) => .ok docs
      | _ => .ok (.arr [])
  | some v => .error (.noAttribute v (lit "get"))

/-- Iteration over a value: the items of a list, the code points of a string, the keys of
an object. -/
def iterate : Json F → Except (Raised F) (List (Json F))
  | .arr vs => .ok vs
  | .str t => .ok (t.map fun c => .str [c])
  | .obj ms => .ok (ms.map fun m => .str m.1)
  | v => .error (.noIteration v)

/-- The title and the text of a document, in the nested or the flat format. -/
def readDoc : Json F → Except (Raised F) (Json F × Json F)
  | .obj doc =>
      match (Dict.get? doc (lit "document")).getD (.obj doc) with
      | .obj docContent =>
          let title := (Dict.get? docContent (lit "title")).getD (.str [])
          let text := (Dict.get? docContent (lit "text")).getD (.str [])
          let text := if py.truthy text then text
            else (Dict.get? docContent (lit "contents")).getD (.str [])
          .ok (title, if py.truthy text then text else .str (py.str (.obj docContent)))
      | v => .error (.noAttribute v (lit "get"))
  | doc => .ok (.str [], .str (py.text doc))

/-- The text of a document within `max_doc_chars`, and whether it was cut. Of the other
types only short lists and objects get through. -/
def truncateDoc : Json F → Except (Raised F) (Text × Bool)
  | .str t =>
      if t.length > cfg.maxDocChars then .ok (t.take cfg.maxDocChars ++ lit "...", true)
      else .ok (t, false)
  | .arr vs =>
      if vs.length > cfg.maxDocChars then .error (.noSlice (.arr vs))
      else .ok (py.text (.arr vs), false)
  | .obj ms =>
      if ms.length > cfg.maxDocChars then .error (.noSlice (.obj ms))
      else .ok (py.text (.obj ms), false)
  | v => .error (.noLength v)

def formatDoc (i : ℕ) (doc : Json F) : Except (Raised F) (Text × Bool) := do
  let (title, text) ← readDoc py doc
  let (text, truncated) ← truncateDoc py cfg text
  let part := lit "Doc " ++ natText (i + 1)
  let part := if py.truthy title then part ++ lit "(Title: " ++ py.text title ++ lit ")" else part
  return (part ++ lit ":\n" ++ text, truncated)

/-- The loop over the documents from the `i`th on. -/
def formatDocs (i : ℕ) : List (Json F) → Except (Raised F) (List (Text × Bool))
  | [] => .ok []
  | doc :: docs => do
      let part ← formatDoc py cfg i doc
      let parts ← formatDocs (i + 1) docs
      return part :: parts

def reservedChars : ℕ := (lit "<information>\n\n</information>").length + 32

def maxBodyChars : ℕ := cfg.maxToolResponseChars - reservedChars

/-- The body within `max_body_chars`, and whether it was cut. -/
def truncateBody (body : Text) : Text × Bool :=
  if body.length > maxBodyChars cfg then
    (body.take (maxBodyChars cfg) ++ lit "\n... [truncated]", true)
  else (body, false)

/-- The response to a completed retrieval with the formatted parts. -/
def makeResponse (parts : List (Text × Bool)) (latencyMs : ℚ) : ToolResponse × SearchMetrics :=
  let found := !parts.isEmpty
  let body := truncateBody cfg
    (if found then (lit "\n\n").intercalate (parts.map Prod.fst)
      else lit "Search failed: No relevant documents were returned.")
  ({ text := lit "<information>\n" ++ body.1 ++ lit "\n</information>" },
    { called := 1
      success := if found then 1 else 0
      failed := if found then 0 else 1
      timeout := 0
      emptyQuery := 0
      latencyMs := latencyMs
      numDocs := parts.length
      responseTruncated := if parts.any Prod.snd || body.2 then 1 else 0
      exceptionType := if found then .none else .emptyResult })

/-- `SearchTool.execute`; the reward of a call is always 0. -/
def execute (parameters : Json F) (service : Service) :
    Except (Raised F) (ToolResponse × SearchMetrics) := do
  let query ← readQuery parameters
  if query = [] then
    return makeErrorResponse .emptyQuery (lit "Query is empty.") 0
  let topk ← readTopk py cfg parameters
  let (outcome, latencyMs) := service query topk
  match outcome with
  | .timeout =>
      let message := lit "Retrieval service timed out after " ++ natText cfg.timeout ++ lit "s."
      return makeErrorResponse .timeout message latencyMs
  | .clientError e =>
      let message := lit "HTTP error calling retrieval service: " ++ e
      return makeErrorResponse .httpError message latencyMs
  | .exception e =>
      return makeErrorResponse .unknownError (lit "Unexpected error: " ++ e) latencyMs
  | .text responseText =>
      let docs ← readDocs py responseText
      let docs ← iterate docs
      let parts ← formatDocs py cfg 0 docs
      return makeResponse cfg parts latencyMs

end SearchR1.SearchTool
