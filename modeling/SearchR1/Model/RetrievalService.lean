import SearchR1.Library.LruCache
import SearchR1.Model.Runtime

/-! # The retrieval service -/

namespace SearchR1.RetrievalService

open PyText PyJson

/-- A request within the bounds that the data model checks. -/
structure RetrieveRequest where
  queries : List Text := []
  topk : Option ℤ := none
  returnScores : Bool := false
  maxDocChars : ℕ := 1200
  topk_bounds : ∀ k ∈ topk, 1 ≤ k ∧ k ≤ 5 := by decide
  maxDocChars_bounds : 100 ≤ maxDocChars ∧ maxDocChars ≤ 10000 := by decide

abbrev Document (F : Type) := Dict Text (Json F)

/-- The parts of a retriever that do not change. The index answers with a row of scores and a
row of document numbers. -/
structure DenseRetriever (F E : Type) where
  topk : ℤ := 3
  encode : Text → E
  index : E → ℤ → List F × List ℤ
  corpus : List (Document F)

/-- The documents of a search, with the scores if they were asked for. -/
structure Output (F : Type) where
  docs : List (Document F)
  scores : Option (List F)

abbrev Cache (F : Type) := LruCache Text (Output F)

variable {F E : Type} (py : Python F) (retriever : DenseRetriever F E)

/-- `corpus[idx]`, where a negative index counts from the end; `none` is the `IndexError`. -/
def getDoc (corpus : List (Document F)) (idx : ℤ) : Option (Document F) :=
  if 0 ≤ idx then corpus[idx.toNat]?
  else if 0 ≤ idx + corpus.length then corpus[(idx + corpus.length).toNat]?
  else none

def loadDocs (corpus : List (Document F)) (docIdxs : List ℤ) : Option (List (Document F)) :=
  docIdxs.mapM (getDoc corpus)

/-- The text within `max_doc_chars`; other values without a length, or too long ones, raise. -/
def truncateText (maxDocChars : ℕ) : Json F → Option (Json F)
  | .str t =>
      if t.length > maxDocChars then some (.str (t.take maxDocChars ++ lit "...")) else some (.str t)
  | .arr vs => if vs.length > maxDocChars then none else some (.arr vs)
  | .obj ms => if ms.length > maxDocChars then none else some (.obj ms)
  | _ => none

/-- The entry of a document before a score is added. -/
def makeEntry (maxDocChars : ℕ) (doc : Document F) : Option (Document F) :=
  let contents := (Dict.get? doc (lit "contents")).getD (.str (py.str (.obj doc)))
  let text := (Dict.get? doc (lit "text")).getD (.str [])
  let text := if py.truthy text then text
    else (Dict.get? doc (lit "contents")).getD (.str [])
  (truncateText maxDocChars text).map fun text =>
    [(lit "title", (Dict.get? doc (lit "title")).getD (.str [])), (lit "text", text),
      (lit "contents", contents)]

def formatEntry (returnScore : Bool) (maxDocChars : ℕ) (found : Document F × F) :
    Option (Document F) :=
  (makeEntry py maxDocChars found.1).map fun entry =>
    if returnScore then Dict.set entry (lit "score") (.float found.2) else entry

def cacheKey (query : Text) (num : ℤ) (maxDocChars : ℕ) : Text :=
  query ++ lit ":" ++ intText num ++ lit ":" ++ natText maxDocChars

/-- The part of a search behind the cache; `none` when it raises. -/
def compute (query : Text) (num : ℤ) (returnScore : Bool) (maxDocChars : ℕ) :
    Option (Output F) := do
  let (scores, idxs) := retriever.index (retriever.encode query) num
  let results ← loadDocs retriever.corpus idxs
  let formatted ← (results.zip scores).mapM (formatEntry py returnScore maxDocChars)
  return { docs := formatted, scores := if returnScore then some scores else none }

/-- `DenseRetriever.search`, with the cache it leaves behind. -/
def search (cache : Cache F) (query : Text) (num : Option ℤ) (returnScore : Bool)
    (maxDocChars : ℕ) : Option (Output F) × Cache F :=
  let num := num.getD retriever.topk
  let key := cacheKey query num maxDocChars
  match cache.get key with
  | (some cached, cache) => (some cached, cache)
  | (none, cache) =>
      match compute py retriever query num returnScore maxDocChars with
      | none => (none, cache)
      | some output => (some output, cache.put key output)

/-- The search without a cache. -/
def searchUncached (query : Text) (num : Option ℤ) (returnScore : Bool) (maxDocChars : ℕ) :
    Option (Output F) :=
  compute py retriever query (num.getD retriever.topk) returnScore maxDocChars

/-- The result of a query: with scores, documents are wrapped; a search that raises, or scores
that are missing, give an empty list. -/
def formatResult (returnScores : Bool) : Option (Output F) → List (Document F)
  | none => []
  | some output =>
      if returnScores then
        match output.scores with
        | none => []
        | some scores => (output.docs.zip scores).map fun found =>
            [(lit "document", .obj found.1), (lit "score", .float found.2)]
      else output.docs

/-- `request.topk or retriever.topk`. -/
def requestTopk (request : RetrieveRequest) : ℤ :=
  match request.topk with
  | some k => if k = 0 then retriever.topk else k
  | none => retriever.topk

/-- A round of the loop over the queries of a request. -/
def retrieveQuery (request : RetrieveRequest) (cache : Cache F) (query : Text) :
    List (Document F) × Cache F :=
  if strip query = [] then ([], cache)
  else
    let r := search py retriever cache (strip query) (some (requestTopk retriever request))
      request.returnScores request.maxDocChars
    (formatResult request.returnScores r.1, r.2)

def retrieveQueries (request : RetrieveRequest) (cache : Cache F) :
    List Text → List (List (Document F)) × Cache F
  | [] => ([], cache)
  | query :: queries =>
      let r := retrieveQuery py retriever request cache query
      let rest := retrieveQueries request r.2 queries
      (r.1 :: rest.1, rest.2)

/-- `retrieve_endpoint`: the results of a request, without the latencies. -/
def retrieveEndpoint (cache : Cache F) (request : RetrieveRequest) :
    List (List (Document F)) × Cache F :=
  retrieveQueries py retriever request cache request.queries

/-- The requests that one retriever serves, in their order. -/
def serve (cache : Cache F) : List RetrieveRequest → List (List (List (Document F))) × Cache F
  | [] => ([], cache)
  | request :: requests =>
      let r := retrieveEndpoint py retriever cache request
      let rest := serve r.2 requests
      (r.1 :: rest.1, rest.2)

/-- The cache of a new retriever. -/
def newCache : Cache F := { capacity := 2000 }

/-! ## The service without a cache -/

def retrieveQueryUncached (request : RetrieveRequest) (query : Text) : List (Document F) :=
  if strip query = [] then []
  else formatResult request.returnScores
    (searchUncached py retriever (strip query) (some (requestTopk retriever request))
      request.returnScores request.maxDocChars)

def retrieveEndpointUncached (request : RetrieveRequest) : List (List (Document F)) :=
  request.queries.map (retrieveQueryUncached py retriever request)

end SearchR1.RetrievalService
