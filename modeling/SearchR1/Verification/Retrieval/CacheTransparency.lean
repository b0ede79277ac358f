import SearchR1.Library.JsonRoundTrip
import SearchR1.Library.Monadic
import SearchR1.Model.AsciiRuntime
import SearchR1.Model.RetrievalService

/-! # What the cache of the retrieval service changes -/

namespace SearchR1.RetrievalService

open PyText PyJson

/-! ## Cache keys -/

theorem not_mem_natText (n : ℕ) : ch ':' ∉ natText n := by
  intro h
  exact absurd (isDigit_of_mem_natText h) (by decide)

theorem not_mem_intText (i : ℤ) : ch ':' ∉ intText i := by
  cases i with
  | ofNat n => exact not_mem_natText n
  | negSucc n =>
      rw [intText, List.mem_cons, not_or]
      exact ⟨by decide, not_mem_natText (n + 1)⟩

/-- The separator that does not occur behind it is found in one place only. -/
theorem append_cons_inj {a a' b b' : Text} {c : CodePoint} (hb : c ∉ b) (hb' : c ∉ b')
    (h : a ++ c :: b = a' ++ c :: b') : a = a' ∧ b = b' := by
  rcases List.append_eq_append_iff.mp h with ⟨m, rfl, hm⟩ | ⟨m, rfl, hm⟩
  · cases m with
    | nil =>
        rw [List.append_nil]
        exact ⟨rfl, (List.cons.inj hm).2⟩
    | cons d m =>
        rw [(List.cons.inj hm).2] at hb
        exact absurd (List.mem_append_right m List.mem_cons_self) hb
  · cases m with
    | nil =>
        rw [List.append_nil]
        exact ⟨rfl, (List.cons.inj hm).2.symm⟩
    | cons d m =>
        rw [(List.cons.inj hm).2] at hb'
        exact absurd (List.mem_append_right m List.mem_cons_self) hb'

theorem cacheKey_eq (query : Text) (num : ℤ) (maxDocChars : ℕ) : cacheKey query num maxDocChars =
    (query ++ ch ':' :: intText num) ++ ch ':' :: natText maxDocChars := by
  have hlit : lit ":" = [ch ':'] := rfl
  simp [cacheKey, hlit]

theorem cacheKey_inj {query query' : Text} {num num' : ℤ} {maxDocChars maxDocChars' : ℕ}
    (h : cacheKey query num maxDocChars = cacheKey query' num' maxDocChars') :
    query = query' ∧ num = num' ∧ maxDocChars = maxDocChars' := by
  rw [cacheKey_eq, cacheKey_eq] at h
  obtain ⟨hfront, hchars⟩ := append_cons_inj (not_mem_natText _) (not_mem_natText _) h
  obtain ⟨hquery, hnum⟩ := append_cons_inj (not_mem_intText _) (not_mem_intText _) hfront
  refine ⟨hquery, ?_, ?_⟩
  · rw [← intValue_intText num, hnum, intValue_intText]
  · rw [← digitsValue_natText maxDocChars, hchars, digitsValue_natText]

/-! ## A search with and without scores -/

variable {F E : Type} (py : Python F) (retriever : DenseRetriever F E)

/-- The part of an output that does not depend on the flag. -/
def foundEntries (query : Text) (num : ℤ) (maxDocChars : ℕ) : Option (List (Document F × F)) :=
  let row := retriever.index (retriever.encode query) num
  (loadDocs retriever.corpus row.2).bind fun results =>
    (results.zip row.1).mapM fun found =>
      (makeEntry py maxDocChars found.1).map fun entry => (entry, found.2)

def finishEntry (returnScore : Bool) (entry : Document F × F) : Document F :=
  if returnScore then Dict.set entry.1 (lit "score") (.float entry.2) else entry.1

theorem mapM_formatEntry (returnScore : Bool) (maxDocChars : ℕ) (found : List (Document F × F)) :
    found.mapM (formatEntry py returnScore maxDocChars) =
      (found.mapM fun found => (makeEntry py maxDocChars found.1).map fun entry =>
        (entry, found.2)).map (List.map (finishEntry returnScore)) := by
  induction found with
  | nil => rfl
  | cons x found ih =>
      rw [List.mapM_cons, List.mapM_cons, ih, formatEntry]
      cases makeEntry py maxDocChars x.1 with
      | none => rfl
      | some entry =>
          cases found.mapM fun found => (makeEntry py maxDocChars found.1).map fun entry =>
              (entry, found.2) with
          | none => rfl
          | some entries => rfl

theorem compute_eq (query : Text) (num : ℤ) (returnScore : Bool) (maxDocChars : ℕ) :
    compute py retriever query num returnScore maxDocChars =
      (foundEntries py retriever query num maxDocChars).map fun entries =>
        { docs := entries.map (finishEntry returnScore)
          scores := if returnScore then
            some (retriever.index (retriever.encode query) num).1 else none } := by
  unfold compute foundEntries
  simp only [mapM_formatEntry]
  cases loadDocs retriever.corpus (retriever.index (retriever.encode query) num).2 with
  | none => rfl
  | some results =>
      simp only [Option.bind_eq_bind, Option.bind_some]
      cases (results.zip (retriever.index (retriever.encode query) num).1).mapM fun found =>
          (makeEntry py maxDocChars found.1).map fun entry => (entry, found.2) with
      | none => rfl
      | some entries => rfl

/-- An entry has three fields, and there are no more entries than scores. -/
theorem foundEntries_spec {query : Text} {num : ℤ} {maxDocChars : ℕ}
    {entries : List (Document F × F)}
    (h : foundEntries py retriever query num maxDocChars = some entries) :
    entries.length ≤ (retriever.index (retriever.encode query) num).1.length ∧
      ∀ entry ∈ entries, Dict.keys entry.1 = [lit "title", lit "text", lit "contents"] := by
  obtain ⟨results, -, hentries⟩ := Option.bind_eq_some_iff.mp h
  have hall := PyLoop.mapM_some_iff.mp hentries
  constructor
  · rw [← hall.length_eq, List.length_zip]
    exact Nat.min_le_right _ _
  · intro entry hentry
    obtain ⟨found, -, hfound⟩ := PyLoop.exists_of_forall₂ hall hentry
    obtain ⟨entry', hentry', rfl⟩ := Option.map_eq_some_iff.mp hfound
    obtain ⟨text, -, rfl⟩ := Option.map_eq_some_iff.mp hentry'
    rfl

/-! ## One query -/

/-- Every item of the cache was computed for its key, with scores or without. -/
def Correct (cache : Cache F) : Prop :=
  ∀ item ∈ cache.cache, ∃ query num returnScore maxDocChars,
    item.1 = cacheKey query num maxDocChars ∧
      compute py retriever query num returnScore maxDocChars = some item.2

theorem correct_newCache : Correct py retriever (newCache : Cache F) := by
  intro item h
  cases h

/-- What a hit returns was computed for the same search, up to the flag. -/
theorem Correct.hit {cache : Cache F} (h : Correct py retriever cache) {query : Text} {num : ℤ}
    {maxDocChars : ℕ} {output : Output F}
    (hit : Dict.get? cache.cache (cacheKey query num maxDocChars) = some output) :
    ∃ returnScore, compute py retriever query num returnScore maxDocChars = some output := by
  obtain ⟨query', num', returnScore, maxDocChars', hkey, hcompute⟩ := h _ (Dict.mem_of_get? hit)
  obtain ⟨rfl, rfl, rfl⟩ := cacheKey_inj hkey
  exact ⟨returnScore, hcompute⟩

/-- A search keeps the cache correct, and computes what it does not find. -/
theorem Correct.after_search {cache : Cache F} (h : Correct py retriever cache) (query : Text)
    (num : Option ℤ) (returnScore : Bool) (maxDocChars : ℕ) :
    Correct py retriever (search py retriever cache query num returnScore maxDocChars).2 ∧
      (search py retriever cache query num returnScore maxDocChars).1 =
        (Dict.get? cache.cache (cacheKey query (num.getD retriever.topk) maxDocChars)).or
          (searchUncached py retriever query num returnScore maxDocChars) := by
  have hfound := LruCache.fst_get cache (cacheKey query (num.getD retriever.topk) maxDocChars)
  have hkept : Correct py retriever
      (cache.get (cacheKey query (num.getD retriever.topk) maxDocChars)).2 :=
    fun item hitem => h item (LruCache.mem_get hitem)
  unfold search searchUncached
  simp only
  cases hget : cache.get (cacheKey query (num.getD retriever.topk) maxDocChars) with
  | mk found cache' =>
      rw [hget] at hfound hkept
      rw [← hfound]
      cases found with
      | some output => exact ⟨hkept, rfl⟩
      | none =>
          cases hcompute : compute py retriever query (num.getD retriever.topk) returnScore
              maxDocChars with
          | none => exact ⟨hkept, rfl⟩
          | some output =>
              refine ⟨?_, rfl⟩
              intro item hitem
              rcases LruCache.mem_put hitem with rfl | hitem
              · exact ⟨query, _, returnScore, maxDocChars, rfl, hcompute⟩
              · exact hkept item hitem

/-- A score makes an entry a different one. -/
theorem finishEntry_ne {entry : Document F × F}
    (h : Dict.keys entry.1 = [lit "title", lit "text", lit "contents"]) :
    finishEntry true entry ≠ finishEntry false entry := by
  have hscore : lit "score" ∉ [lit "title", lit "text", lit "contents"] := by decide
  intro heq
  have hkeys := congrArg Dict.keys heq
  simp only [finishEntry, ite_true, Bool.false_eq_true, ite_false, Dict.keys_set, h,
    if_neg hscore] at hkeys
  exact absurd (congrArg List.length hkeys) (by decide)

/-- A computed output formatted for a request is the request's own result exactly when it is of
the same kind, or empty. -/
theorem formatResult_eq_iff {query : Text} {num : ℤ} {returnScore : Bool} (returnScores : Bool)
    {maxDocChars : ℕ} {output : Output F}
    (h : compute py retriever query num returnScore maxDocChars = some output) :
    formatResult returnScores (some output) =
        formatResult returnScores (compute py retriever query num returnScores maxDocChars) ↔
      output.docs = [] ∨ output.scores.isSome = returnScores := by
  rw [compute_eq] at h
  obtain ⟨entries, hentries, rfl⟩ := Option.map_eq_some_iff.mp h
  obtain ⟨hlen, hkeys⟩ := foundEntries_spec py retriever hentries
  rw [compute_eq, hentries, Option.map_some]
  cases entries with
  | nil => cases returnScore <;> cases returnScores <;> simp [formatResult]
  | cons entry entries =>
      have hne := finishEntry_ne (hkeys entry List.mem_cons_self)
      cases returnScore <;> cases returnScores
      · simp
      · -- the stored output has no scores to zip with
        cases hrow : (retriever.index (retriever.encode query) num).1 with
        | nil => simp [hrow] at hlen
        | cons score scores => simp [formatResult]
      · -- the stored entries carry a score of their own
        simp [formatResult, hne]
      · simp

/-- The lookup for a query does not find documents of a request with the other kind of scores. -/
def LookupMatches (request : RetrieveRequest) (cache : Cache F) (query : Text) : Prop :=
  strip query ≠ [] → ∀ output ∈ Dict.get? cache.cache
    (cacheKey (strip query) (requestTopk retriever request) request.maxDocChars),
    output.docs = [] ∨ output.scores.isSome = request.returnScores

theorem retrieveQuery_eq_iff (request : RetrieveRequest) {cache : Cache F}
    (h : Correct py retriever cache) (query : Text) :
    Correct py retriever (retrieveQuery py retriever request cache query).2 ∧
      ((retrieveQuery py retriever request cache query).1 =
          retrieveQueryUncached py retriever request query ↔
        LookupMatches retriever request cache query) := by
  unfold retrieveQuery retrieveQueryUncached LookupMatches
  by_cases hblank : strip query = []
  · simp [hblank, h]
  · obtain ⟨hcorrect, hresult⟩ := h.after_search py retriever (strip query)
      (some (requestTopk retriever request)) request.returnScores request.maxDocChars
    rw [Option.getD_some] at hresult
    simp only [hblank, ite_false, hresult]
    refine ⟨hcorrect, ?_⟩
    cases hit : Dict.get? cache.cache
        (cacheKey (strip query) (requestTopk retriever request) request.maxDocChars) with
    | none => simp
    | some output =>
        obtain ⟨returnScore, hcompute⟩ := h.hit py retriever hit
        have hiff := formatResult_eq_iff py retriever request.returnScores hcompute
        simpa [searchUncached, hblank] using hiff

/-! ## All requests -/

/-- Every lookup of a request meets the condition in the cache it finds. -/
def QueriesMatch (request : RetrieveRequest) (cache : Cache F) : List Text → Prop
  | [] => True
  | query :: queries => LookupMatches retriever request cache query ∧
      QueriesMatch request (retrieveQuery py retriever request cache query).2 queries

/-- Every lookup of the requests meets the condition in the cache it finds. -/
def RequestsMatch (cache : Cache F) : List RetrieveRequest → Prop
  | [] => True
  | request :: requests => QueriesMatch py retriever request cache request.queries ∧
      RequestsMatch (retrieveEndpoint py retriever cache request).2 requests

theorem retrieveQueries_eq_iff (request : RetrieveRequest) (queries : List Text)
    {cache : Cache F} (h : Correct py retriever cache) :
    Correct py retriever (retrieveQueries py retriever request cache queries).2 ∧
      ((retrieveQueries py retriever request cache queries).1 =
          queries.map (retrieveQueryUncached py retriever request) ↔
        QueriesMatch py retriever request cache queries) := by
  induction queries generalizing cache with
  | nil => simp [retrieveQueries, QueriesMatch, h]
  | cons query queries ih =>
      obtain ⟨hcorrect, hiff⟩ := retrieveQuery_eq_iff py retriever request h query
      obtain ⟨hrest, hiffRest⟩ := ih hcorrect
      refine ⟨hrest, ?_⟩
      simp only [retrieveQueries, QueriesMatch, List.map_cons, List.cons.injEq]
      rw [hiff, hiffRest]

/-- One retriever serves all requests as if it had no cache exactly when no lookup finds the
documents of a request with the other kind of scores. -/
theorem serve_eq_iff (requests : List RetrieveRequest) :
    (serve py retriever newCache requests).1 =
        requests.map (retrieveEndpointUncached py retriever) ↔
      RequestsMatch py retriever newCache requests := by
  have hrun : ∀ cache, Correct py retriever cache →
      ((serve py retriever cache requests).1 =
          requests.map (retrieveEndpointUncached py retriever) ↔
        RequestsMatch py retriever cache requests) := by
    induction requests with
    | nil => simp [serve, RequestsMatch]
    | cons request requests ih =>
        intro cache h
        obtain ⟨hcorrect, hiff⟩ := retrieveQueries_eq_iff py retriever request request.queries h
        simp only [serve, RequestsMatch, retrieveEndpoint, List.map_cons, List.cons.injEq]
        rw [← ih _ hcorrect, ← hiff]
        rfl
  exact hrun newCache (correct_newCache py retriever)

/-! ## The same query with and without scores -/

/-- An index that finds the only document. -/
def singleDocRetriever : DenseRetriever LiteralFloat Unit where
  encode _ := ()
  index _ _ := ([.posInf], [0])
  corpus := [[(lit "title", .str (lit "Paris")), (lit "text", .str (lit "A city."))]]

def plainRequest : RetrieveRequest := { queries := [lit "where"] }

def scoredRequest : RetrieveRequest := { queries := [lit "where"], returnScores := true }

/-- The second request gets no documents. -/
theorem serve_ne_uncached :
    (serve asciiPython singleDocRetriever newCache [plainRequest, scoredRequest]).1 ≠
      [plainRequest, scoredRequest].map
        (retrieveEndpointUncached asciiPython singleDocRetriever) := by
  intro h
  have hlengths := congrArg (List.map (List.map List.length)) h
  revert hlengths
  decide

end SearchR1.RetrievalService
