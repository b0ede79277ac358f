import SearchR1.Library.JsonRoundTrip
import SearchR1.Library.Monadic
import SearchR1.Library.Tags
import SearchR1.Verification.Rollout.Steps

/-! # What a search call reports -/

namespace SearchR1.SearchTool

open PyText PyJson ToolAgentLoop

variable {F : Type} {py : Python F} {cfg : Config}

/-- The documents that a call gets from the service. -/
def Retrieves (py : Python F) (cfg : Config) (parameters : Json F) (service : Service)
    (items : List (Json F)) : Prop :=
  ∃ query topk responseText latencyMs docs, readQuery parameters = .ok query ∧ query ≠ [] ∧
    readTopk py cfg parameters = .ok topk ∧
    service query topk = (.text responseText, latencyMs) ∧
    readDocs py responseText = .ok docs ∧ iterate docs = .ok items

theorem Retrieves.unique {parameters : Json F} {service : Service} {items items' : List (Json F)}
    (h : Retrieves py cfg parameters service items)
    (h' : Retrieves py cfg parameters service items') : items = items' := by
  obtain ⟨query, topk, responseText, latencyMs, docs, hquery, -, htopk, hservice, hdocs,
    hiterate⟩ := h
  obtain ⟨query', topk', responseText', latencyMs', docs', hquery', -, htopk', hservice', hdocs',
    hiterate'⟩ := h'
  rw [hquery] at hquery'
  cases hquery'
  rw [htopk] at htopk'
  cases htopk'
  rw [hservice] at hservice'
  cases hservice'
  rw [hdocs] at hdocs'
  cases hdocs'
  rw [hiterate] at hiterate'
  exact Except.ok.inj hiterate'

/-- A call that returns reports one of the four errors, or the documents it formatted. -/
theorem execute_cases {parameters : Json F} {service : Service}
    {result : ToolResponse × SearchMetrics}
    (h : execute py cfg parameters service = .ok result) :
    (∃ errorType message latencyMs, errorType ≠ .none ∧ errorType ≠ .emptyResult ∧
      result = makeErrorResponse errorType message latencyMs) ∨
    ∃ items parts latencyMs, Retrieves py cfg parameters service items ∧
      formatDocs py cfg 0 items = .ok parts ∧ result = makeResponse cfg parts latencyMs := by
  unfold execute at h
  rw [PyLoop.bind_eq_ok_iff] at h
  rcases h with ⟨query, hquery, h⟩
  split at h
  · cases h
    exact .inl ⟨.emptyQuery, _, _, by decide, by decide, rfl⟩
  · rename_i hne
    rw [PyLoop.bind_eq_ok_iff] at h
    rcases h with ⟨topk, htopk, h⟩
    cases hservice : service query topk with
    | mk outcome latencyMs =>
        rw [hservice] at h
        cases outcome with
        | timeout =>
            cases h
            exact .inl ⟨.timeout, _, _, by decide, by decide, rfl⟩
        | clientError e =>
            cases h
            exact .inl ⟨.httpError, _, _, by decide, by decide, rfl⟩
        | exception e =>
            cases h
            exact .inl ⟨.unknownError, _, _, by decide, by decide, rfl⟩
        | text responseText =>
            simp only [PyLoop.bind_eq_ok_iff] at h
            rcases h with ⟨docs, hdocs, items, hitems, parts, hparts, h⟩
            cases h
            exact .inr ⟨items, parts, latencyMs,
              ⟨query, topk, responseText, latencyMs, docs, hquery, hne, htopk, hservice, hdocs,
                hitems⟩, hparts, rfl⟩

/-- A call that gets documents and returns has formatted them. -/
theorem execute_of_retrieves {parameters : Json F} {service : Service} {items : List (Json F)}
    {result : ToolResponse × SearchMetrics} (hitems : Retrieves py cfg parameters service items)
    (h : execute py cfg parameters service = .ok result) :
    ∃ parts latencyMs, formatDocs py cfg 0 items = .ok parts ∧
      result = makeResponse cfg parts latencyMs := by
  obtain ⟨query, topk, responseText, latencyMs, docs, hquery, hne, htopk, hservice, hdocs,
    hiterate⟩ := hitems
  unfold execute at h
  simp only [hquery, htopk, hservice, hdocs, hiterate, bind, Except.bind, if_neg hne] at h
  cases hparts : formatDocs py cfg 0 items with
  | error e =>
      rw [hparts] at h
      cases h
  | ok parts =>
      rw [hparts] at h
      cases h
      exact ⟨parts, latencyMs, rfl, rfl⟩

/-! ## Formatted documents -/

/-- A text is cut behind its first `max_doc_chars` code points, or shown as it is. -/
theorem truncateDoc_cases {text : Json F} {part : Text × Bool}
    (h : truncateDoc py cfg text = .ok part) :
    (∃ t, text = .str t ∧ cfg.maxDocChars < t.length ∧
      part = (t.take cfg.maxDocChars ++ lit "...", true)) ∨
    part = (py.text text, false) ∧ ∀ t, text = .str t → t.length ≤ cfg.maxDocChars := by
  cases text with
  | str t =>
      simp only [truncateDoc] at h
      split at h
      · rename_i hlong
        cases h
        exact .inl ⟨t, rfl, hlong, rfl⟩
      · rename_i hshort
        cases h
        refine .inr ⟨rfl, ?_⟩
        intro t' ht
        cases ht
        exact Nat.le_of_not_lt hshort
  | arr vs =>
      simp only [truncateDoc] at h
      split at h
      · cases h
      · cases h
        exact .inr ⟨rfl, by simp⟩
  | obj ms =>
      simp only [truncateDoc] at h
      split at h
      · cases h
      · cases h
        exact .inr ⟨rfl, by simp⟩
  | _ => cases h

/-- What stands in front of the text of a document. -/
def docLabel (py : Python F) (i : ℕ) (title : Json F) : Text :=
  (if py.truthy title then
    lit "Doc " ++ natText (i + 1) ++ lit "(Title: " ++ py.text title ++ lit ")"
  else lit "Doc " ++ natText (i + 1)) ++ lit ":\n"

theorem exists_of_formatDoc {i : ℕ} {doc : Json F} {part : Text × Bool}
    (h : formatDoc py cfg i doc = .ok part) :
    ∃ title text shown, readDoc py doc = .ok (title, text) ∧
      truncateDoc py cfg text = .ok shown ∧ part = (docLabel py i title ++ shown.1, shown.2) := by
  unfold formatDoc at h
  rw [PyLoop.bind_eq_ok_iff] at h
  rcases h with ⟨⟨title, text⟩, hread, h⟩
  rw [PyLoop.bind_eq_ok_iff] at h
  rcases h with ⟨shown, htruncate, h⟩
  cases h
  exact ⟨title, text, shown, hread, htruncate, rfl⟩

/-- Every document has its part. -/
theorem forall₂_formatDocs {docs : List (Json F)} {i : ℕ} {parts : List (Text × Bool)}
    (h : formatDocs py cfg i docs = .ok parts) :
    List.Forall₂ (fun doc part => ∃ j, formatDoc py cfg j doc = .ok part) docs parts := by
  induction docs generalizing i parts with
  | nil =>
      cases h
      exact .nil
  | cons doc docs ih =>
      rw [formatDocs, PyLoop.bind_cons_eq_ok_iff] at h
      rcases h with ⟨part, rest, hpart, hrest, rfl⟩
      exact .cons ⟨i, hpart⟩ (ih hrest)

/-! ## Bodies -/

/-- The body of a response without documents. -/
def emptyBody : Text := lit "Search failed: No relevant documents were returned."

/-- The body made from the formatted documents. -/
def bodyOf (parts : List (Text × Bool)) : Text :=
  if !parts.isEmpty then (lit "\n\n").intercalate (parts.map Prod.fst)
  else emptyBody

theorem infix_bodyOf {parts : List (Text × Bool)} {part : Text × Bool} (h : part ∈ parts) :
    part.1 <:+: bodyOf parts := by
  have hne : parts.isEmpty = false := List.isEmpty_eq_false_iff.mpr (List.ne_nil_of_mem h)
  rw [bodyOf, hne]
  exact infix_intercalate (List.mem_map_of_mem h)

theorem text_makeResponse (parts : List (Text × Bool)) (latencyMs : ℚ) :
    (makeResponse cfg parts latencyMs).1.text =
      lit "<information>\n" ++ (truncateBody cfg (bodyOf parts)).1 ++ lit "\n</information>" := rfl

/-! ## Pages of documents -/

/-- An answer of the service to one query. -/
def resultPage (docs : List (Json F)) : Json F :=
  .obj [(lit "result", .arr [.arr docs])]

theorem readDocs_resultPage (py : Python F) {docs : List (Json F)}
    (hwf : ∀ doc ∈ docs, doc.Wf) :
    readDocs py (dumps py.json (resultPage docs)) = .ok (.arr docs) := by
  have hpage : (resultPage docs).Wf := by
    simpa [resultPage, Json.Wf, WfMembers, WfElems, Dict.keys,
      wfElems_iff] using hwf
  have hloads : loads py.json (dumps py.json (resultPage docs)) =
      some (resultPage docs) := loads_dumps py.json _ hpage
  rw [readDocs, hloads]
  rfl

/-- A call gets the documents of the page. -/
theorem eq_of_retrieves_resultPage {parameters : Json F} {service : Service}
    {docs items : List (Json F)} (hwf : ∀ doc ∈ docs, doc.Wf)
    (hservice : ∀ query topk,
      (service query topk).1 = .text (dumps py.json (resultPage docs)))
    (h : Retrieves py cfg parameters service items) : items = docs := by
  obtain ⟨query, topk, responseText, latencyMs, page, -, -, -, houtcome, hpage, hitems⟩ := h
  have htext := hservice query topk
  rw [houtcome] at htext
  cases htext
  rw [readDocs_resultPage py hwf] at hpage
  cases hpage
  cases hitems
  rfl

/-! ## Metrics of one call -/

/-- The fields of a metrics record agree. -/
structure Consistent (m : SearchMetrics) : Prop where
  called : m.called = 1
  success : m.success = 1 ∧ 0 < m.numDocs ∨ m.success = 0 ∧ m.numDocs = 0
  timeout : m.timeout = if m.exceptionType = .timeout then 1 else 0

theorem consistent_makeErrorResponse (errorType : ExceptionType) (message : Text)
    (latencyMs : ℚ) : Consistent (makeErrorResponse errorType message latencyMs).2 where
  called := rfl
  success := .inr ⟨rfl, rfl⟩
  timeout := rfl

theorem consistent_makeResponse (cfg : Config) (parts : List (Text × Bool)) (latencyMs : ℚ) :
    Consistent (makeResponse cfg parts latencyMs).2 := by
  cases parts with
  | nil => exact ⟨rfl, .inr ⟨rfl, rfl⟩, rfl⟩
  | cons part parts => exact ⟨rfl, .inl ⟨rfl, Nat.succ_pos _⟩, rfl⟩

theorem consistent_of_execute {parameters : Json F} {service : Service}
    {response : ToolResponse} {m : SearchMetrics}
    (h : execute py cfg parameters service = .ok (response, m)) : Consistent m := by
  rcases execute_cases h with ⟨errorType, message, latencyMs, -, -, heq⟩ |
    ⟨items, parts, latencyMs, -, -, heq⟩
  · have hm : m = (makeErrorResponse errorType message latencyMs).2 := congrArg Prod.snd heq
    rw [hm]
    exact consistent_makeErrorResponse errorType message latencyMs
  · have hm : m = (makeResponse cfg parts latencyMs).2 := congrArg Prod.snd heq
    rw [hm]
    exact consistent_makeResponse cfg parts latencyMs

theorem responseTruncated_le_one {parameters : Json F} {service : Service}
    {response : ToolResponse} {m : SearchMetrics}
    (h : execute py cfg parameters service = .ok (response, m)) : m.responseTruncated ≤ 1 := by
  rcases execute_cases h with ⟨errorType, message, latencyMs, -, -, heq⟩ |
    ⟨items, parts, latencyMs, -, -, heq⟩
  · cases heq
    exact Nat.zero_le 1
  · cases heq
    change (if (parts.any Prod.snd || (truncateBody cfg (bodyOf parts)).2) = true
      then 1 else 0) ≤ 1
    split <;> omega

/-- A call succeeds or fails. -/
theorem failed_of_execute {parameters : Json F} {service : Service}
    {response : ToolResponse} {m : SearchMetrics}
    (h : execute py cfg parameters service = .ok (response, m)) : m.success + m.failed = 1 := by
  rcases execute_cases h with ⟨errorType, message, latencyMs, -, -, heq⟩ |
    ⟨items, parts, latencyMs, -, -, heq⟩
  · cases heq
    rfl
  · cases heq
    cases parts with
    | nil => rfl
    | cons part parts => rfl

end SearchR1.SearchTool
