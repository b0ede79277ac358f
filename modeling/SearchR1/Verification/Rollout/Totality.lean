import SearchR1.Model.AsciiRuntime
import SearchR1.Verification.Rollout.SearchOutcomes

/-! # When a search call returns -/

namespace SearchR1.SearchTool

open PyText PyJson

variable {F : Type} (py : Python F) (cfg : Config)

/-! ## What the call can read -/

/-- Values of `topk` that are false or that `int` reads. -/
def IntLike : Json F → Prop
  | .float x => py.floatTruthy x → (py.floatToInt x).isSome
  | .str t => t ≠ [] → (py.intOfStr t).isSome
  | .arr vs => vs = []
  | .obj ms => ms = []
  | _ => True

/-- Values of a text field that are false or that can be measured and need no cut. -/
def TextLike : Json F → Prop
  | .str _ => True
  | .arr vs => vs.length ≤ cfg.maxDocChars
  | .obj ms => ms.length ≤ cfg.maxDocChars
  | v => py.truthy v = false

/-- The text of a document, or its contents when that is false. -/
def textField (docContent : List (Text × Json F)) : Json F :=
  let text := (Dict.get? docContent (lit "text")).getD (.str [])
  if py.truthy text then text else (Dict.get? docContent (lit "contents")).getD (.str [])

def ReadableDoc : Json F → Prop
  | .obj doc => ∃ docContent, (Dict.get? doc (lit "document")).getD (.obj doc) = .obj docContent ∧
      TextLike py cfg (textField py docContent)
  | _ => True

/-- Documents are iterated over: a string and an object have items that are strings. -/
def ReadableDocs : Json F → Prop
  | .arr docs => ∀ doc ∈ docs, ReadableDoc py cfg doc
  | .str _ => True
  | .obj _ => True
  | _ => False

def ReadableBody (responseText : Text) : Prop :=
  match loads py.json responseText with
  | none => True
  | some (.obj parsed) => ∀ docs rest, Dict.get? parsed (lit "result") = some (.arr (docs :: rest)) →
      ReadableDocs py cfg docs
  | some _ => False

/-- The query is a string; unless it is blank, `topk` is a number and the service raises or
answers with a body that can be read. -/
def Answerable (parameters : List (Text × Json F)) (service : Service) : Prop :=
  ∃ query, (Dict.get? parameters (lit "query")).getD (.str []) = .str query ∧
    (strip query ≠ [] →
      IntLike py ((Dict.get? parameters (lit "topk")).getD (.int cfg.defaultTopk)) ∧
      ∀ topk responseText, readTopk py cfg (.obj parameters) = .ok topk →
        (service (strip query) topk).1 = .text responseText → ReadableBody py cfg responseText)

variable {py cfg}

/-! ## Parameters -/

theorem readQuery_eq_ok_iff {parameters : List (Text × Json F)} {query : Text} :
    readQuery (.obj parameters) = .ok query ↔
      ∃ t, (Dict.get? parameters (lit "query")).getD (.str []) = .str t ∧ query = strip t := by
  simp only [readQuery]
  cases (Dict.get? parameters (lit "query")).getD (.str []) with
  | str t =>
      constructor
      · intro h
        cases h
        exact ⟨t, rfl, rfl⟩
      · intro h
        rcases h with ⟨t', ht, rfl⟩
        cases ht
        rfl
  | _ => simp

/-- A value is false, or `int` reads it. -/
theorem intLike_iff {topk : Json F} :
    IntLike py topk ↔ py.truthy topk → ∃ n, toInt py topk = .ok n := by
  cases topk with
  | float x =>
      simp only [IntLike, toInt, Python.truthy]
      cases py.floatToInt x <;> simp
  | str t =>
      simp only [IntLike, toInt, Python.truthy]
      cases py.intOfStr t <;> simp
  | _ => simp [IntLike, toInt, Python.truthy, asInt]

theorem exists_readTopk_iff {parameters : List (Text × Json F)} :
    (∃ n, readTopk py cfg (.obj parameters) = .ok n) ↔
      IntLike py ((Dict.get? parameters (lit "topk")).getD (.int cfg.defaultTopk)) := by
  rw [intLike_iff]
  simp only [readTopk]
  generalize (Dict.get? parameters (lit "topk")).getD (.int cfg.defaultTopk) = topk
  cases htruthy : py.truthy topk with
  | true =>
      simp only [ite_true, PyLoop.bind_eq_ok_iff, forall_const]
      constructor
      · intro h
        rcases h with ⟨_, n, hn, _⟩
        exact ⟨n, hn⟩
      · intro h
        rcases h with ⟨n, hn⟩
        exact ⟨_, n, hn, rfl⟩
  | false =>
      simp only [Bool.false_eq_true, ite_false, false_implies, iff_true]
      exact ⟨_, rfl⟩

/-! ## Documents -/

theorem exists_truncateDoc_str (t : Text) :
    ∃ part, truncateDoc py cfg (.str t) = .ok part := by
  simp only [truncateDoc]
  split
  · exact ⟨_, rfl⟩
  · exact ⟨_, rfl⟩

theorem textLike_iff {text : Json F} :
    TextLike py cfg text ↔ py.truthy text → ∃ part, truncateDoc py cfg text = .ok part := by
  cases text with
  | str t => exact iff_of_true trivial fun _ => exists_truncateDoc_str t
  | arr vs =>
      simp only [TextLike, truncateDoc]
      by_cases hlong : vs.length > cfg.maxDocChars
      · have hne : vs ≠ [] := List.ne_nil_of_length_pos (by omega)
        simp [hlong, hne, Python.truthy]
      · simp [hlong, Nat.le_of_not_lt hlong]
  | obj ms =>
      simp only [TextLike, truncateDoc]
      by_cases hlong : ms.length > cfg.maxDocChars
      · have hne : ms ≠ [] := List.ne_nil_of_length_pos (by omega)
        simp [hlong, hne, Python.truthy]
      · simp [hlong, Nat.le_of_not_lt hlong]
  | _ => simp [TextLike, truncateDoc]

theorem exists_formatDoc_iff {i : ℕ} {doc : Json F} :
    (∃ part, formatDoc py cfg i doc = .ok part) ↔ ReadableDoc py cfg doc := by
  have hparts : ∀ title text, readDoc py doc = .ok (title, text) →
      ((∃ part, formatDoc py cfg i doc = .ok part) ↔
        ∃ shown, truncateDoc py cfg text = .ok shown) := by
    intro title text hread
    simp only [formatDoc, hread, PyLoop.bind_eq_ok_iff]
    constructor
    · intro h
      rcases h with ⟨_, _, hread', shown, htruncate, _⟩
      cases hread'
      exact ⟨shown, htruncate⟩
    · intro h
      rcases h with ⟨shown, htruncate⟩
      exact ⟨_, _, rfl, shown, htruncate, rfl⟩
  cases doc with
  | obj doc =>
      cases hdocument : (Dict.get? doc (lit "document")).getD (.obj doc) with
      | obj docContent =>
          have hread : readDoc py (.obj doc) = .ok
              ((Dict.get? docContent (lit "title")).getD (.str []),
                if py.truthy (textField py docContent) then textField py docContent
                else .str (py.str (.obj docContent))) := by
            simp only [readDoc, hdocument]
            rfl
          have hreadable : ReadableDoc py cfg (.obj doc) ↔
              TextLike py cfg (textField py docContent) := by
            simp only [ReadableDoc, hdocument, Json.obj.injEq, exists_eq_left']
          rw [hparts _ _ hread, hreadable, textLike_iff]
          cases py.truthy (textField py docContent) with
          | true => simp
          | false =>
              simp only [Bool.false_eq_true, ite_false, false_implies, iff_true]
              exact exists_truncateDoc_str _
      | _ => simp [formatDoc, readDoc, ReadableDoc, hdocument, bind, Except.bind]
  | _ => exact iff_of_true ((hparts _ _ rfl).mpr (exists_truncateDoc_str _)) trivial

theorem exists_formatDocs_iff {docs : List (Json F)} {i : ℕ} :
    (∃ parts, formatDocs py cfg i docs = .ok parts) ↔ ∀ doc ∈ docs, ReadableDoc py cfg doc := by
  induction docs generalizing i with
  | nil => simp [formatDocs]
  | cons doc docs ih =>
      rw [List.forall_mem_cons, ← exists_formatDoc_iff, ← ih]
      simp only [formatDocs, PyLoop.bind_eq_ok_iff]
      constructor
      · intro h
        rcases h with ⟨_, part, hpart, parts, hparts, _⟩
        exact ⟨⟨part, hpart⟩, ⟨parts, hparts⟩⟩
      · intro h
        rcases h with ⟨⟨part, hpart⟩, ⟨parts, hparts⟩⟩
        exact ⟨_, part, hpart, parts, hparts, rfl⟩

/-! ## Bodies -/

/-- Documents can be read when the value can be iterated over and its items can be formatted. -/
theorem exists_iterate_iff {docs : Json F} : (∃ items parts, iterate docs = .ok items ∧
    formatDocs py cfg 0 items = .ok parts) ↔ ReadableDocs py cfg docs := by
  cases docs with
  | arr docs => simp [iterate, ReadableDocs, exists_formatDocs_iff]
  | str t =>
      have hchars : ∀ doc ∈ t.map fun c => (.str [c] : Json F), ReadableDoc py cfg doc := by
        intro doc hdoc
        rcases List.mem_map.mp hdoc with ⟨c, _, rfl⟩
        trivial
      simp [iterate, ReadableDocs, exists_formatDocs_iff.mpr hchars]
  | obj ms =>
      have hkeys : ∀ doc ∈ ms.map fun m => (.str m.1 : Json F), ReadableDoc py cfg doc := by
        intro doc hdoc
        rcases List.mem_map.mp hdoc with ⟨m, _, rfl⟩
        trivial
      simp [iterate, ReadableDocs, exists_formatDocs_iff.mpr hkeys]
  | _ => simp [iterate, ReadableDocs]

theorem exists_body_iff {responseText : Text} (docs : Json F)
    (hread : readDocs py responseText = .ok docs) :
    (∃ docs items parts, readDocs py responseText = .ok docs ∧ iterate docs = .ok items ∧
      formatDocs py cfg 0 items = .ok parts) ↔ ReadableDocs py cfg docs := by
  rw [← exists_iterate_iff, hread]
  constructor
  · intro h
    rcases h with ⟨_, items, parts, hd, h⟩
    cases hd
    exact ⟨items, parts, h⟩
  · intro h
    rcases h with ⟨items, parts, h⟩
    exact ⟨docs, items, parts, rfl, h⟩

/-- A body can be read when its documents can be. -/
theorem exists_formatDocs_of_body_iff {responseText : Text} :
    (∃ docs items parts, readDocs py responseText = .ok docs ∧ iterate docs = .ok items ∧
      formatDocs py cfg 0 items = .ok parts) ↔ ReadableBody py cfg responseText := by
  have hempty : ReadableDocs py cfg (.arr []) := by
    intro doc hdoc
    cases hdoc
  unfold ReadableBody
  cases hloads : loads py.json responseText with
  | none =>
      rw [exists_body_iff (.arr []) (by rw [readDocs, hloads])]
      exact iff_of_true hempty trivial
  | some value =>
      cases value with
      | obj parsed =>
          cases hresult : Dict.get? parsed (lit "result") with
          | none =>
              rw [exists_body_iff (.arr []) (by simp only [readDocs, hloads, hresult])]
              exact iff_of_true hempty (by simp [hresult])
          | some result =>
              cases result with
              | arr results =>
                  cases results with
                  | nil =>
                      rw [exists_body_iff (.arr []) (by simp only [readDocs, hloads, hresult])]
                      exact iff_of_true hempty (by simp [hresult])
                  | cons docs rest =>
                      rw [exists_body_iff docs (by simp only [readDocs, hloads, hresult])]
                      simp [hresult]
              | _ =>
                  rw [exists_body_iff (.arr []) (by simp only [readDocs, hloads, hresult])]
                  exact iff_of_true hempty (by simp [hresult])
      | _ =>
          apply iff_of_false
          · intro h
            rcases h with ⟨_, _, _, hd, _⟩
            simp only [readDocs, hloads] at hd
            cases hd
          · exact id

/-! ## Calls -/

theorem exists_execute_iff {parameters : List (Text × Json F)} {service : Service} :
    (∃ result, execute py cfg (.obj parameters) service = .ok result) ↔
      Answerable py cfg parameters service := by
  constructor
  · intro h
    rcases h with ⟨result, h⟩
    unfold execute at h
    rw [PyLoop.bind_eq_ok_iff] at h
    rcases h with ⟨query, hquery, h⟩
    rcases readQuery_eq_ok_iff.mp hquery with ⟨t, ht, rfl⟩
    refine ⟨t, ht, ?_⟩
    intro hne
    rw [if_neg hne, PyLoop.bind_eq_ok_iff] at h
    rcases h with ⟨topk, htopk, h⟩
    refine ⟨exists_readTopk_iff.mp ⟨topk, htopk⟩, ?_⟩
    intro topk' responseText htopk' hservice
    rw [htopk] at htopk'
    cases htopk'
    cases houtcome : service (strip t) topk with
    | mk outcome latencyMs =>
        rw [houtcome] at h hservice
        cases hservice
        simp only [PyLoop.bind_eq_ok_iff] at h
        rcases h with ⟨docs, hdocs, items, hitems, parts, hparts, _⟩
        exact exists_formatDocs_of_body_iff.mp ⟨docs, items, parts, hdocs, hitems, hparts⟩
  · intro h
    rcases h with ⟨t, ht, hcall⟩
    have hquery : readQuery (.obj parameters) = .ok (strip t) :=
      readQuery_eq_ok_iff.mpr ⟨t, ht, rfl⟩
    by_cases hblank : strip t = []
    · refine ⟨makeErrorResponse .emptyQuery (lit "Query is empty.") 0, ?_⟩
      simp only [execute, hquery, hblank, bind, Except.bind, ite_true]
      rfl
    · rcases hcall hblank with ⟨htopk, hbody⟩
      rcases exists_readTopk_iff.mpr htopk with ⟨topk, htopk⟩
      cases hservice : service (strip t) topk with
      | mk outcome latencyMs =>
          simp only [execute, hquery, htopk, hservice, bind, Except.bind, if_neg hblank]
          cases outcome with
          | text responseText =>
              have houtcome : (service (strip t) topk).1 = .text responseText := by
                rw [hservice]
              rcases exists_formatDocs_of_body_iff.mpr (hbody topk responseText htopk houtcome) with
                ⟨docs, items, parts, hdocs, hitems, hparts⟩
              simp only [hdocs, hitems, hparts]
              exact ⟨_, rfl⟩
          | _ => exact ⟨_, rfl⟩

theorem framed_of_execute {parameters : Json F} {service : Service} {response : ToolResponse}
    {m : SearchMetrics} (h : execute py cfg parameters service = .ok (response, m)) :
    informationOpen <+: response.text ∧ informationClose <:+ response.text := by
  have hopen : informationOpen <+: lit "<information>\n" := by decide
  have hopenFailed : informationOpen <+: lit "<information>\nSearch failed: " := by decide
  have hclose : informationClose <:+ lit "\n</information>" := by decide
  rcases execute_cases h with ⟨errorType, message, latencyMs, _, _, heq⟩ |
    ⟨items, parts, latencyMs, _, _, heq⟩
  · have htext : response.text =
        lit "<information>\nSearch failed: " ++ message ++ lit "\n</information>" :=
      congrArg (fun result => result.1.text) heq
    rw [htext, List.append_assoc]
    refine ⟨hopenFailed.trans (List.prefix_append _ _), ?_⟩
    rw [← List.append_assoc]
    exact hclose.trans (List.suffix_append _ _)
  · have htext : response.text = (makeResponse cfg parts latencyMs).1.text :=
      congrArg (fun result => result.1.text) heq
    rw [htext, text_makeResponse, List.append_assoc]
    refine ⟨hopen.trans (List.prefix_append _ _), ?_⟩
    rw [← List.append_assoc]
    exact hclose.trans (List.suffix_append _ _)

/-- A call returns a framed text and metrics that count it exactly when its query is a string, its
`topk` a number and the body of the response one that can be read. -/
theorem execute_counts_iff (parameters : List (Text × Json F)) (service : Service) :
    (∃ response m, execute py cfg (.obj parameters) service = .ok (response, m) ∧
      informationOpen <+: response.text ∧ informationClose <:+ response.text ∧
      m.called = 1 ∧ m.success + m.failed = 1 ∧ (m.success = 1 ↔ 0 < m.numDocs)) ↔
      Answerable py cfg parameters service := by
  rw [← exists_execute_iff]
  constructor
  · intro h
    rcases h with ⟨response, m, h, _⟩
    exact ⟨(response, m), h⟩
  · intro h
    rcases h with ⟨⟨response, m⟩, h⟩
    rcases framed_of_execute h with ⟨hopen, hclose⟩
    have hconsistent := consistent_of_execute h
    refine ⟨response, m, h, hopen, hclose, hconsistent.called, failed_of_execute h, ?_⟩
    rcases hconsistent.success with hfound | hnone
    · exact iff_of_true hfound.1 hfound.2
    · rw [hnone.1, hnone.2]
      simp

/-- A number of documents spelled out, or a body that is a list, makes the call raise. -/
theorem execute_raises :
    (¬ ∃ result, execute asciiPython {}
      (.obj [(lit "query", .str (lit "who")), (lit "topk", .str (lit "three"))])
      (fun _ _ => (.timeout, 0)) = .ok result) ∧
    ¬ ∃ result, execute asciiPython {} (.obj [(lit "query", .str (lit "who"))])
      (fun _ _ => (.text (lit "[]"), 0)) = .ok result := by
  rw [exists_execute_iff, exists_execute_iff]
  constructor
  · intro h
    rcases h with ⟨query, hquery, h⟩
    cases hquery
    have htopk := (h (by decide)).1
    have hsome : (asciiPython.intOfStr (lit "three")).isSome := htopk (by decide)
    exact absurd hsome (by decide)
  · intro h
    rcases h with ⟨query, hquery, h⟩
    cases hquery
    have hbody : ReadableBody asciiPython {} (lit "[]") :=
      (h (by decide)).2 3 (lit "[]") rfl rfl
    have hloads : loads asciiPython.json (lit "[]") = some (.arr []) :=
      loads_dumps asciiPython.json (.arr []) trivial
    simp only [ReadableBody, hloads] at hbody

end SearchR1.SearchTool
