import SearchR1.Verification.ToolCalls.Agreement
import SearchR1.Model.GenerateTeacherTrajectories
import SearchR1.Model.SearchTool

/-! # The query that is run for an assistant message -/

namespace SearchR1.ToolParser

open PyText PyJson PyLoop BuildSftData GenerateTeacherTrajectories

variable {F : Type} (py : Python F)

/-- The stripped query of the call the rollout executes when `max_parallel_calls` is 1. -/
def executedQuery (content : Text) : Option Text :=
  ((extractToolCalls py content).2.take 1).head?.bind fun call =>
    (loads py.json call.arguments).bind fun arguments =>
      (SearchTool.readQuery arguments).toOption

/-- Every accepted payload is a search call with distinct keys. -/
theorem exists_searchCall {content : Text} {payloads : List (Dict Text (Json F))}
    (h : parseToolCalls py content = .ok payloads) {payload : Dict Text (Json F)}
    (hmem : payload ∈ payloads) :
    (Json.obj payload).Wf ∧ ∃ call : SearchCall F, call.payload = payload := by
  obtain ⟨body, -, hbody⟩ := exists_of_mem_mapM h hmem
  obtain ⟨hload, hcall⟩ := (parseToolCall_ok_iff py).mp hbody
  exact ⟨loads_wf py.json hload, hcall⟩

/-- Among blank and accepted bodies, the first accepted one is the first that is not blank. -/
theorem exists_firstCall {bodies : List Text} {payloads : List (Dict Text (Json F))}
    (h : List.Forall₂ (fun body payload => parseToolCall py body = .ok payload)
      ((bodies.map strip).filter fun b => !b.isEmpty) payloads) {call : SearchCall F}
    (hcall : payloads.head? = some call.payload) :
    ∃ blank body rest, bodies = blank ++ body :: rest ∧ (∀ b ∈ blank, strip b = []) ∧
      strip body ≠ [] ∧ loads py.json (strip body) = some (.obj call.payload) := by
  induction bodies with
  | nil =>
      obtain rfl := List.forall₂_nil_left_iff.mp h
      cases hcall
  | cons body bodies ih =>
      by_cases hblank : strip body = []
      · obtain ⟨blank, body', rest, rfl, hblanks, hbody'⟩ := ih (by simpa [hblank] using h)
        exact ⟨body :: blank, body', rest, rfl, List.forall_mem_cons.mpr ⟨hblank, hblanks⟩, hbody'⟩
      · rw [List.map_cons, List.filter_cons_of_pos (by simpa using hblank)] at h
        cases h with
        | cons hbody hbodies =>
            obtain rfl := Option.some.inj hcall
            obtain ⟨hload, -⟩ := (parseToolCall_ok_iff py).mp hbody
            exact ⟨[], body, bodies, rfl, by simp, hblank, hload⟩

/-! ## The query the generator extracts -/

theorem callQuery_of_searchCall {body : Text} {call : SearchCall F}
    (h : loads py.json (strip body) = some (.obj call.payload)) :
    callQuery py body = .ok (some (strip call.query)) := by
  simp [callQuery, h, call.name_eq, call.arguments_eq, call.query_eq, call.query_ne]

theorem callQuery_of_blank {body : Text} (h : strip body = []) :
    callQuery py body = .ok none := by
  have hload : loads py.json [] = none := rfl
  simp [callQuery, h, hload]

/-- Among blank and accepted bodies, the first accepted one gives the query. -/
theorem firstQuery_of_forall₂ (bodies : List Text) {payloads : List (Dict Text (Json F))}
    (h : List.Forall₂ (fun body payload => parseToolCall py body = .ok payload)
      ((bodies.map strip).filter fun b => !b.isEmpty) payloads) (call : SearchCall F)
    (hcall : payloads.head? = some call.payload) :
    firstQuery py bodies = .ok (some (strip call.query)) := by
  obtain ⟨blank, body, rest, rfl, hblanks, -, hload⟩ := exists_firstCall py h hcall
  clear h
  induction blank with
  | nil => rw [List.nil_append, firstQuery, callQuery_of_searchCall py hload]
  | cons b blank ih =>
      rw [List.forall_mem_cons] at hblanks
      rw [List.cons_append, firstQuery, callQuery_of_blank py hblanks.1]
      exact ih hblanks.2

/-- The generator runs the query of the last accepted call. -/
theorem extractSearchQuery_of_parseToolCalls {content : Text}
    {payloads : List (Dict Text (Json F))} (h : parseToolCalls py content = .ok payloads)
    (call : SearchCall F) (hcall : payloads.getLast? = some call.payload) :
    extractSearchQuery py content = .ok (some (strip call.query)) := by
  rw [parseToolCalls_ok_iff, callBodies] at h
  have hreverse := List.forall₂_reverse_iff.mpr h
  rw [← List.filter_reverse, ← List.map_reverse] at hreverse
  have hfirst := firstQuery_of_forall₂ py _ hreverse call (by simpa using hcall)
  have hpattern : GenerateTeacherTrajectories.toolCallPattern content =
      BuildSftData.toolCallPattern content := rfl
  rw [extractSearchQuery, hpattern, hfirst]

/-! ## The query the rollout executes -/

/-- The first body that is not blank decides the first call when it is readable. -/
theorem head_decodeMatch (bodies : List Text)
    (hread : ∀ body ∈ (bodies.filter fun b => strip b ≠ []).head?, Readable body)
    {payloads : List (Dict Text (Json F))}
    (h : List.Forall₂ (fun body payload => parseToolCall py body = .ok payload)
      ((bodies.map strip).filter fun b => !b.isEmpty) payloads) (call : SearchCall F)
    (hcall : payloads.head? = some call.payload) :
    (bodies.filterMap (decodeMatch py)).head? =
      some { name := lit "search", arguments := dumps py.json (.obj call.arguments) } := by
  obtain ⟨blank, body, rest, rfl, hblanks, hne, hload⟩ := exists_firstCall py h hcall
  have hskip : (blank.filter fun b => strip b ≠ []) = [] := by
    rw [List.filter_eq_nil_iff]
    intro b hb
    simp [hblanks b hb]
  have hbody : Readable body := by
    apply hread
    rw [List.filter_append, hskip, List.nil_append, List.filter_cons_of_pos (by simpa using hne)]
    exact rfl
  have hdecode := decodeMatch_of_readable py hbody hload (functionCall_of_searchCall py call)
  have hnone : blank.filterMap (decodeMatch py) = [] :=
    List.filterMap_eq_nil_iff.mpr fun b hb => decodeMatch_of_blank py (hblanks b hb)
  rw [List.filterMap_append, hnone, List.nil_append, List.filterMap_cons_some hdecode,
    List.head?_cons]

/-- The rollout executes the query of the first accepted call. -/
theorem executedQuery_of_parseToolCalls {content : Text}
    (hread : ∀ body ∈ ((blocks toolCallOpen toolCallClose content).filter
      fun b => strip b ≠ []).head?, Readable body)
    {payloads : List (Dict Text (Json F))} (h : parseToolCalls py content = .ok payloads)
    (call : SearchCall F) (hcall : payloads.head? = some call.payload) :
    executedQuery py content = some (strip call.query) := by
  have hwf := (exists_searchCall py h (List.mem_of_mem_head? hcall)).1
  rw [parseToolCalls_ok_iff, callBodies_eq] at h
  have hhead := head_decodeMatch py _ hread h call hcall
  have hload := loads_dumps py.json _ (wf_of_get? hwf call.arguments_eq)
  have htake : ∀ calls : List FunctionCall, (calls.take 1).head? = calls.head? := by
    intro calls
    cases calls <;> rfl
  rw [executedQuery, extractToolCalls_calls, htake, hhead]
  simp [hload, SearchTool.readQuery, call.query_eq, Except.toOption]

/-- The generator takes the last call and the rollout the first, so they agree exactly when
these two have the same query. -/
theorem extractSearchQuery_eq_executedQuery (content : Text)
    (hread : ∀ body ∈ ((blocks toolCallOpen toolCallClose content).filter
      fun b => strip b ≠ []).head?, Readable body)
    {payloads : List (Dict Text (Json F))} (h : parseToolCalls py content = .ok payloads)
    (hne : payloads ≠ []) : ∃ first last : SearchCall F,
      payloads.head? = some first.payload ∧ payloads.getLast? = some last.payload ∧
      extractSearchQuery py content = .ok (some (strip last.query)) ∧
      executedQuery py content = some (strip first.query) ∧
      (extractSearchQuery py content = .ok (executedQuery py content) ↔
        strip last.query = strip first.query) ∧
      (payloads.length = 1 → extractSearchQuery py content = .ok (executedQuery py content)) := by
  obtain ⟨-, first, hfirst⟩ := exists_searchCall py h (List.head_mem hne)
  obtain ⟨-, last, hlast⟩ := exists_searchCall py h (List.getLast_mem hne)
  have hhead : payloads.head? = some first.payload := by
    rw [hfirst, List.head?_eq_some_head hne]
  have hgetLast : payloads.getLast? = some last.payload := by
    rw [hlast, List.getLast?_eq_some_getLast hne]
  have hextract := extractSearchQuery_of_parseToolCalls py h last hgetLast
  have hexecuted := executedQuery_of_parseToolCalls py hread h first hhead
  refine ⟨first, last, hhead, hgetLast, hextract, hexecuted, ?_, ?_⟩
  · simp [hextract, hexecuted]
  · intro hone
    obtain ⟨payload, rfl⟩ := List.length_eq_one_iff.mp hone
    have hextract' := extractSearchQuery_of_parseToolCalls py h first hhead
    rw [hextract', hexecuted]

theorem executedQuery_searchCallText : ∃ payloads,
    parseToolCalls asciiPython (searchCallText "x") = .ok payloads ∧
      ∃ first last : SearchCall LiteralFloat,
        payloads.head? = some first.payload ∧ payloads.getLast? = some last.payload ∧
        extractSearchQuery asciiPython (searchCallText "x") = .ok (some (strip last.query)) ∧
        executedQuery asciiPython (searchCallText "x") = some (strip first.query) := by
  obtain ⟨payloads, h, hlen⟩ := exists_payloads_of_length
    (searchCallText "x") 1 (by decide +kernel)
  have hne : payloads ≠ [] := by
    rintro rfl
    cases hlen
  obtain ⟨first, last, hfirst, hlast, hextract, hexecuted, -⟩ :=
    extractSearchQuery_eq_executedQuery asciiPython _ (by decide) h hne
  exact ⟨payloads, h, first, last, hfirst, hlast, hextract, hexecuted⟩

/-- Two calls in one message: the generator runs the second query, the rollout the first. -/
theorem executedQuery_twoCalls : ¬ ∀ (content : Text)
    (payloads : List (Dict Text (Json LiteralFloat))),
    parseToolCalls asciiPython content = .ok payloads → payloads ≠ [] →
      extractSearchQuery asciiPython content = .ok (executedQuery asciiPython content) := by
  intro hgeneral
  obtain ⟨payloads, h, hlen⟩ := exists_payloads_of_length
    (searchCallText "x" ++ searchCallText "y") 2 (by decide +kernel)
  have hne : payloads ≠ [] := by
    rintro rfl
    cases hlen
  have hextract : (extractSearchQuery asciiPython
      (searchCallText "x" ++ searchCallText "y")).toOption = some (some (lit "y")) := by
    decide +kernel
  have hexecuted : executedQuery asciiPython (searchCallText "x" ++ searchCallText "y") =
      some (lit "x") := by
    decide +kernel
  rw [hgeneral _ _ h hne, hexecuted] at hextract
  revert hextract
  decide

end SearchR1.ToolParser
