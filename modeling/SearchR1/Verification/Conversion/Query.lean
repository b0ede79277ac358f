import SearchR1.Library.JsonRoundTrip
import SearchR1.Model.AsciiRuntime
import SearchR1.Model.ConvertToHermesSft
import SearchR1.Verification.Teacher.Turns

/-! # The query of a converted message -/

namespace SearchR1.ConvertToHermesSft

open PyText PyJson GenerateTeacherTrajectories

theorem isTag_toolCallOpen : IsTag toolCallOpen := ⟨lit "tool_call", rfl, by decide, by decide⟩

theorem isTag_toolCallClose : IsTag toolCallClose := ⟨lit "/tool_call", rfl, by decide, by decide⟩

theorem searchOpen_ne_nil : searchOpen ≠ [] := by decide

/-! ## Tags in a printed string -/

theorem not_mem_hexDigits (n : Fin 0x20) :
    ch '<' ∉ lit "u00" ++ [hexDigit (n.val / 16), hexDigit (n.val % 16)] := by
  revert n
  decide

/-- A code point is printed as itself or behind a backslash. -/
theorem escape_cases (c : CodePoint) :
    escape c = [c] ∨ ∃ e, escape c = ch '\\' :: e ∧ ch '<' ∉ e := by
  unfold escape
  split_ifs
  all_goals first
    | exact .inr ⟨_, rfl, not_mem_hexDigits ⟨c.val, ‹_›⟩⟩
    | exact .inr ⟨_, rfl, by decide⟩
    | exact .inl rfl

variable {p : Text}

/-- Printing keeps the place of every code point a plain tag starts with. -/
theorem prefix_of_prefix_escape (hslash : ch '\\' ∉ p) (hquote : ch '"' ∉ p) (t y : Text)
    (h : p <+: t.flatMap escape ++ ch '"' :: y) : p <+: t := by
  induction t generalizing p with
  | nil =>
      cases p with
      | nil => exact List.nil_prefix
      | cons d p =>
          rw [List.flatMap_nil, List.nil_append, List.cons_prefix_cons] at h
          exact absurd (h.1 ▸ List.mem_cons_self) hquote
  | cons c t ih =>
      cases p with
      | nil => exact List.nil_prefix
      | cons d p =>
          rw [List.mem_cons, not_or] at hslash hquote
          rw [List.flatMap_cons, List.append_assoc] at h
          rcases escape_cases c with hc | ⟨e, hc, -⟩
          · rw [hc, List.singleton_append, List.cons_prefix_cons] at h
            rw [List.cons_prefix_cons]
            exact ⟨h.1, ih hslash.2 hquote.2 h.2⟩
          · rw [hc, List.cons_append, List.cons_prefix_cons] at h
            exact absurd h.1.symm hslash.1

/-- A tag in a printed string stands in the string. -/
theorem contains_of_contains_escape (hp : IsTag p) (hslash : ch '\\' ∉ p) (hquote : ch '"' ∉ p)
    (t : Text) {y : Text} (hy : ch '<' ∉ y)
    (h : contains p (t.flatMap escape ++ ch '"' :: y)) : contains p t := by
  rw [contains_iff] at h ⊢
  induction t with
  | nil =>
      have hmem := h.subset hp.mem
      rcases List.mem_cons.mp hmem with hmem | hmem
      · exact absurd hmem (by decide)
      · exact absurd hmem hy
  | cons c t ih =>
      rw [List.infix_cons_iff]
      rcases escape_cases c with hc | ⟨e, hc, he⟩
      · have hall : p <:+: c :: (t.flatMap escape ++ ch '"' :: y) := by
          rwa [List.flatMap_cons, hc] at h
        rcases List.infix_cons_iff.mp hall with hpre | hinfix
        · left
          apply prefix_of_prefix_escape hslash hquote (c :: t) y
          rwa [List.flatMap_cons, hc]
        · exact .inr (ih hinfix)
      · right
        apply ih
        rw [List.flatMap_cons, List.append_assoc, hc] at h
        apply infix_of_append_head hp.head? _ h
        rw [List.mem_cons, not_or]
        exact ⟨by decide, he⟩

/-! ## The recorded call -/

variable {F : Type} (py : Python F)

/-- What the converter records as the query of a body that is no JSON object. -/
def recordedQuery (queryContent : Text) : Text :=
  match loads py.json queryContent with
  | some value => py.text value
  | none => queryContent

def queryPayload (query : Text) : Json F :=
  searchPayload (.obj [(lit "query", .str query)])

theorem toolCallPayload_eq {queryContent : Text}
    (hobj : ∀ parsed, loads py.json queryContent ≠ some (.obj parsed)) :
    toolCallPayload py queryContent = queryPayload (recordedQuery py queryContent) := by
  unfold toolCallPayload recordedQuery
  cases h : loads py.json queryContent with
  | none => rfl
  | some value =>
      cases value with
      | obj parsed => exact absurd h (hobj parsed)
      | _ => rfl

theorem wf_queryPayload (query : Text) : (queryPayload query : Json F).Wf := by
  have hne : lit "name" ≠ lit "arguments" := by decide
  simp [queryPayload, searchPayload, Json.Wf, WfMembers, Dict.keys, hne]

theorem dumps_queryPayload (query : Text) :
    ∃ pre, ch '<' ∉ pre ∧ dumps py.json (queryPayload query) =
      ch '{' :: pre ++ (query.flatMap escape ++ ch '"' :: lit "\x7d\x7d") := by
  refine ⟨lit "\"name\": \"search\", \"arguments\": \x7b\"query\": \"", by decide, ?_⟩
  simp only [queryPayload, searchPayload, dumps, dumpsMembers, quote, List.append_assoc,
    List.cons_append]
  rfl

/-- The printed call has nothing to strip. -/
theorem strip_call (query : Text) :
    strip (lit "\n" ++ dumps py.json (queryPayload query) ++ lit "\n") =
      dumps py.json (queryPayload query) := by
  obtain ⟨pre, -, h⟩ := dumps_queryPayload py query
  have hspace : ∀ c ∈ lit "\n", isSpace c := List.all_eq_true.mp (by decide)
  apply trim_eq_of_decompose isSpace rfl hspace hspace
  · intro c hc
    rw [h] at hc
    obtain rfl := Option.some.inj hc
    decide
  · intro c hc
    have hlast : (lit "\x7d\x7d").getLast? = some (ch '}') := by decide
    have hc' : c ∈ (lit "\x7d\x7d").getLast? := by
      rw [h, List.getLast?_append, List.getLast?_append, List.getLast?_cons] at hc
      simpa [hlast] using hc
    rw [hlast] at hc'
    obtain rfl := Option.some.inj hc'
    decide

theorem not_contains_call {query : Text} (h : ¬ contains toolCallClose query) :
    ¬ contains toolCallClose (lit "\n" ++ dumps py.json (queryPayload query) ++ lit "\n") := by
  intro hcall
  apply h
  obtain ⟨pre, hpre, heq⟩ := dumps_queryPayload py query
  have htail : ch '<' ∉ lit "\x7d\x7d" ++ lit "\n" := by decide
  apply contains_of_contains_escape isTag_toolCallClose (by decide) (by decide) query htail
  rw [contains_iff] at hcall ⊢
  have hfront : ch '<' ∉ lit "\n" ++ ch '{' :: pre := by
    rw [List.mem_append, List.mem_cons, not_or, not_or]
    exact ⟨by decide, by decide, hpre⟩
  apply infix_of_append_head isTag_toolCallClose.head? hfront
  rw [heq] at hcall
  simpa only [List.append_assoc, List.cons_append, List.nil_append] using hcall

/-- The replaced block is read back as one call body. -/
theorem blocks_replace {body : Text}
    (hobj : ∀ parsed, loads py.json (strip body) ≠ some (.obj parsed))
    (hclose : ¬ contains toolCallClose (recordedQuery py (strip body))) :
    blocks toolCallOpen toolCallClose (replace py body) =
      [lit "\n" ++ dumps py.json (queryPayload (recordedQuery py (strip body))) ++ lit "\n"] := by
  rw [replace, toolCallPayload_eq py hobj]
  exact blocks_delimited isTag_toolCallOpen isTag_toolCallClose (not_contains_call py hclose)

theorem callQuery_call {query : Text} (h : strip query ≠ []) :
    callQuery py (dumps py.json (queryPayload query)) = .ok (some (strip query)) := by
  have hload := loads_dumps py.json (queryPayload query) (wf_queryPayload query)
  have hstrip : strip (dumps py.json (queryPayload query)) = dumps py.json (queryPayload query) := by
    rw [← strip_call, strip_strip]
  have hne : lit "name" ≠ lit "arguments" := by decide
  rw [callQuery, hstrip, hload]
  simp [queryPayload, searchPayload, Dict.get?, hne, h]

/-- The last body of the converted message is the call for the last search block. -/
theorem toolCallPattern_convert {text : Text} (hopen : ¬ contains toolCallOpen text) {body : Text}
    (hbody : (searchPattern text).getLast? = some body)
    (hobj : ∀ parsed, loads py.json (strip body) ≠ some (.obj parsed))
    (hclose : ¬ contains toolCallClose (recordedQuery py (strip body))) :
    ∃ earlier, toolCallPattern (convertSearchToToolCall py text) =
      earlier ++ [dumps py.json (queryPayload (recordedQuery py (strip body)))] := by
  obtain ⟨earlier, hsplit⟩ := List.getLast?_eq_some_iff.mp hbody
  have hne : toolCallClose ≠ toolCallOpen := by decide
  have hblocks := blocks_replaceBlocks (c := searchClose) searchOpen_ne_nil isTag_toolCallOpen
    isTag_toolCallClose hne (f := replace py) (fun b => ⟨_, rfl⟩) hopen
  rw [← searchPattern, hsplit, List.flatMap_append, List.flatMap_singleton,
    blocks_replace py hobj hclose] at hblocks
  use ((earlier.flatMap fun b => blocks toolCallOpen toolCallClose (replace py b)).map strip)
  rw [toolCallPattern, strippedBlocks, convertSearchToToolCall, hblocks, List.map_append,
    List.map_singleton, strip_call]

/-! ## The queries of the two formats -/

/-- The converted message gives the recorded query, stripped, and so the original one exactly
when the two are the same. -/
theorem extractSearchQuery_convertSearchToToolCall (text body : Text)
    (hopen : ¬ contains toolCallOpen text) (hbody : (searchPattern text).getLast? = some body)
    (hobj : ∀ parsed, loads py.json (strip body) ≠ some (.obj parsed))
    (hquery : strip (recordedQuery py (strip body)) ≠ [])
    (hclose : ¬ contains toolCallClose (recordedQuery py (strip body))) :
    extractSearchQuery py (convertSearchToToolCall py text) =
        .ok (some (strip (recordedQuery py (strip body)))) ∧
      (extractSearchQuery py (convertSearchToToolCall py text) = extractSearchQuery py text ↔
        strip (recordedQuery py (strip body)) = strip body) := by
  have hconvert : extractSearchQuery py (convertSearchToToolCall py text) =
      .ok (some (strip (recordedQuery py (strip body)))) := by
    obtain ⟨earlier, hcalls⟩ := toolCallPattern_convert py hopen hbody hobj hclose
    rw [extractSearchQuery, hcalls, List.reverse_append, List.reverse_singleton,
      List.singleton_append, firstQuery, callQuery_call py hquery]
  have htext : extractSearchQuery py text = .ok (some (strip body)) := by
    rw [extractSearchQuery_of_not_contains py hopen, hbody, Option.map_some]
  refine ⟨hconvert, ?_⟩
  rw [hconvert, htext]
  simp

theorem loads_ne_obj {queryContent : Text}
    (h : (match loads py.json queryContent with
      | some (.obj _) => true
      | _ => false) = false) (parsed : List (Text × Json F)) :
    loads py.json queryContent ≠ some (.obj parsed) := by
  intro hload
  rw [hload] at h
  cases h

theorem extractSearchQuery_convertSearchToToolCall_where :
    extractSearchQuery asciiPython (convertSearchToToolCall asciiPython
        (lit "<search> who </search><search> where? </search>")) =
        .ok (some (strip (recordedQuery asciiPython (strip (lit " where? "))))) ∧
      (extractSearchQuery asciiPython (convertSearchToToolCall asciiPython
          (lit "<search> who </search><search> where? </search>")) =
        extractSearchQuery asciiPython (lit "<search> who </search><search> where? </search>") ↔
        strip (recordedQuery asciiPython (strip (lit " where? "))) = strip (lit " where? ")) :=
  extractSearchQuery_convertSearchToToolCall asciiPython _ _ (by decide)
    (by decide) (loads_ne_obj asciiPython (by decide)) (by decide)
    (by decide)

/-- One message keeps the query of its last search block. -/
def KeepsQuery (text : Text) : Prop :=
  ∀ body, ¬ contains toolCallOpen text → (searchPattern text).getLast? = some body →
    strip body ≠ [] → (∀ parsed, loads py.json (strip body) ≠ some (.obj parsed)) →
    extractSearchQuery py (convertSearchToToolCall py text) = extractSearchQuery py text

theorem not_keepsQuery {text : Text} (body : Text) (hopen : ¬ contains toolCallOpen text)
    (hbody : (searchPattern text).getLast? = some body) (hne : strip body ≠ [])
    (hobj : (match loads py.json (strip body) with
      | some (.obj _) => true
      | _ => false) = false)
    (hdiffer : (extractSearchQuery py (convertSearchToToolCall py text)).toOption ≠
      (extractSearchQuery py text).toOption) : ¬ KeepsQuery py text := by
  intro h
  apply hdiffer
  rw [h body hopen hbody hne (loads_ne_obj py hobj)]

/-- The quotes of a JSON string are lost, and so are a string of white space and a query with a
closing tag in it. -/
theorem not_keepsQuery_texts :
    ¬ KeepsQuery asciiPython (lit "<search>\"Paris\"</search>") ∧
      ¬ KeepsQuery asciiPython (lit "<search>\" \"</search>") ∧
      ¬ KeepsQuery asciiPython (lit "<search>a</tool_call>b</search>") := by
  refine ⟨?_, ?_, ?_⟩
  · apply not_keepsQuery asciiPython (lit "\"Paris\"") <;> decide +kernel
  · apply not_keepsQuery asciiPython (lit "\" \"") <;> decide +kernel
  · apply not_keepsQuery asciiPython (lit "a</tool_call>b") <;> decide +kernel

end SearchR1.ConvertToHermesSft
