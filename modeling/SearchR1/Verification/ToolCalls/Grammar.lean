import SearchR1.Model.AsciiRuntime
import SearchR1.Verification.ToolCalls.Strict

/-! # The grammar of the strict validation -/

namespace SearchR1.BuildSftData

open PyText PyJson PyLoop

variable {F : Type}

/-- A `topk` that is left out or an integer from 1 to 5. -/
def SmallInteger (topk : Option (Json F)) : Prop :=
  topk = none ∨ ∃ n, topk = some (.int n) ∧ 1 ≤ n ∧ n ≤ 5

/-- A `topk` that is `true`. -/
def IsTrue (topk : Option (Json F)) : Prop := topk = some (.bool true)

/-- A body is the JSON object of a search call, with a `topk` of the given kind. -/
def IsCall (py : Python F) (kind : Option (Json F) → Prop) (body : Text)
    (payload : Dict Text (Json F)) : Prop :=
  loads py.json body = some (.obj payload) ∧
    Dict.get? payload (lit "name") = some (.str (lit "search")) ∧
    ∃ arguments query, Dict.get? payload (lit "arguments") = some (.obj arguments) ∧
      Dict.get? arguments (lit "query") = some (.str query) ∧ strip query ≠ [] ∧
      kind (Dict.get? arguments (lit "topk"))

/-- The bodies are read, in their order, exactly when all are search calls, and a `ValueError`
is raised otherwise. -/
def ParsesGrammar (py : Python F) (content : Text) : Prop :=
  (∀ payloads, List.Forall₂ (IsCall py SmallInteger) (callBodies content) payloads →
      parseToolCalls py content = .ok payloads) ∧
    ((∃ body ∈ callBodies content, ∀ payload, ¬ IsCall py SmallInteger body payload) →
      ∃ message, parseToolCalls py content = .error message)

/-! ## One body -/

/-- Python's integers from 1 to 5 are JSON's and `true`. -/
theorem asInt_getD_iff (topk : Option (Json F)) :
    (∃ n, asInt (topk.getD (.int 3)) = some n ∧ 1 ≤ n ∧ n ≤ 5) ↔
      SmallInteger topk ∨ IsTrue topk := by
  cases topk with
  | none =>
      apply iff_of_true
      · exact ⟨3, rfl, by decide⟩
      · exact .inl (.inl rfl)
  | some v =>
      cases v with
      | bool b => cases b <;> simp [asInt, SmallInteger, IsTrue]
      | int i => simp [asInt, SmallInteger, IsTrue]
      | _ => simp [asInt, SmallInteger, IsTrue]

variable (py : Python F)

theorem parseToolCall_ok_iff_isCall {body : Text} {payload : Dict Text (Json F)} :
    parseToolCall py body = .ok payload ↔
      IsCall py SmallInteger body payload ∨ IsCall py IsTrue body payload := by
  rw [parseToolCall_ok_iff]
  constructor
  · intro h
    rcases h with ⟨hload, call, rfl⟩
    have htopk := (asInt_getD_iff _).mp ⟨call.topk, call.topk_eq, call.topk_mem⟩
    rcases htopk with htopk | htopk
    · exact .inl ⟨hload, call.name_eq, call.arguments, call.query, call.arguments_eq,
        call.query_eq, call.query_ne, htopk⟩
    · exact .inr ⟨hload, call.name_eq, call.arguments, call.query, call.arguments_eq,
        call.query_eq, call.query_ne, htopk⟩
  · intro h
    have hcall : ∃ kind : Option (Json F) → Prop, IsCall py kind body payload ∧
        ∀ topk, kind topk → SmallInteger topk ∨ IsTrue topk := by
      rcases h with h | h
      · exact ⟨SmallInteger, h, fun _ => .inl⟩
      · exact ⟨IsTrue, h, fun _ => .inr⟩
    rcases hcall with ⟨kind, ⟨hload, hname, arguments, query, hargs, hquery, hne, hkind⟩, himp⟩
    rcases (asInt_getD_iff _).mpr (himp _ hkind) with ⟨topk, htopk, hmem⟩
    exact ⟨hload, ⟨payload, arguments, query, topk, hname, hargs, hquery, hne, htopk, hmem⟩, rfl⟩

/-- A body has one `topk`, and `true` is no integer. -/
theorem not_isCall_of_isTrue {body : Text} {payload payload' : Dict Text (Json F)}
    (h : IsCall py IsTrue body payload) : ¬ IsCall py SmallInteger body payload' := by
  intro h'
  rcases h with ⟨hload, -, arguments, -, hargs, -, -, htrue⟩
  rcases h' with ⟨hload', -, arguments', -, hargs', -, -, hsmall⟩
  rw [hload] at hload'
  cases hload'
  rw [hargs] at hargs'
  cases hargs'
  rw [IsTrue] at htrue
  rw [htrue] at hsmall
  rcases hsmall with hnone | ⟨n, hn, -⟩
  · cases hnone
  · cases hn

/-! ## A text -/

/-- The validation raises exactly when a body is neither a call nor one but for a `true`. -/
theorem parseToolCalls_error_iff {content : Text} :
    (∃ message, parseToolCalls py content = .error message) ↔
      ∃ body ∈ callBodies content, ∀ payload,
        ¬ IsCall py SmallInteger body payload ∧ ¬ IsCall py IsTrue body payload := by
  rw [parseToolCalls, mapM_error_iff]
  simp only [ne_eq, parseToolCall_ok_iff_isCall, not_or]

/-- The grammar is kept unless all bodies are accepted and one of them has `true` for its
`topk`. -/
theorem parseToolCalls_grammar_iff (content : Text) : ParsesGrammar py content ↔
    (∃ body ∈ callBodies content, ∀ payload,
        ¬ IsCall py SmallInteger body payload ∧ ¬ IsCall py IsTrue body payload) ∨
      ∀ body ∈ callBodies content, ∀ payload, ¬ IsCall py IsTrue body payload := by
  have haccepts : ∀ payloads,
      List.Forall₂ (IsCall py SmallInteger) (callBodies content) payloads →
        parseToolCalls py content = .ok payloads := by
    intro payloads h
    rw [parseToolCalls_ok_iff]
    exact h.imp fun body payload hcall => (parseToolCall_ok_iff_isCall py).mpr (.inl hcall)
  rw [ParsesGrammar, and_iff_right haccepts, parseToolCalls_error_iff]
  constructor
  · intro h
    by_cases htrue : ∀ body ∈ callBodies content, ∀ payload, ¬ IsCall py IsTrue body payload
    · exact .inr htrue
    · left
      simp only [not_forall, not_not] at htrue
      rcases htrue with ⟨body, hbody, payload, hcall⟩
      exact h ⟨body, hbody, fun _ => not_isCall_of_isTrue py hcall⟩
  · intro h hbad
    rcases h with h | h
    · exact h
    · rcases hbad with ⟨body, hbody, hnone⟩
      exact ⟨body, hbody, fun payload => ⟨hnone payload, h body hbody payload⟩⟩

def trueTopkText : Text :=
  lit "<tool_call>\x7b\"name\": \"search\", \"arguments\": " ++
    lit "\x7b\"query\": \"x\", \"topk\": true\x7d\x7d</tool_call>"

def trueTopkPayload : Dict Text (Json LiteralFloat) :=
  [(lit "name", .str (lit "search")),
    (lit "arguments", .obj [(lit "query", .str (lit "x")), (lit "topk", .bool true)])]

/-- A call with `true` for its `topk` is accepted, and its body is outside the grammar. -/
theorem parseToolCalls_trueTopk :
    parseToolCalls asciiPython trueTopkText = .ok [trueTopkPayload] ∧
      ∃ body ∈ callBodies trueTopkText, ∀ payload,
        ¬ IsCall asciiPython SmallInteger body payload := by
  have hwf : (Json.obj trueTopkPayload).Wf := by
    simp [trueTopkPayload, Json.Wf, WfMembers, Dict.keys]
    decide
  have hload := loads_dumps asciiPython.json (.obj trueTopkPayload) hwf
  have hbodies : callBodies trueTopkText = [dumps asciiPython.json (.obj trueTopkPayload)] := by
    decide
  have hcall : IsCall asciiPython IsTrue (dumps asciiPython.json (.obj trueTopkPayload))
      trueTopkPayload := ⟨hload, rfl, _, lit "x", rfl, rfl, by decide, rfl⟩
  rw [parseToolCalls_ok_iff, hbodies]
  constructor
  · exact .cons ((parseToolCall_ok_iff_isCall asciiPython).mpr (.inr hcall)) .nil
  · exact ⟨_, List.mem_singleton_self _, fun payload => not_isCall_of_isTrue asciiPython hcall⟩

end SearchR1.BuildSftData
