import SearchR1.Library.Tags
import SearchR1.Model.TeacherTrajectories

/-! # The turns of a teacher trajectory -/

namespace SearchR1.GenerateTeacherTrajectories

open PyText PyJson BuildSftData

variable {F : Type} (py : Python F)

theorem extractSearchQuery_of_not_contains {text : Text} (h : ¬ contains toolCallOpen text) :
    extractSearchQuery py text = .ok ((searchPattern text).getLast?.map strip) := by
  have hnil : GenerateTeacherTrajectories.toolCallPattern text = [] := by
    rw [toolCallPattern, strippedBlocks, blocks_of_open_none (cut_eq_none h), List.map_nil]
  rw [extractSearchQuery, hnil]
  rfl

/-- A text with a query has the tag of a call or a search block. -/
theorem contains_of_extractSearchQuery {text query : Text}
    (h : extractSearchQuery py text = .ok (some query)) :
    contains toolCallOpen text ∨ ∃ body, body ∈ searchPattern text := by
  by_cases hopen : contains toolCallOpen text
  · exact .inl hopen
  · right
    rw [extractSearchQuery_of_not_contains py hopen, Except.ok.injEq] at h
    obtain ⟨body, hbody, -⟩ := Option.map_eq_some_iff.mp h
    exact ⟨body, List.mem_of_getLast? hbody⟩

/-! ## The shape of a trajectory -/

/-- An assistant message with a query, and the tool message that answers it. -/
structure Exchange where
  response : Text
  result : Text
  query : Text
  query_ne : query ≠ []
  extract : extractSearchQuery py response = .ok (some query)

def assistantMessage (response : Text) : Message := { role := .assistant, content := response }

variable {py} in
def Exchange.messages (e : Exchange py) : List Message :=
  [assistantMessage e.response, { role := .tool, content := e.result }]

/-- The messages of the turns: exchanges and at most one last message without an answer. -/
def turnMessages (exchanges : List (Exchange py)) (final : Option Text) : List Message :=
  exchanges.flatMap Exchange.messages ++ (final.map assistantMessage).toList

/-- A round stops without a message or with one that has no query, or adds an exchange and may go
on. -/
theorem runTurns_succ_cases {raisedText : Raised F → Text} {generate : ℕ → List Message → Text}
    {services : ℕ → Service F} {topk : ℤ} {left turn : ℕ} {messages result : List Message}
    (h : runTurns py raisedText generate services topk (left + 1) turn messages = .ok result) :
    result = messages ∨ result = messages ++ [assistantMessage (strip (generate turn messages))] ∨
    ∃ exchange : Exchange py, exchange.response = strip (generate turn messages) ∧
      exchange.result = toolContent py raisedText exchange.query (services turn) topk ∧
      (result = messages ++ exchange.messages ∨
        runTurns py raisedText generate services topk left (turn + 1)
          (messages ++ exchange.messages) = .ok result) := by
  rw [runTurns] at h
  simp only at h
  split at h
  · exact .inl (Except.ok.inj h).symm
  right
  cases hextract : extractSearchQuery py (strip (generate turn messages)) with
  | error e =>
      rw [hextract] at h
      cases h
  | ok query =>
      rw [hextract] at h
      simp only at h
      split at h
      · exact .inl (Except.ok.inj h).symm
      · rename_i hquery
        obtain ⟨q, rfl⟩ : ∃ q, query = some q := by
          cases query with
          | none => exact absurd rfl hquery
          | some q => exact ⟨q, rfl⟩
        right
        let exchange : Exchange py :=
          { response := strip (generate turn messages)
            result := toolContent py raisedText q (services turn) topk
            query := q
            query_ne := hquery
            extract := hextract }
        refine ⟨exchange, rfl, rfl, ?_⟩
        rw [List.append_assoc] at h
        split at h
        · exact .inl (Except.ok.inj h).symm
        · exact .inr h

/-- Each round adds an exchange, or stops with at most one message. -/
theorem exists_turnMessages {raisedText : Raised F → Text} {generate : ℕ → List Message → Text}
    {services : ℕ → Service F} {topk : ℤ} {left turn : ℕ} {messages result : List Message}
    (h : runTurns py raisedText generate services topk left turn messages = .ok result) :
    ∃ exchanges final, result = messages ++ turnMessages py exchanges final ∧
      exchanges.length + final.toList.length ≤ left := by
  induction left generalizing turn messages with
  | zero =>
      refine ⟨[], none, ?_, Nat.zero_le _⟩
      rw [turnMessages, List.flatMap_nil]
      simpa using (Except.ok.inj h).symm
  | succ left ih =>
      rcases runTurns_succ_cases py h with rfl | rfl | ⟨exchange, -, -, hstop | hgo⟩
      · exact ⟨[], none, by simp [turnMessages], Nat.zero_le _⟩
      · exact ⟨[], some (strip (generate turn messages)), by simp [turnMessages], by simp⟩
      · exact ⟨[exchange], none, by simp [hstop, turnMessages], by simp⟩
      · rcases ih hgo with ⟨exchanges, final, hresult, hlen⟩
        refine ⟨exchange :: exchanges, final, ?_, by simp; omega⟩
        rw [hresult, turnMessages, turnMessages, List.flatMap_cons]
        simp only [List.append_assoc]

theorem role_of_mem_turnMessages {exchanges : List (Exchange py)} {final : Option Text}
    {m : Message} (h : m ∈ turnMessages py exchanges final) :
    m.role = .assistant ∨ m.role = .tool := by
  rcases List.mem_append.mp h with h | h
  · obtain ⟨e, -, he⟩ := List.mem_flatMap.mp h
    rcases List.mem_cons.mp he with rfl | he
    · exact .inl rfl
    · obtain rfl := List.mem_singleton.mp he
      exact .inr rfl
  · obtain ⟨r, -, rfl⟩ := Option.map_eq_some_iff.mp (Option.mem_toList.mp h)
    exact .inl rfl

theorem assistantContents_append (xs ys : List Message) :
    assistantContents (xs ++ ys) = assistantContents xs ++ assistantContents ys := by
  simp [assistantContents]

theorem assistantContents_promptMessages (question systemPrompt : Text) :
    assistantContents (promptMessages question systemPrompt) = [] := by
  unfold promptMessages systemMessages
  split <;> rfl

theorem assistantContents_turnMessages (exchanges : List (Exchange py)) (final : Option Text) :
    assistantContents (turnMessages py exchanges final) =
      exchanges.map Exchange.response ++ final.toList := by
  have hfinal : assistantContents (final.map assistantMessage).toList = final.toList := by
    cases final <;> rfl
  rw [turnMessages, assistantContents_append, hfinal]
  congr 1
  induction exchanges with
  | nil => rfl
  | cons e exchanges ih =>
      rw [List.flatMap_cons, assistantContents_append, ih]
      rfl

end SearchR1.GenerateTeacherTrajectories
