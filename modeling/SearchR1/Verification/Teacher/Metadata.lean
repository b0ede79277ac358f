import SearchR1.Model.AsciiRuntime
import SearchR1.Verification.Teacher.Turns

/-! # The metadata of teacher records -/

namespace SearchR1.GenerateTeacherTrajectories

open PyText PyJson BuildSftData QaParquet

variable {F : Type} (py : Python F) (raisedText : Raised F → Text)

def toolMessages (trajectory : List Message) : List Message :=
  trajectory.filter fun m => m.role = .tool

/-- The metadata count the retrieval calls, claim success only after one, and claim validity
only with an answer of the assistant on top. -/
structure DescribesTrajectory (record : Record) : Prop where
  numToolCalls : record.numToolCalls = (toolMessages record.trajectory).length
  retrievalSuccess : record.retrievalSuccess → toolMessages record.trajectory ≠ []
  trajectoryValid : record.trajectoryValid → toolMessages record.trajectory ≠ [] ∧
    ∃ m ∈ record.trajectory, m.role = .assistant ∧ contains answerOpen m.content

/-! ## Counting tags -/

theorem length_toolMessages (question systemPrompt : Text) (exchanges : List (Exchange py))
    (final : Option Text) :
    (toolMessages (promptMessages question systemPrompt ++
      turnMessages py exchanges final)).length = exchanges.length := by
  have hprompt : toolMessages (promptMessages question systemPrompt) = [] := by
    unfold toolMessages promptMessages systemMessages
    split <;> rfl
  have hfinal : toolMessages (final.map assistantMessage).toList = [] := by
    cases final <;> rfl
  unfold toolMessages at hprompt hfinal ⊢
  rw [turnMessages, List.filter_append, List.filter_append, hprompt, hfinal, List.nil_append,
    List.append_nil]
  induction exchanges with
  | nil => rfl
  | cons e exchanges ih =>
      rw [List.flatMap_cons, List.filter_append, List.length_append, ih, List.length_cons]
      exact Nat.add_comm 1 _

/-- Each exchange has a tag in its assistant message. -/
theorem length_le_numSearch (exchanges : List (Exchange py)) (final : Option Text) :
    exchanges.length ≤ numSearch (turnMessages py exchanges final) := by
  rw [numSearch, turnMessages, List.countP_append]
  refine Nat.le_add_right_of_le ?_
  induction exchanges with
  | nil => exact Nat.zero_le _
  | cons e exchanges ih =>
      have htag : contains searchOpen e.response || contains toolCallOpen e.response := by
        rw [Bool.or_eq_true]
        rcases contains_of_extractSearchQuery py e.extract with h | ⟨body, hbody⟩
        · exact .inr h
        · exact .inl (contains_of_mem_blocks (by decide) hbody).1
      rw [List.flatMap_cons, List.countP_append, List.length_cons, Exchange.messages,
        List.countP_cons_of_pos (by exact htag)]
      omega

/-- A system prompt with a search tag is counted as one more call. -/
theorem numSearch_promptMessages (question : Text) {systemPrompt : Text}
    (h : contains searchOpen systemPrompt) :
    0 < numSearch (promptMessages question systemPrompt) := by
  have hne : systemPrompt ≠ [] := by
    rintro rfl
    exact absurd h (by decide)
  rw [numSearch, promptMessages, systemMessages, if_neg hne, List.singleton_append,
    List.countP_cons_of_pos (by simp [h])]
  exact Nat.succ_pos _

theorem length_lt_numSearch (question : Text) {systemPrompt : Text}
    (h : contains searchOpen systemPrompt) (exchanges : List (Exchange py)) (final : Option Text) :
    exchanges.length <
      numSearch (promptMessages question systemPrompt ++ turnMessages py exchanges final) := by
  have hprompt := numSearch_promptMessages question h
  have hturns := length_le_numSearch py exchanges final
  rw [numSearch] at hprompt hturns ⊢
  rw [List.countP_append]
  omega

/-! ## The records of a run -/

/-- What main writes for a row. -/
def Writes (options : Options) (r : Row × Teacher × (ℕ → Service F)) (record : Record) : Prop :=
  ∃ question systemPrompt trajectory,
    extractPromptMessages r.1.prompt = some (systemPrompt, question) ∧
    r.2.1.generateTrajectory py raisedText question systemPrompt r.2.2 options = .ok trajectory ∧
    record = makeRecord r.1 question systemPrompt trajectory

theorem mem_output_processRow {options : Options} {r : Row × Teacher × (ℕ → Service F)}
    {st : RunState} {record : Record}
    (h : record ∈ (processRow py raisedText r.2.1 r.2.2 options st r.1).output) :
    record ∈ st.output ∨ Writes py raisedText options r record := by
  unfold processRow at h
  split at h
  · exact .inl h
  · rename_i systemPrompt question hprompt
    split at h
    · exact .inl h
    · rename_i trajectory htrajectory
      rcases List.mem_append.mp h with h | h
      · exact .inl h
      · exact .inr ⟨question, systemPrompt, trajectory, hprompt, htrajectory,
          List.mem_singleton.mp h⟩

/-- Every record of a run is written for one of its rows. -/
theorem exists_writes_of_mem {options : Options} {rows : List (Row × Teacher × (ℕ → Service F))}
    {record : Record} (h : record ∈ (main py raisedText options rows).output) :
    ∃ r ∈ rows, Writes py raisedText options r record := by
  have hrun : ∀ (st : RunState), record ∈ (rows.foldl (fun st r =>
      processRow py raisedText r.2.1 r.2.2 options st r.1) st).output →
      record ∈ st.output ∨ ∃ r ∈ rows, Writes py raisedText options r record := by
    clear h
    induction rows with
    | nil => exact fun st h => .inl h
    | cons r rows ih =>
        intro st h
        rcases ih _ h with h | ⟨r', hr', hwrites⟩
        · rcases mem_output_processRow py raisedText h with h | hwrites
          · exact .inl h
          · exact .inr ⟨r, List.mem_cons_self, hwrites⟩
        · exact .inr ⟨r', List.mem_cons_of_mem _ hr', hwrites⟩
  rcases hrun {} h with h | h
  · cases h
  · exact h

theorem exists_turnMessages_of_generate {teacher : Teacher} {question systemPrompt : Text}
    {services : ℕ → Service F} {options : Options} {trajectory : List Message}
    (h : teacher.generateTrajectory py raisedText question systemPrompt services options =
      .ok trajectory) :
    ∃ exchanges final, trajectory = promptMessages question systemPrompt ++
      turnMessages py exchanges final := by
  obtain ⟨exchanges, final, htrajectory, -⟩ : ∃ exchanges final,
      trajectory = promptMessages question systemPrompt ++ turnMessages py exchanges final ∧
        exchanges.length + final.toList.length ≤ options.maxTurns.toNat := by
    cases teacher with
    | hf model => exact exists_turnMessages py h
    | vllm llm => exact exists_turnMessages py h
  exact ⟨exchanges, final, htrajectory⟩

/-! ## The rows of the two data sets -/

/-- A row that one of the two converters writes. -/
def IsDatasetRow (row : Row) : Prop :=
  ∃ question answers, nqRow question answers = some row ∨ hotpotRow question answers = some row

theorem extractPromptMessages_makeRow {dataSource systemPrompt question : Text}
    {answers : List Text} {row : Row}
    (h : makeRow dataSource systemPrompt question answers = some row) :
    extractPromptMessages row.prompt = some (systemPrompt, question) := by
  unfold makeRow at h
  split at h
  · cases h
  · rename_i hquestion
    split at h
    · cases h
    · obtain rfl := Option.some.inj h
      simp [extractPromptMessages, hquestion]

theorem contains_searchOpen_of_isDatasetRow {row : Row} (hrow : IsDatasetRow row)
    {question systemPrompt : Text}
    (h : extractPromptMessages row.prompt = some (systemPrompt, question)) :
    contains searchOpen systemPrompt := by
  obtain ⟨question', answers, hrow | hrow⟩ := hrow
  · rw [extractPromptMessages_makeRow hrow] at h
    obtain ⟨rfl, rfl⟩ : nqSystemPrompt = systemPrompt ∧ question' = question := by simpa using h
    decide +kernel
  · rw [extractPromptMessages_makeRow hrow] at h
    obtain ⟨rfl, rfl⟩ : hotpotSystemPrompt = systemPrompt ∧ question' = question := by
      simpa using h
    decide +kernel

/-- The example in the system prompt is counted as a call, so no record of the two data sets has
the number of its retrieval calls. -/
theorem not_describesTrajectory (options : Options)
    (rows : List (Row × Teacher × (ℕ → Service F))) (hrows : ∀ r ∈ rows, IsDatasetRow r.1)
    (record : Record) (h : record ∈ (main py raisedText options rows).output) :
    ¬ DescribesTrajectory record := by
  obtain ⟨r, hr, question, systemPrompt, trajectory, hprompt, htrajectory, rfl⟩ :=
    exists_writes_of_mem py raisedText h
  have hsearch := contains_searchOpen_of_isDatasetRow (hrows r hr) hprompt
  obtain ⟨exchanges, final, rfl⟩ := exists_turnMessages_of_generate py raisedText htrajectory
  intro hdescribes
  have hcount := hdescribes.numToolCalls
  simp only [makeRecord, length_toolMessages] at hcount
  have hlt := length_lt_numSearch py question hsearch exchanges final
  omega

/-- A question of the first data set, and a model that answers it without a search. -/
def unsearchedRows : List (Row × Teacher × (ℕ → Service LiteralFloat)) :=
  (nqRow (lit "Where?") [lit "There"]).toList.map fun row =>
    (row, .vllm fun _ _ => lit "I do not know.", fun _ _ _ => .error (lit "connection refused"))

theorem exists_unsearched : ∃ record ∈ (main asciiPython (fun _ => []) {} unsearchedRows).output,
    record.numToolCalls = 1 ∧ record.retrievalSuccess ∧ record.trajectoryValid ∧
      toolMessages record.trajectory = [] := by
  have hrun : ((main asciiPython (fun _ => []) {} unsearchedRows).output.map fun r =>
      (r.numToolCalls, r.retrievalSuccess, r.trajectoryValid, toolMessages r.trajectory)) =
      [(1, true, true, [])] := by
    decide +kernel
  obtain ⟨record, houtput, hfields⟩ := List.map_eq_singleton_iff.mp hrun
  simp only [Prod.mk.injEq] at hfields
  exact ⟨record, houtput ▸ List.mem_singleton.mpr rfl, hfields⟩

theorem isDatasetRow_unsearchedRows : ∀ r ∈ unsearchedRows, IsDatasetRow r.1 := by
  intro r hr
  obtain ⟨row, hrow, rfl⟩ := List.mem_map.mp hr
  exact ⟨_, _, .inl (Option.mem_toList.mp hrow)⟩

theorem not_describesTrajectory_unsearched :
    ∃ record ∈ (main asciiPython (fun _ => []) {} unsearchedRows).output,
      ¬ DescribesTrajectory record := by
  obtain ⟨record, hrecord, -⟩ := exists_unsearched
  exact ⟨record, hrecord, not_describesTrajectory asciiPython (fun _ => []) {} unsearchedRows
    isDatasetRow_unsearchedRows record hrecord⟩

/-- The record claims a call, a success and a valid trajectory where nothing was retrieved. -/
theorem describesTrajectory_unsearched : ¬ ∀ record ∈
    (main asciiPython (fun _ => []) {} unsearchedRows).output, DescribesTrajectory record := by
  intro h
  obtain ⟨record, hrecord, -, hsuccess, -, htool⟩ := exists_unsearched
  exact (h record hrecord).retrievalSuccess hsuccess htool

end SearchR1.GenerateTeacherTrajectories
