import SearchR1.Library.Monadic
import SearchR1.Verification.Conversion.Completeness
import SearchR1.Verification.SftData.Reading

/-! # Conversion twice -/

namespace SearchR1.ConvertToHermesSft

open PyText PyJson PyLoop BuildSftData

/-! ## Contents -/

section Content

variable {F : Type} (py : Python F)

theorem convertSearchToToolCall_of_not_hasPair {text : Text} (h : ¬ HasPair text) :
    convertSearchToToolCall py text = text := by
  rw [hasPair_iff, not_not] at h
  exact replaceBlocks_eq_self searchOpen_ne_nil _ h

/-- A text that the conversion changes is not converted again. -/
theorem isAlreadyHermes_of_hasPair {text : Text} (h : HasPair text) :
    isAlreadyHermes (convertSearchToToolCall py text) := by
  obtain ⟨body, hbody⟩ := List.exists_mem_of_ne_nil _ ((hasPair_iff text).mp h)
  exact contains_toolCallOpen_of_mem_blocks py hbody

/-- A content that is no text and does not have the tag as an item. -/
def Unreadable : Json F → Prop
  | .str _ => False
  | .arr items => .str toolCallOpen ∉ items
  | .obj items => Dict.get? items toolCallOpen = none
  | _ => True

theorem isToolCallTag_iff (v : Json F) : isToolCallTag v ↔ v = .str toolCallOpen := by
  cases v <;> simp [isToolCallTag]

theorem convertFields_none_iff (turn : Turn F) :
    convertFields py turn = none ↔ isAssistant turn ∧ Unreadable (turnContent turn) := by
  unfold convertFields
  by_cases hrole : isAssistant turn
  · simp only [hrole, ite_true, true_and]
    cases turnContent turn with
    | str content =>
        simp only [isValueHermes, Unreadable, iff_false]
        cases isAlreadyHermes content <;> simp [convertValue]
    | arr items =>
        have hany : items.any isToolCallTag ↔ Json.str toolCallOpen ∈ items := by
          simp [isToolCallTag_iff]
        simp only [isValueHermes, Unreadable, ← hany]
        cases items.any isToolCallTag <;> simp [convertValue]
    | obj items =>
        simp only [isValueHermes, Unreadable]
        cases Dict.get? items toolCallOpen <;> simp [convertValue]
    | null => simp [isValueHermes, Unreadable]
    | bool b => simp [isValueHermes, Unreadable]
    | int i => simp [isValueHermes, Unreadable]
    | float x => simp [isValueHermes, Unreadable]
  · simp [hrole]

end Content

/-! ## Turns -/

section Turns

variable {F : Type} (py : Python F) {turn turn' : Turn F}

theorem isAssistant_set_content (v : Json F) :
    isAssistant (Dict.set turn (lit "content") v) = isAssistant turn := by
  have hne : lit "role" ≠ lit "content" := by decide
  rw [isAssistant, isAssistant, Dict.get?_set_of_ne _ _ hne]

/-- The turns of the conversion: one that it leaves alone, and one whose text it converts. -/
theorem convertFields_cases (h : convertFields py turn = some turn') :
    (turn' = turn ∧ (isAssistant turn → isValueHermes (turnContent turn) = some true)) ∨
      ∃ content, isAssistant turn ∧ turnContent turn = .str content ∧
        ¬ contains toolCallOpen content ∧
        turn' = Dict.set turn (lit "content") (.str (convertSearchToToolCall py content)) := by
  rw [convertFields] at h
  by_cases hrole : isAssistant turn
  · rw [if_pos hrole] at h
    cases hhermes : isValueHermes (turnContent turn) with
    | none =>
        rw [hhermes] at h
        cases h
    | some b =>
        cases b with
        | true =>
            rw [hhermes] at h
            exact .inl ⟨(Option.some.inj h).symm, fun _ => rfl⟩
        | false =>
            rw [hhermes] at h
            right
            cases hcontent : turnContent turn with
            | str content =>
                rw [hcontent] at h hhermes
                refine ⟨content, hrole, rfl, ?_, (Option.some.inj h).symm⟩
                simpa [isValueHermes, isAlreadyHermes] using hhermes
            | _ =>
                rw [hcontent] at h
                cases h
  · rw [if_neg hrole] at h
    exact .inl ⟨(Option.some.inj h).symm, fun hassistant => absurd hassistant hrole⟩

/-- What the conversion keeps of a turn. -/
structure Kept (turn turn' : Turn F) : Prop where
  role : Dict.get? turn' (lit "role") = Dict.get? turn (lit "role")
  fields : Dict.pop turn' (lit "content") = Dict.pop turn (lit "content")
  other : ¬ isAssistant turn → turn' = turn
  plain : ∀ content, Dict.get? turn (lit "content") = some (.str content) →
    ¬ HasPair content ∨ contains toolCallOpen content → turn' = turn

theorem kept_self : Kept turn turn := ⟨rfl, rfl, fun _ => rfl, fun _ _ _ => rfl⟩

theorem kept_of_convertFields (h : convertFields py turn = some turn') : Kept turn turn' := by
  rcases convertFields_cases py h with ⟨rfl, -⟩ | ⟨content, hrole, hcontent, hopen, rfl⟩
  · exact kept_self
  · have hne : lit "role" ≠ lit "content" := by decide
    refine ⟨Dict.get?_set_of_ne _ _ hne, Dict.pop_set_self _ _ _,
      fun hother => absurd hrole hother, ?_⟩
    intro content' hget hplain
    rw [turnContent, hget, Option.getD_some, Json.str.injEq] at hcontent
    subst hcontent
    rcases hplain with hpair | hhermes
    · rw [convertSearchToToolCall_of_not_hasPair py hpair]
      exact Dict.set_of_get? hget
    · exact absurd hhermes hopen

/-- A converted turn is left alone. -/
theorem convertFields_of_converted (h : convertFields py turn = some turn') :
    convertFields py turn' = some turn' := by
  rcases convertFields_cases py h with ⟨rfl, -⟩ | ⟨content, hrole, hcontent, hopen, rfl⟩
  · exact h
  · have hget : turnContent (Dict.set turn (lit "content")
        (.str (convertSearchToToolCall py content))) =
          .str (convertSearchToToolCall py content) := by
      rw [turnContent, Dict.get?_set_self]
      rfl
    rw [convertFields, isAssistant_set_content, if_pos hrole, hget]
    by_cases hpair : HasPair content
    · simp [isValueHermes, isAlreadyHermes_of_hasPair py hpair]
    · -- the text is the same, so it is converted to itself again
      have hsame := convertSearchToToolCall_of_not_hasPair py hpair
      have hset : Dict.set (Dict.set turn (lit "content") (.str content)) (lit "content")
          (.str content) = Dict.set turn (lit "content") (.str content) :=
        Dict.set_of_get? (Dict.get?_set_self _ _ _)
      simp [isValueHermes, isAlreadyHermes, hsame, hopen, convertValue, hset]

end Turns

/-! ## Trajectories -/

section Trajectories

variable {F : Type} (py : Python F)

theorem convertTurns_none_iff (trajectory : List (Turn F)) :
    convertTurns py trajectory = none ↔
      ∃ turn ∈ trajectory, isAssistant turn ∧ Unreadable (turnContent turn) := by
  rw [convertTurns, mapM_none_iff]
  simp only [convertFields_none_iff]

/-- The conversion raises for contents that are no text only. What it returns has the turns of
the trajectory up to the converted contents, and is not changed by a second conversion. -/
theorem convertTurns_spec (trajectory : List (Turn F)) :
    (convertTurns py trajectory = none ↔
      ∃ turn ∈ trajectory, isAssistant turn ∧ Unreadable (turnContent turn)) ∧
    ∀ converted, convertTurns py trajectory = some converted →
      convertTurns py converted = some converted ∧
        converted.length = trajectory.length ∧ List.Forall₂ Kept trajectory converted := by
  refine ⟨convertTurns_none_iff py trajectory, ?_⟩
  intro converted h
  have hturns := mapM_some_iff.mp h
  refine ⟨?_, hturns.length_eq.symm, hturns.imp fun _ _ => kept_of_convertFields py⟩
  rw [convertTurns, mapM_some_iff, List.forall₂_same]
  intro turn' hturn'
  obtain ⟨turn, -, hturn⟩ := exists_of_forall₂ hturns hturn'
  exact convertFields_of_converted py hturn

/-- An old message and one that is converted already. -/
def mixedTurns : List (Turn LiteralFloat) :=
  [[(lit "role", .str (lit "assistant")), (lit "content", .str (lit "<search>who</search>")),
      (lit "id", .int 7)],
    [(lit "role", .str (lit "assistant")), (lit "content", .str (lit "<tool_call>"))]]

theorem convertTurns_mixedTurns : ∃ converted,
    convertTurns asciiPython mixedTurns = some converted ∧
      convertTurns asciiPython converted = some converted ∧
        converted.length = mixedTurns.length ∧ List.Forall₂ Kept mixedTurns converted := by
  have hsome : (convertTurns asciiPython mixedTurns).isSome := by decide
  obtain ⟨converted, h⟩ := Option.isSome_iff_exists.mp hsome
  exact ⟨converted, h, (convertTurns_spec asciiPython mixedTurns).2 converted h⟩

/-! ## The messages of a trajectory -/

theorem isAssistant_iff_of_readRole {turn : Turn F} {role : Role}
    (h : readRole py (Dict.get? turn (lit "role")) = some role) :
    isAssistant turn ↔ role = .assistant := by
  rw [← eq_some_roleText_iff h rfl, isAssistant, roleText]
  split
  · rename_i role hget
    simp [hget]
  · rename_i hget
    simp only [Bool.false_eq_true, false_iff]
    exact hget _

/-- The conversion of the fields is that of the message they are read as. -/
theorem readMessage_convertFields {turn : Turn F} {m : Message}
    (h : readMessage py (.obj turn) = some m) :
    ∃ turn', convertFields py turn = some turn' ∧
      readMessage py (.obj turn') = some (convertTurn py m) := by
  obtain ⟨hrole, hcontent⟩ := readMessage_some_iff.mp h
  have hassistant := isAssistant_iff_of_readRole py hrole
  have hvalue : turnContent turn = .str m.content := getD_of_readText hcontent
  rw [convertFields, hvalue, convertTurn]
  by_cases hm : m.role = .assistant
  · rw [if_pos (hassistant.mpr hm)]
    by_cases hhermes : isAlreadyHermes m.content
    · exact ⟨turn, by simp [isValueHermes, hhermes], by simp [hhermes, h]⟩
    · refine ⟨Dict.set turn (lit "content") (.str (convertSearchToToolCall py m.content)),
        by simp [isValueHermes, hhermes, convertValue], ?_⟩
      have hne : lit "role" ≠ lit "content" := by decide
      rw [if_pos ⟨hm, by simp [hhermes]⟩, readMessage_some_iff, Dict.get?_set_of_ne _ _ hne,
        Dict.get?_set_self]
      exact ⟨hrole, rfl⟩
  · rw [if_neg (mt hassistant.mp hm)]
    exact ⟨turn, rfl, by simp [hm, h]⟩

theorem readTrajectory_convertTurns {trajectory : List (Turn F)} {messages : List Message}
    (h : readTrajectory py (some (.arr (trajectory.map .obj))) = some messages) :
    ∃ converted, convertTurns py trajectory = some converted ∧
      readTrajectory py (some (.arr (converted.map .obj))) =
        some (convertTrajectory py messages) := by
  simp only [readTrajectory, convertTurns, convertTrajectory, mapM_some_iff,
    List.forall₂_map_left_iff, List.forall₂_map_right_iff] at h ⊢
  induction h with
  | nil => exact ⟨[], .nil, .nil⟩
  | cons hturn _ ih =>
      obtain ⟨turn', hconvert, hread⟩ := readMessage_convertFields py hturn
      obtain ⟨converted, hrest, hreadRest⟩ := ih
      exact ⟨turn' :: converted, .cons hconvert hrest, .cons hread hreadRest⟩

end Trajectories

end SearchR1.ConvertToHermesSft
