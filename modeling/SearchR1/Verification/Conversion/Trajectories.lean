import SearchR1.Verification.Conversion.Completeness
import SearchR1.Verification.SftData.RoleSequence

/-! # Generated trajectories after conversion -/

namespace SearchR1.ConvertToHermesSft

open PyText PyJson BuildSftData GenerateTeacherTrajectories

variable {F : Type} (py : Python F)

/-! ## Converting a turn -/

/-- A message with a query is a call in the Hermes format: it has a tag of its own, or its search
block becomes one. -/
theorem isCall_convertTurn (e : Exchange py) :
    (convertTurn py (assistantMessage e.response)).IsCall := by
  refine ⟨convertTurn_role py _, ?_⟩
  unfold convertTurn
  by_cases hopen : contains toolCallOpen e.response
  · rw [if_neg]
    · exact hopen
    · simp [assistantMessage, isAlreadyHermes, hopen]
  · obtain ⟨body, hbody⟩ := (contains_of_extractSearchQuery py e.extract).resolve_left hopen
    rw [if_pos]
    · exact contains_toolCallOpen_of_mem_blocks py hbody
    · simp [assistantMessage, isAlreadyHermes, hopen]

theorem turns_exchanges (exchanges : List (Exchange py)) :
    Turns ((exchanges.flatMap Exchange.messages).map (convertTurn py)) := by
  induction exchanges with
  | nil => exact .nil
  | cons e exchanges ih =>
      rw [List.flatMap_cons, List.map_append]
      exact .call (isCall_convertTurn py e) (convertTurn_role py _) ih

/-! ## The role check -/

theorem checkMessages_cons_of_ok {previous : Option Message} {m : Message} {rest : List Message}
    (htool : checkTool previous m = .ok ()) (hassistant : checkAssistant m rest.head? = .ok ()) :
    checkMessages previous (m :: rest) = checkMessages (some m) rest := by
  simp only [checkMessages, htool, hassistant]
  rfl

theorem getLast?_cons_or (m : Message) (rest : List Message) (previous : Option Message) :
    (m :: rest).getLast?.or previous = rest.getLast?.or (some m) := by
  rw [List.getLast?_cons]
  cases rest.getLast? <;> rfl

/-- Complete turns are passed over, whatever follows. -/
theorem checkMessages_append {turns : List Message} (h : Turns turns) (rest : List Message)
    (previous : Option Message) :
    checkMessages previous (turns ++ rest) = checkMessages (turns.getLast?.or previous) rest := by
  induction h generalizing previous with
  | nil => rfl
  | @user m turns hm _ ih =>
      have htool : checkTool previous m = .ok () := (checkTool_ok_iff _ _).mpr (by simp [hm])
      have hassistant : checkAssistant m (turns ++ rest).head? = .ok () :=
        (checkAssistant_ok_iff _ _).mpr fun hcall =>
          absurd hcall (not_isCall_of_role (by simp [hm]))
      rw [List.cons_append, checkMessages_cons_of_ok htool hassistant, ih, getLast?_cons_or]
  | @plain m turns hm ht _ ih =>
      have htool : checkTool previous m = .ok () := (checkTool_ok_iff _ _).mpr (by simp [hm])
      have hassistant : checkAssistant m (turns ++ rest).head? = .ok () :=
        (checkAssistant_ok_iff _ _).mpr fun hcall => absurd hcall.2 ht
      rw [List.cons_append, checkMessages_cons_of_ok htool hassistant, ih, getLast?_cons_or]
  | @call m t turns hm ht _ ih =>
      have htool : checkTool previous m = .ok () := (checkTool_ok_iff _ _).mpr (by simp [hm.1])
      have hassistant : checkAssistant m (t :: (turns ++ rest)).head? = .ok () :=
        (checkAssistant_ok_iff _ _).mpr fun _ => ⟨t, rfl, ht⟩
      have htool' : checkTool (some m) t = .ok () :=
        (checkTool_ok_iff _ _).mpr fun _ => ⟨m, rfl, hm⟩
      have hassistant' : checkAssistant t (turns ++ rest).head? = .ok () :=
        (checkAssistant_ok_iff _ _).mpr fun hcall =>
          absurd hcall (not_isCall_of_role (by simp [ht]))
      rw [List.cons_append, List.cons_append, checkMessages_cons_of_ok htool hassistant,
        checkMessages_cons_of_ok htool' hassistant', ih, getLast?_cons_or, getLast?_cons_or]

/-- The only reason to reject a last assistant message is that it is a call. -/
theorem checkMessages_assistant {m : Message} (hm : m.role = .assistant)
    (previous : Option Message) :
    checkMessages previous [m] = .ok () ∨
      checkMessages previous [m] = .error (lit "missing_tool_response") := by
  have htool : checkTool previous m = .ok () := (checkTool_ok_iff _ _).mpr (by simp [hm])
  by_cases hopen : contains toolCallOpen m.content
  · right
    have hassistant : checkAssistant m none = .error (lit "missing_tool_response") := by
      simp [checkAssistant, hm, hopen]
    simp only [checkMessages, htool, List.head?_nil, hassistant]
    rfl
  · left
    have hassistant : checkAssistant m ([] : List Message).head? = .ok () :=
      (checkAssistant_ok_iff _ _).mpr fun hcall => absurd hcall.2 hopen
    rw [checkMessages_cons_of_ok htool hassistant]
    rfl

/-- Every tool message stands right behind an assistant message with an opening tag. -/
def ToolsFollowCalls (messages : List Message) : Prop :=
  ∀ before t after, messages = before ++ t :: after → t.role = .tool →
    ∃ m ∈ before.getLast?, m.IsCall

theorem toolsFollowCalls_nil : ToolsFollowCalls [] := by
  intro before t after h
  simp at h

theorem ToolsFollowCalls.cons {m : Message} {rest : List Message} (hm : m.role ≠ .tool)
    (h : ToolsFollowCalls rest) : ToolsFollowCalls (m :: rest) := by
  intro before t after heq ht
  cases before with
  | nil =>
      obtain ⟨rfl, -⟩ := List.cons.inj heq
      exact absurd ht hm
  | cons m' before =>
      obtain ⟨rfl, htail⟩ := List.cons.inj heq
      obtain ⟨p, hp, hcall⟩ := h before t after htail ht
      refine ⟨p, ?_, hcall⟩
      rw [List.getLast?_cons, Option.mem_def.mp hp]
      rfl

theorem ToolsFollowCalls.call {m t : Message} {rest : List Message} (hm : m.IsCall)
    (h : ToolsFollowCalls rest) : ToolsFollowCalls (m :: t :: rest) := by
  intro before t' after heq ht'
  match before with
  | [] =>
      obtain ⟨rfl, -⟩ := List.cons.inj heq
      rw [hm.1] at ht'
      cases ht'
  | [_] =>
      obtain ⟨rfl, -⟩ := List.cons.inj heq
      exact ⟨m, rfl, hm⟩
  | _ :: _ :: before =>
      obtain ⟨-, htail⟩ := List.cons.inj heq
      obtain ⟨-, htail⟩ := List.cons.inj htail
      obtain ⟨p, hp, hcall⟩ := h before t' after htail ht'
      refine ⟨p, ?_, hcall⟩
      rw [List.getLast?_cons, List.getLast?_cons, Option.mem_def.mp hp]
      rfl

theorem toolsFollowCalls_of_turns {turns rest : List Message} (h : Turns turns)
    (hrest : ToolsFollowCalls rest) : ToolsFollowCalls (turns ++ rest) := by
  induction h with
  | nil => exact hrest
  | user hm _ ih => exact ih.cons (by simp [hm])
  | plain hm _ _ ih => exact ih.cons (by simp [hm])
  | call hm _ _ ih => exact ih.call hm

/-! ## The whole trajectory -/

theorem convertTrajectory_promptMessages (question systemPrompt : Text) :
    convertTrajectory py (promptMessages question systemPrompt) =
      promptMessages question systemPrompt := by
  unfold promptMessages systemMessages
  split <;> rfl

theorem convertTrajectory_turnMessages (exchanges : List (Exchange py)) (final : Option Text) :
    convertTrajectory py (turnMessages py exchanges final) =
      (exchanges.flatMap Exchange.messages).map (convertTurn py) ++
        (final.map fun r => convertTurn py (assistantMessage r)).toList := by
  rw [turnMessages, convertTrajectory, List.map_append]
  cases final <;> rfl

theorem nonSystem_promptMessages {question systemPrompt : Text} {rest : List Message}
    (hrest : ∀ m ∈ rest, m.role = .assistant ∨ m.role = .tool) :
    nonSystem (promptMessages question systemPrompt ++ rest) =
      { role := .user, content := question } :: rest := by
  have hkeep : rest.filter (fun m => m.role ≠ .system) = rest := by
    apply List.filter_eq_self.mpr
    intro m hm
    rcases hrest m hm with h | h <;> simp [h]
  unfold nonSystem promptMessages systemMessages
  rw [List.filter_append, hkeep]
  split <;> rfl

theorem find?_unknown_promptMessages {question systemPrompt : Text} {rest : List Message}
    (hrest : ∀ m ∈ rest, m.role = .assistant ∨ m.role = .tool) :
    (promptMessages question systemPrompt ++ rest).find? (fun m => !isKnownRole m.role) =
      none := by
  rw [List.find?_eq_none]
  intro m hm
  rcases List.mem_append.mp hm with hm | hm
  · unfold promptMessages systemMessages at hm
    split at hm
    · obtain rfl := List.mem_singleton.mp hm
      simp [isKnownRole]
    · rcases List.mem_cons.mp hm with rfl | hm
      · simp [isKnownRole]
      · obtain rfl := List.mem_singleton.mp hm
        simp [isKnownRole]
  · rcases hrest m hm with h | h <;> simp [h, isKnownRole]

/-- The role check of a prompt with converted turns ends at the last message. -/
theorem validateRoleSequence_turnMessages (question systemPrompt : Text)
    (exchanges : List (Exchange py)) (final : Option Text) :
    let messages := promptMessages question systemPrompt ++ turnMessages py exchanges final
    validateRoleSequence (convertTrajectory py messages) = .ok () ∨
      validateRoleSequence (convertTrajectory py messages) =
        .error (lit "missing_tool_response") := by
  intro messages
  have hconvert : convertTrajectory py messages = promptMessages question systemPrompt ++
      convertTrajectory py (turnMessages py exchanges final) := by
    rw [← convertTrajectory_promptMessages py]
    exact List.map_append
  have hrole : ∀ m ∈ convertTrajectory py (turnMessages py exchanges final),
      m.role = .assistant ∨ m.role = .tool := by
    intro m hm
    obtain ⟨turn, hturn, rfl⟩ := List.mem_map.mp hm
    rw [convertTurn_role]
    exact role_of_mem_turnMessages py hturn
  have huser : Turns (({ role := .user, content := question } : Message) ::
      (exchanges.flatMap Exchange.messages).map (convertTurn py)) :=
    .user rfl (turns_exchanges py exchanges)
  rw [hconvert, validateRoleSequence, find?_unknown_promptMessages hrole,
    nonSystem_promptMessages hrole]
  simp only [ne_eq, not_true_eq_false, ite_false]
  rw [convertTrajectory_turnMessages, ← List.cons_append, checkMessages_append huser]
  cases final with
  | none => exact .inl rfl
  | some r => exact checkMessages_assistant (convertTurn_role py _) _

theorem toolsFollowCalls_turnMessages (question systemPrompt : Text)
    (exchanges : List (Exchange py)) (final : Option Text) :
    ToolsFollowCalls (convertTrajectory py
      (promptMessages question systemPrompt ++ turnMessages py exchanges final)) := by
  have hfinal : ToolsFollowCalls
      (final.map fun r => convertTurn py (assistantMessage r)).toList := by
    cases final with
    | none => exact toolsFollowCalls_nil
    | some r =>
        apply toolsFollowCalls_nil.cons
        rw [convertTurn_role]
        simp [assistantMessage]
  have hturns := toolsFollowCalls_of_turns (turns_exchanges py exchanges) hfinal
  rw [← convertTrajectory_turnMessages] at hturns
  rw [convertTrajectory, List.map_append, ← convertTrajectory, ← convertTrajectory,
    convertTrajectory_promptMessages]
  unfold promptMessages systemMessages
  split
  · exact hturns.cons (by simp)
  · exact (hturns.cons (by simp)).cons (by simp)

/-- Whatever the two generators return passes the role check after conversion, except that the
last call may be left without a response. -/
theorem validateRoleSequence_convertTrajectory (raisedText : Raised F → Text)
    (question systemPrompt : Text) (model : HfModel) (llm : VllmModel)
    (services : ℕ → Service F) (options : Options) (messages : List Message)
    (h : generateTrajectory py raisedText question systemPrompt model services options =
        .ok messages ∨
      generateTrajectoryVllm py raisedText question systemPrompt llm services options =
        .ok messages) :
    (validateRoleSequence (convertTrajectory py messages) = .ok () ∨
      validateRoleSequence (convertTrajectory py messages) =
        .error (lit "missing_tool_response")) ∧
      (assistantContents messages).length ≤ options.maxTurns.toNat ∧
      ToolsFollowCalls (convertTrajectory py messages) := by
  obtain ⟨exchanges, final, rfl, hlen⟩ : ∃ exchanges final,
      messages = promptMessages question systemPrompt ++ turnMessages py exchanges final ∧
        exchanges.length + final.toList.length ≤ options.maxTurns.toNat := by
    rcases h with h | h
    · exact exists_turnMessages py h
    · exact exists_turnMessages py h
  refine ⟨validateRoleSequence_turnMessages py question systemPrompt exchanges final, ?_,
    toolsFollowCalls_turnMessages py question systemPrompt exchanges final⟩
  rwa [assistantContents_append, assistantContents_promptMessages, List.nil_append,
    assistantContents_turnMessages, List.length_append, List.length_map]

/-! ## A search and a call without a query -/

/-- A model that searches in the first turn and leaves out the query in the others. -/
def searchOnce : VllmModel := fun turn _ =>
  if turn = 0 then searchCallText "where" else lit "<tool_call>\x7b\x7d</tool_call><answer>"

def searchOnceHf : HfModel where
  applyChatTemplate _ := []
  generate turn _ := (searchOnce turn []).map Fin.val
  decode ids := ids.map (Fin.ofNat 0x110000)

def unreachable : Service LiteralFloat := fun _ _ => .error (lit "connection refused")

def searchOnceMessages : List Message :=
  promptMessages (lit "Where?") [] ++
    [assistantMessage (searchCallText "where"),
      { role := .tool,
        content := lit "<information>Search failed: connection refused</information>" },
      assistantMessage (lit "<tool_call>\x7b\x7d</tool_call><answer>")]

theorem eq_ok_of_toOption {α ε : Type} {x : Except ε α} {a : α} (h : x.toOption = some a) :
    x = .ok a := by
  cases x with
  | error e => cases h
  | ok b => exact congrArg Except.ok (Option.some.inj h)

theorem validateRoleSequence_searchOnce :
    (validateRoleSequence (convertTrajectory asciiPython searchOnceMessages) = .ok () ∨
      validateRoleSequence (convertTrajectory asciiPython searchOnceMessages) =
        .error (lit "missing_tool_response")) ∧
      (assistantContents searchOnceMessages).length ≤ ({} : Options).maxTurns.toNat ∧
      ToolsFollowCalls (convertTrajectory asciiPython searchOnceMessages) :=
  validateRoleSequence_convertTrajectory asciiPython (fun _ => []) (lit "Where?") [] searchOnceHf
    searchOnce (fun _ => unreachable) {} searchOnceMessages
    (.inl (eq_ok_of_toOption (by decide +kernel)))

end SearchR1.ConvertToHermesSft
