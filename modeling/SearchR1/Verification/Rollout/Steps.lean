import SearchR1.Verification.Rollout.Accumulation

/-! # What a step of the tool agent loop does -/

namespace SearchR1.ToolAgentLoop

open PyText SearchTool ToolParser

variable {F : Type} {w : Worker F}

/-! ## Handlers -/

/-- A generation: the new tokens are added, and the first limit that is reached ends the loop. -/
structure Generation (w : Worker F) (output : TokenOutput) (d : AgentData) (state : AgentState)
    (d' : AgentData) : Prop where
  extraFields : mergeOutputFields w d.extraFields output.extraFields.fields = some d'.extraFields
  promptIds : d'.promptIds = d.promptIds ++ output.tokenIds
  responseMask : d'.responseMask = d.responseMask ++ List.replicate output.tokenIds.length true
  responseLength : state = .terminated .responseLength ↔
    w.config.responseLength ≤ d'.responseMask.length
  processingTools : state = .processingTools →
    (extractToolCalls w.py (w.tokenizer.decode output.tokenIds)).2 ≠ []
  state : state = .processingTools ∨
    ∃ exit, state = .terminated exit ∧ exit ≠ .toolResponseLength

theorem generation_of_handle {output : TokenOutput} {d d' : AgentData} {state : AgentState}
    (h : handleGeneratingState w output d = some (state, d')) :
    Generation w output d state d' := by
  unfold handleGeneratingState at h
  cases hfields : mergeOutputFields w d.extraFields output.extraFields.fields with
  | none => simp [hfields] at h
  | some fields =>
      simp only [hfields, Option.bind_eq_bind, Option.bind_some, Option.pure_def, ge_iff_le] at h
      split at h
      · -- the response has reached its length
        rename_i hlength
        cases h
        exact ⟨hfields, rfl, rfl, iff_of_true rfl hlength, by simp, .inr ⟨_, rfl, by simp⟩⟩
      · rename_i hlength
        split at h
        · cases h
          exact ⟨hfields, rfl, rfl, iff_of_false (by simp) hlength, by simp,
            .inr ⟨_, rfl, by simp⟩⟩
        · split at h
          · cases h
            exact ⟨hfields, rfl, rfl, iff_of_false (by simp) hlength, by simp,
              .inr ⟨_, rfl, by simp⟩⟩
          · cases h
            refine ⟨hfields, rfl, rfl, iff_of_false ?_ hlength, ?_, ?_⟩
            · split <;> simp
            · split
              · simp
              · rename_i hcalls
                simpa [List.isEmpty_iff] using hcalls
            · split
              · exact .inr ⟨_, rfl, by simp⟩
              · exact .inl rfl

/-- The tokens the tool messages of a turn are rendered to. -/
def toolTurnIds (w : Worker F) (services : ℕ → Service) (d : AgentData) : List TokenId :=
  w.tokenizer.turnSeparator ++
    w.tokenizer.toolTurn ((callTools w services d.toolCalls).map Prod.fst)

/-- A turn of tools: the metrics are kept, the tokens only when they fit. -/
structure ToolTurn (w : Worker F) (services : ℕ → Service) (d : AgentData) (state : AgentState)
    (d' : AgentData) (returned : List SearchMetrics) : Prop where
  emitted : returned = (callTools w services d.toolCalls).filterMap Prod.snd
  extraFields : accumulateAll d.extraFields returned = some d'.extraFields
  tokens :
    (state = .terminated .toolResponseLength ∧
      w.config.responseLength ≤ d.responseMask.length + (toolTurnIds w services d).length ∧
      d'.promptIds = d.promptIds ∧ d'.responseMask = d.responseMask) ∨
    (state = .generating ∧
      d.responseMask.length + (toolTurnIds w services d).length < w.config.responseLength ∧
      d'.promptIds = d.promptIds ++ toolTurnIds w services d ∧
      d'.responseMask = d.responseMask ++
        List.replicate (toolTurnIds w services d).length false)

theorem toolTurn_of_handle {services : ℕ → Service} {d d' : AgentData} {state : AgentState}
    {returned : List SearchMetrics}
    (h : handleProcessingToolsState w services d = some (state, d', returned)) :
    ToolTurn w services d state d' returned := by
  unfold handleProcessingToolsState at h
  cases hfields : accumulateAll d.extraFields
      ((callTools w services d.toolCalls).filterMap Prod.snd) with
  | none => simp [hfields] at h
  | some fields =>
      simp only [hfields, Option.bind_eq_bind, Option.bind_some, Option.pure_def, ge_iff_le] at h
      split at h
      · rename_i hlength
        cases h
        exact ⟨rfl, hfields, .inl ⟨rfl, hlength, rfl, rfl⟩⟩
      · rename_i hlength
        cases h
        exact ⟨rfl, hfields, .inr ⟨rfl, Nat.lt_of_not_le hlength, rfl, rfl⟩⟩

/-! ## Steps -/

/-- A metrics record that `execute` returned in some call. -/
def Returned (w : Worker F) (m : SearchMetrics) : Prop :=
  ∃ parameters service response,
    execute w.py w.searchTool parameters service = .ok (response, m)

/-- A call that leaves metrics is one of an active tool, whose arguments are read and which
returns. -/
theorem exists_execute_of_callTool {toolCall : FunctionCall} {service : Service} {m : SearchMetrics}
    (h : (callTool w toolCall service).2 = some m) :
    ∃ toolArgs response, toolCall.name ∈ w.activeTools ∧
      PyJson.loads w.py.json toolCall.arguments = some toolArgs ∧
      execute w.py w.searchTool toolArgs service = .ok (response, m) := by
  unfold callTool at h
  split at h
  · cases h
  · rename_i hactive
    split at h
    · cases h
    · rename_i toolArgs hargs
      split at h
      · cases h
      · rename_i response metrics hexecute
        cases h
        exact ⟨toolArgs, response, not_not.mp hactive, hargs, hexecute⟩

theorem returned_of_callTool (toolCall : FunctionCall) (service : Service) {m : SearchMetrics}
    (h : (callTool w toolCall service).2 = some m) : Returned w m := by
  obtain ⟨toolArgs, response, -, -, hexecute⟩ := exists_execute_of_callTool h
  exact ⟨toolArgs, service, response, hexecute⟩

theorem Step.returned {s s' : AgentState × AgentData} {new : List SearchMetrics}
    (h : Step w s new s') : ∀ m ∈ new, Returned w m := by
  intro m hm
  cases h with
  | pending promptIds => cases hm
  | generating output _ => cases hm
  | processingTools services h =>
      rw [(toolTurn_of_handle h).emitted, List.mem_filterMap] at hm
      rcases hm with ⟨result, hresult, hsome⟩
      rw [callTools, List.mem_map] at hresult
      rcases hresult with ⟨call, -, rfl⟩
      exact returned_of_callTool _ _ hsome

theorem Step.accumulated {s s' : AgentState × AgentData} {returned new : List SearchMetrics}
    (h : Step w s new s') (hs : Accumulated s.2.extraFields returned) :
    Accumulated s'.2.extraFields (returned ++ new) := by
  cases h with
  | pending promptIds => simpa [handlePendingState] using hs
  | generating output h =>
      have hfields := (generation_of_handle h).extraFields
      rw [List.append_nil]
      exact hs.congr fun key hkey => mergeOutputFields_get? w hfields hkey
  | processingTools services h =>
      rcases hs.steps new with ⟨fields, hfields, hacc⟩
      have heq := (toolTurn_of_handle h).extraFields
      rw [hfields] at heq
      cases heq
      exact hacc

/-! ## Runs -/

theorem reaches_start : Reaches w .pending {} [] := .init rfl

theorem Reaches.step {state state' : AgentState} {d d' : AgentData}
    {returned new : List SearchMetrics} (h : Reaches w state d returned)
    (hs : Step w (state, d) new (state', d')) : Reaches w state' d' (returned ++ new) :=
  Runs.Run.step h hs

theorem returned_of_reaches {state : AgentState} {d : AgentData} {returned : List SearchMetrics}
    (h : Reaches w state d returned) : ∀ m ∈ returned, Returned w m :=
  Runs.Run.forall_emitted (fun _ _ _ hstep => Step.returned hstep) h

theorem accumulated_of_reaches {state : AgentState} {d : AgentData}
    {returned : List SearchMetrics} (h : Reaches w state d returned) :
    Accumulated d.extraFields returned := by
  apply Runs.Run.invariant (I := fun s returned => Accumulated s.2.extraFields returned) _ _ h
  · rintro s rfl
    exact accumulated_nil
  · intro s s' emitted new hs hstep
    exact Step.accumulated hstep hs

theorem nodup_keys_of_reaches {state : AgentState} {d : AgentData}
    {returned : List SearchMetrics} (h : Reaches w state d returned) :
    d.extraFields.keys.Nodup := by
  apply Runs.Run.invariant (I := fun s _ => s.2.extraFields.keys.Nodup) _ _ h
  · rintro s rfl
    exact List.nodup_nil
  · intro s s' _ new hs hstep
    cases hstep with
    | pending promptIds => exact hs
    | generating output h =>
        exact nodup_keys_mergeOutputFields w hs (generation_of_handle h).extraFields
    | processingTools services h =>
        exact nodup_keys_accumulateAll hs (toolTurn_of_handle h).extraFields

/-- The tokens of a state: the response is at the end of the prompt, and a turn of tools has a
response that is neither empty nor at its limit. -/
structure TokensInOrder (w : Worker F) (s : AgentState × AgentData) : Prop where
  pending : s.1 = .pending → s.2.responseMask = []
  length : s.2.responseMask.length ≤ s.2.promptIds.length
  processingTools : s.1 = .processingTools →
    0 < s.2.responseMask.length ∧ s.2.responseMask.length < w.config.responseLength
  responseLength : s.1 = .terminated .responseLength →
    w.config.responseLength ≤ s.2.responseMask.length
  toolResponseLength : s.1 = .terminated .toolResponseLength →
    0 < s.2.responseMask.length ∧ s.2.responseMask.length < w.config.responseLength

theorem extractToolCalls_nil {F : Type} (py : Python F) : (extractToolCalls py []).2 = [] := by
  have hopen : contains toolCallOpen [] = false := by decide
  simp [extractToolCalls, hopen]

theorem Generation.tokenIds_ne_nil {output : TokenOutput} {d d' : AgentData}
    (h : Generation w output d .processingTools d') : output.tokenIds ≠ [] := by
  intro hnil
  have hcalls := h.processingTools rfl
  rw [hnil, w.tokenizer.decode_nil, extractToolCalls_nil] at hcalls
  exact hcalls rfl

theorem Generation.tokensInOrder {output : TokenOutput} {d d' : AgentData} {state : AgentState}
    (h : Generation w output d state d')
    (hlength : d.responseMask.length ≤ d.promptIds.length) :
    TokensInOrder w (state, d') where
  pending hstate := by
    change state = .pending at hstate
    rcases h.state with heq | ⟨exit, heq, -⟩ <;> rw [hstate] at heq <;> cases heq
  length := by
    rw [h.promptIds, h.responseMask]
    simpa using hlength
  processingTools hstate := by
    change state = .processingTools at hstate
    subst hstate
    have hpos := List.length_pos_of_ne_nil h.tokenIds_ne_nil
    have hmask : d'.responseMask.length = d.responseMask.length + output.tokenIds.length := by
      rw [h.responseMask, List.length_append, List.length_replicate]
    have hlimit := mt h.responseLength.mpr (by simp)
    simp only
    omega
  responseLength hstate := h.responseLength.mp hstate
  toolResponseLength hstate := by
    change state = .terminated .toolResponseLength at hstate
    rcases h.state with heq | ⟨exit, heq, hexit⟩ <;> rw [hstate] at heq <;> cases heq
    exact absurd rfl hexit

theorem ToolTurn.tokensInOrder {services : ℕ → Service} {d d' : AgentData} {state : AgentState}
    {returned : List SearchMetrics} (h : ToolTurn w services d state d' returned)
    (hd : TokensInOrder w (.processingTools, d)) : TokensInOrder w (state, d') := by
  have hlength := hd.length
  have hmask := hd.processingTools rfl
  simp only at hlength hmask
  rcases h.tokens with ⟨rfl, -, hprompt, hresponse⟩ | ⟨rfl, -, hprompt, hresponse⟩
  · refine ⟨by simp, ?_, by simp, by simp, fun _ => ?_⟩
    · simpa [hprompt, hresponse] using hlength
    · simpa [hresponse] using hmask
  · refine ⟨by simp, ?_, by simp, by simp, by simp⟩
    simpa [hprompt, hresponse] using hlength

theorem Step.tokensInOrder {s s' : AgentState × AgentData} {new : List SearchMetrics}
    (h : Step w s new s') (hs : TokensInOrder w s) : TokensInOrder w s' := by
  cases h with
  | pending promptIds =>
      have hnil := hs.pending rfl
      simp only at hnil
      refine ⟨?_, ?_, ?_, ?_, ?_⟩ <;> simp [handlePendingState, hnil]
  | generating output h => exact (generation_of_handle h).tokensInOrder hs.length
  | processingTools services h => exact (toolTurn_of_handle h).tokensInOrder hs

theorem tokensInOrder_of_reaches {state : AgentState} {d : AgentData}
    {returned : List SearchMetrics} (h : Reaches w state d returned) :
    TokensInOrder w (state, d) := by
  apply Runs.Run.invariant (I := fun s _ => TokensInOrder w s) _ _ h
  · rintro s rfl
    exact ⟨fun _ => rfl, Nat.le_refl _, by simp, by simp, by simp⟩
  · intro s s' _ _ hs hstep
    exact hstep.tokensInOrder hs

end SearchR1.ToolAgentLoop
