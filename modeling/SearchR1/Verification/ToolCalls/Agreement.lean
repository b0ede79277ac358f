import SearchR1.Verification.ToolCalls.Strict
import SearchR1.Verification.ToolCalls.Lenient
import SearchR1.Model.AsciiRuntime

/-! # Agreement of the strict and the lenient parser -/

namespace SearchR1.ToolParser

open PyText PyJson BuildSftData

variable {F : Type} (py : Python F)

/-- A body the rollout reads: padded with JSON white space only, or matched as a whole by
the lenient pattern once it is stripped. -/
def Readable (body : Text) : Prop :=
  strip body = trim isJsonSpace body ∨ lenientSearch (strip body) = some (strip body)

instance (body : Text) : Decidable (Readable body) := by
  unfold Readable
  infer_instance

/-- The same name, and arguments whose text decodes to the same object. -/
structure SameCall (payload : Dict Text (Json F)) (call : FunctionCall) : Prop where
  name : Dict.get? payload (lit "name") = some (.str call.name)
  arguments : ∃ arguments, Dict.get? payload (lit "arguments") = some (.obj arguments) ∧
    loads py.json call.arguments = some (.obj arguments)

/-! ## One body -/

theorem functionCall_of_searchCall (call : SearchCall F) :
    functionCall py (.obj call.payload) =
      some { name := lit "search", arguments := dumps py.json (.obj call.arguments) } := by
  simp only [functionCall, call.name_eq, call.arguments_eq]

theorem sameCall_of_searchCall (call : SearchCall F) (hwf : (Json.obj call.payload).Wf) :
    SameCall py call.payload
      { name := lit "search", arguments := dumps py.json (.obj call.arguments) } where
  name := call.name_eq
  arguments := ⟨call.arguments, call.arguments_eq,
    loads_dumps py.json _ (wf_of_get? hwf call.arguments_eq)⟩

/-- A body the strict validation accepts is decoded by the rollout when it is readable. -/
theorem decodeMatch_of_readable {body : Text} (hread : Readable body) {v : Json F}
    (hload : loads py.json (strip body) = some v) {call : FunctionCall}
    (hcall : functionCall py v = some call) : decodeMatch py body = some call := by
  -- whatever is decoded strictly is padded with JSON white space only
  have hstrict : strip body = trim isJsonSpace body → loads py.json body = some v := by
    intro h
    rw [h] at hload
    exact loads_of_trim py.json hload
  rcases hread with h | h
  · simp [decodeMatch, hstrict h, hcall]
  · cases hbody : loads py.json body with
    | none => simp [decodeMatch, hbody, lenientSearch_of_strip h, hload, hcall]
    | some v' =>
        have hv := hstrict (strip_eq_trim_of_loads py.json hbody).1
        rw [hbody] at hv
        simp [decodeMatch, hbody, Option.some.inj hv, hcall]

theorem decodeMatch_of_blank {body : Text} (h : strip body = []) :
    decodeMatch py body = none := by
  have hload : loads py.json body = none := by
    cases hbody : loads py.json body with
    | none => rfl
    | some v => exact absurd h (strip_eq_trim_of_loads py.json hbody).2
  simp [decodeMatch, hload, lenientSearch_of_blank h]

/-! ## All bodies -/

/-- The accepted payloads and the decoded calls correspond body by body. -/
theorem forall₂_decodeMatch (bodies : List Text)
    (hread : ∀ body ∈ bodies, strip body ≠ [] → Readable body)
    {payloads : List (Dict Text (Json F))}
    (h : List.Forall₂ (fun body payload => parseToolCall py body = .ok payload)
      ((bodies.map strip).filter fun b => !b.isEmpty) payloads) :
    List.Forall₂ (SameCall py) payloads (bodies.filterMap (decodeMatch py)) := by
  induction bodies generalizing payloads with
  | nil =>
      obtain rfl := List.forall₂_nil_left_iff.mp h
      exact .nil
  | cons body bodies ih =>
      have hrest : ∀ b ∈ bodies, strip b ≠ [] → Readable b :=
        fun b hb => hread b (List.mem_cons_of_mem _ hb)
      by_cases hblank : strip body = []
      · rw [List.filterMap_cons_none (decodeMatch_of_blank py hblank)]
        exact ih hrest (by simpa [hblank] using h)
      · rw [List.map_cons, List.filter_cons_of_pos (by simpa using hblank)] at h
        cases h with
        | cons hbody hbodies =>
            obtain ⟨hload, call, rfl⟩ := (parseToolCall_ok_iff py).mp hbody
            have hdecode := decodeMatch_of_readable py (hread body (by simp) hblank) hload
              (functionCall_of_searchCall py call)
            rw [List.filterMap_cons_some hdecode]
            exact .cons (sameCall_of_searchCall py call (loads_wf py.json hload))
              (ih hrest hbodies)

theorem extractToolCalls_calls (text : Text) :
    (extractToolCalls py text).2 =
      (blocks toolCallOpen toolCallClose text).filterMap (decodeMatch py) := by
  unfold extractToolCalls
  split
  · rename_i hmissing
    have hnil : blocks toolCallOpen toolCallClose text = [] := by
      apply List.eq_nil_iff_forall_not_mem.mpr
      intro body hbody
      have hboth := contains_of_mem_blocks (by decide) hbody
      simp [hboth] at hmissing
    simp [hnil]
  · rfl

/-- Where every body that is not blank is readable, the rollout extracts exactly the calls
the SFT filter accepts. -/
theorem extractToolCalls_eq_parseToolCalls (content : Text)
    (hread : ∀ body ∈ blocks toolCallOpen toolCallClose content, strip body ≠ [] → Readable body)
    {payloads : List (Dict Text (Json F))} (h : parseToolCalls py content = .ok payloads) :
    List.Forall₂ (SameCall py) payloads (extractToolCalls py content).2 := by
  rw [parseToolCalls_ok_iff, callBodies_eq] at h
  rw [extractToolCalls_calls]
  exact forall₂_decodeMatch py _ hread h

/-- A call whose query holds a closing brace, with the given padding in front. -/
def bracedCall (padding : String) : Text :=
  lit "<tool_call>" ++ lit padding ++
    lit "\x7b\"name\": \"search\", \"arguments\": \x7b\"query\": \"a\x7d\"\x7d\x7d</tool_call>"

theorem exists_payloads_of_length (content : Text) (n : ℕ)
    (h : (parseToolCalls asciiPython content).toOption.map List.length = some n) :
    ∃ payloads, parseToolCalls asciiPython content = .ok payloads ∧ payloads.length = n := by
  cases hparse : parseToolCalls asciiPython content with
  | error e => simp [hparse, Except.toOption] at h
  | ok payloads => exact ⟨payloads, rfl, by simpa [hparse, Except.toOption] using h⟩

theorem extractToolCalls_bracedCall : ∃ payloads,
    parseToolCalls asciiPython (bracedCall " ") = .ok payloads ∧ payloads.length = 1 ∧
      List.Forall₂ (SameCall asciiPython) payloads
        (extractToolCalls asciiPython (bracedCall " ")).2 := by
  obtain ⟨payloads, h, hlen⟩ := exists_payloads_of_length
    (bracedCall " ") 1 (by decide +kernel)
  exact ⟨payloads, h, hlen,
    extractToolCalls_eq_parseToolCalls asciiPython _ (by decide) h⟩

/-- A no-break space is stripped by the SFT filter and not skipped by `json.loads`, and the
lenient pattern stops at the brace in the query. -/
theorem extractToolCalls_noBreakSpace : ¬ ∀ (content : Text)
    (payloads : List (Dict Text (Json LiteralFloat))),
    parseToolCalls asciiPython content = .ok payloads →
      List.Forall₂ (SameCall asciiPython) payloads (extractToolCalls asciiPython content).2 := by
  intro hgeneral
  obtain ⟨payloads, h, hlen⟩ := exists_payloads_of_length
    (bracedCall "\u00a0") 1 (by decide +kernel)
  have hcalls : (extractToolCalls asciiPython (bracedCall "\u00a0")).2.length = 0 := by
    decide +kernel
  have := (hgeneral _ _ h).length_eq
  omega

end SearchR1.ToolParser
