import SearchR1.Verification.Rollout.Anomalies
import SearchR1.Verification.Rollout.Budget

/-! # What the truncation flag accounts for -/

namespace SearchR1.ToolAgentLoop

open PyText PyJson SearchTool ToolParser

variable {F : Type} {py : Python F} {cfg : SearchTool.Config}

/-! ## Cuts of the search tool -/

/-- The text of the document is longer than `max_doc_chars`. -/
def DocCut (py : Python F) (cfg : SearchTool.Config) (doc : Json F) : Prop :=
  ∃ title text, readDoc py doc = .ok (title, .str text) ∧ cfg.maxDocChars < text.length

/-- The body is longer than `max_body_chars`. -/
def BodyCut (py : Python F) (cfg : SearchTool.Config) (items : List (Json F)) : Prop :=
  ∃ parts, formatDocs py cfg 0 items = .ok parts ∧ maxBodyChars cfg < (bodyOf parts).length

/-- The whole text of the document, as `str` gives it, is in the message. -/
def ShowsDoc (py : Python F) (doc : Json F) (message : Text) : Prop :=
  ∀ title text, readDoc py doc = .ok (title, text) → contains (py.text text) message

/-- The part of a document reports whether the document was cut; else it shows the document. -/
theorem formatDoc_cases {i : ℕ} {doc : Json F} {part : Text × Bool}
    (h : formatDoc py cfg i doc = .ok part) :
    (part.2 = true ↔ DocCut py cfg doc) ∧ (¬ DocCut py cfg doc → ShowsDoc py doc part.1) := by
  rcases exists_of_formatDoc h with ⟨title, text, shown, hread, htruncate, rfl⟩
  rcases truncateDoc_cases htruncate with ⟨t, rfl, hlong, rfl⟩ | ⟨rfl, hshort⟩
  · have hdoc : DocCut py cfg doc := ⟨title, t, hread, hlong⟩
    exact ⟨iff_of_true rfl hdoc, fun hnot => absurd hdoc hnot⟩
  · have hdoc : ¬ DocCut py cfg doc := by
      rintro ⟨title', t, hread', hlong⟩
      rw [hread] at hread'
      cases hread'
      exact absurd hlong (Nat.not_lt.mpr (hshort t rfl))
    refine ⟨iff_of_false Bool.false_ne_true hdoc, ?_⟩
    intro _ title' text' hread'
    rw [hread] at hread'
    cases hread'
    exact contains_iff.mpr (List.suffix_append _ _).isInfix

theorem formatDocs_cases {items : List (Json F)} {i : ℕ} {parts : List (Text × Bool)}
    (h : formatDocs py cfg i items = .ok parts) :
    (parts.any Prod.snd = true ↔ ∃ doc ∈ items, DocCut py cfg doc) ∧
      ∀ doc ∈ items, ¬ DocCut py cfg doc → ∃ part ∈ parts, ShowsDoc py doc part.1 := by
  have hparts := forall₂_formatDocs h
  clear h
  induction hparts with
  | nil => simp
  | @cons doc part items parts hpart _ ih =>
      rcases hpart with ⟨j, hpart⟩
      rcases formatDoc_cases hpart with ⟨hcut, hshows⟩
      rcases ih with ⟨hcuts, hrests⟩
      constructor
      · rw [List.any_cons, Bool.or_eq_true, hcut, hcuts, List.exists_mem_cons_iff]
      · intro doc' hdoc hnot
        rcases List.mem_cons.mp hdoc with rfl | hdoc
        · exact ⟨part, List.mem_cons_self, hshows hnot⟩
        · rcases hrests doc' hdoc hnot with ⟨part', hmem, hshow⟩
          exact ⟨part', List.mem_cons_of_mem part hmem, hshow⟩

/-- A call reports a cut exactly when it cut a document or the body. -/
theorem responseTruncated_pos_iff {parameters : Json F} {service : Service}
    {response : ToolResponse} {m : SearchMetrics}
    (h : execute py cfg parameters service = .ok (response, m)) :
    0 < m.responseTruncated ↔ ∃ items, Retrieves py cfg parameters service items ∧
      ((∃ doc ∈ items, DocCut py cfg doc) ∨ BodyCut py cfg items) := by
  have hmake : ∀ (parts : List (Text × Bool)) (latencyMs : ℚ),
      0 < (makeResponse cfg parts latencyMs).2.responseTruncated ↔
        parts.any Prod.snd = true ∨ maxBodyChars cfg < (bodyOf parts).length := by
    intro parts latencyMs
    have hbody : (truncateBody cfg (bodyOf parts)).2 = true ↔
        maxBodyChars cfg < (bodyOf parts).length := by
      unfold truncateBody
      split <;> simp_all
    rw [← hbody, ← Bool.or_eq_true]
    change 0 < (if (parts.any Prod.snd || (truncateBody cfg (bodyOf parts)).2) = true
      then 1 else 0) ↔ _
    split
    · rename_i hcut
      exact iff_of_true Nat.one_pos hcut
    · rename_i hcut
      exact iff_of_false (Nat.lt_irrefl 0) hcut
  constructor
  · intro hpos
    rcases execute_cases h with ⟨errorType, message, latencyMs, -, -, heq⟩ |
      ⟨items, parts, latencyMs, hitems, hparts, heq⟩
    · cases heq
      exact absurd hpos (Nat.lt_irrefl 0)
    · have hm : m = (makeResponse cfg parts latencyMs).2 := congrArg Prod.snd heq
      refine ⟨items, hitems, ?_⟩
      rw [hm, hmake, (formatDocs_cases hparts).1] at hpos
      exact hpos.imp_right fun hlong => ⟨parts, hparts, hlong⟩
  · rintro ⟨items, hitems, hcut⟩
    obtain ⟨parts, latencyMs, hparts, heq⟩ := execute_of_retrieves hitems h
    have hm : m = (makeResponse cfg parts latencyMs).2 := congrArg Prod.snd heq
    rw [hm, hmake, (formatDocs_cases hparts).1]
    apply hcut.imp_right
    rintro ⟨parts', hparts', hlong⟩
    rw [hparts] at hparts'
    cases hparts'
    exact hlong

/-- A response that was not cut shows all documents. -/
theorem showsDoc_of_not_cut {parameters : Json F} {service : Service} {response : ToolResponse}
    {m : SearchMetrics} {items : List (Json F)}
    (h : execute py cfg parameters service = .ok (response, m))
    (hitems : Retrieves py cfg parameters service items)
    (hdocs : ¬ ∃ doc ∈ items, DocCut py cfg doc) (hbody : ¬ BodyCut py cfg items) :
    ∀ doc ∈ items, ShowsDoc py doc response.text := by
  obtain ⟨parts, latencyMs, hparts, heq⟩ := execute_of_retrieves hitems h
  have hresponse : response = (makeResponse cfg parts latencyMs).1 := congrArg Prod.fst heq
  intro doc hdoc title text hread
  obtain ⟨part, hpart, hshows⟩ := (formatDocs_cases hparts).2 doc hdoc
    fun hcut => hdocs ⟨doc, hdoc, hcut⟩
  have hwhole : truncateBody cfg (bodyOf parts) = (bodyOf parts, false) := by
    rw [truncateBody, if_neg]
    intro hlong
    exact hbody ⟨parts, hparts, hlong⟩
  have hcontains := contains_iff.mp (hshows title text hread)
  rw [hresponse, text_makeResponse, hwhole, contains_iff]
  exact (hcontains.trans (infix_bodyOf hpart)).trans (List.infix_append _ _ _)

/-! ## Calls of a run -/

section Runs

variable {w : Worker F} {state : AgentState} {d d' : AgentData}
  {returned new : List SearchMetrics}

/-- The messages of the tools and the metrics come from these calls. -/
structure Conversation (w : Worker F) (d : AgentData) (returned : List SearchMetrics)
    (calls : List (FunctionCall × Service)) : Prop where
  messages : d.toolMessages = calls.map fun call => (callTool w call.1 call.2).1
  metrics : returned = calls.filterMap fun call => (callTool w call.1 call.2).2

theorem toolMessages_of_generating {output : TokenOutput}
    (h : handleGeneratingState w output d = some (state, d')) :
    d'.toolMessages = d.toolMessages := by
  unfold handleGeneratingState at h
  simp only [Option.bind_eq_bind, Option.bind_eq_some_iff, Option.pure_def] at h
  obtain ⟨fields, -, h⟩ := h
  split at h
  · cases h
    rfl
  · split at h
    · cases h
      rfl
    · split at h
      · cases h
        rfl
      · cases h
        rfl

theorem toolMessages_of_processingTools {services : ℕ → Service}
    (h : handleProcessingToolsState w services d = some (state, d', new)) :
    d'.toolMessages = d.toolMessages ++ (callTools w services d.toolCalls).map Prod.fst := by
  unfold handleProcessingToolsState at h
  simp only [Option.bind_eq_bind, Option.bind_eq_some_iff, Option.pure_def] at h
  obtain ⟨fields, -, h⟩ := h
  split at h
  · cases h
    rfl
  · cases h
    rfl

theorem conversation_of_reaches (h : Reaches w state d returned) :
    ∃ calls, Conversation w d returned calls := by
  apply Runs.Run.invariant
    (I := fun s returned => ∃ calls, Conversation w s.2 returned calls) _ _ h
  · rintro s rfl
    exact ⟨[], rfl, rfl⟩
  · rintro s s' returned new ⟨calls, hmessages, hmetrics⟩ hstep
    cases hstep with
    | pending promptIds => exact ⟨calls, hmessages, by rw [List.append_nil, hmetrics]⟩
    | generating output h =>
        refine ⟨calls, ?_, by rw [List.append_nil, hmetrics]⟩
        rw [toolMessages_of_generating h]
        exact hmessages
    | @processingTools d d' state _ services h =>
        refine ⟨calls ++ ((d.toolCalls.take w.config.maxParallelCalls).zipIdx).map
          fun call => (call.1, services call.2), ?_, ?_⟩
        · rw [toolMessages_of_processingTools h, List.map_append]
          have hold : d.toolMessages = _ := hmessages
          rw [hold, callTools, List.map_map, List.map_map]
          rfl
        · rw [(toolTurn_of_handle h).emitted, hmetrics, List.filterMap_append, callTools,
            List.filterMap_map, List.filterMap_map]
          rfl

/-- The call runs the search tool to its end. -/
structure Executed (w : Worker F) (call : FunctionCall × Service) (toolArgs : Json F)
    (response : ToolResponse) (m : SearchMetrics) : Prop where
  active : call.1.name ∈ w.activeTools
  arguments : loads w.py.json call.1.arguments = some toolArgs
  returned : execute w.py w.searchTool toolArgs call.2 = .ok (response, m)

theorem callTool_of_executed {call : FunctionCall × Service} {toolArgs : Json F}
    {response : ToolResponse} {m : SearchMetrics} (h : Executed w call toolArgs response m) :
    callTool w call.1 call.2 = (truncateToolResponse w response.text, some m) := by
  rw [callTool, if_neg (not_not.mpr h.active), h.arguments]
  simp only [h.returned]

theorem executed_of_callTool {call : FunctionCall × Service} {m : SearchMetrics}
    (h : (callTool w call.1 call.2).2 = some m) :
    ∃ toolArgs response, Executed w call toolArgs response m := by
  obtain ⟨toolArgs, response, hactive, hargs, hexecute⟩ := exists_execute_of_callTool h
  exact ⟨toolArgs, response, hactive, hargs, hexecute⟩

/-- The search tool cut the response, a document of it or its body. -/
def ToolCut (w : Worker F) (call : FunctionCall × Service) : Prop :=
  ∃ toolArgs response m items, Executed w call toolArgs response m ∧
    Retrieves w.py w.searchTool toolArgs call.2 items ∧
    ((∃ doc ∈ items, DocCut w.py w.searchTool doc) ∨ BodyCut w.py w.searchTool items)

/-- The response is longer than `max_tool_response_length`. -/
def LoopCut (w : Worker F) (call : FunctionCall × Service) : Prop :=
  ∃ toolArgs response m, Executed w call toolArgs response m ∧
    w.config.maxToolResponseLength < response.text.length

/-- The message of the call lacks part of the text of a document that it retrieved. -/
def LacksText (w : Worker F) (call : FunctionCall × Service) : Prop :=
  ∃ toolArgs response m items, Executed w call toolArgs response m ∧
    Retrieves w.py w.searchTool toolArgs call.2 items ∧
    ∃ doc ∈ items, ¬ ShowsDoc w.py doc (callTool w call.1 call.2).1

def FlagRaised (d : AgentData) : Prop :=
  ∃ n : ℚ, d.extraFields.get? (lit "tool/search_response_truncated") = some (.num n) ∧ 0 < n

/-- The flag is raised for the messages that lack text, and for no others. -/
def TruncationAccounted (w : Worker F) (d : AgentData) (calls : List (FunctionCall × Service)) :
    Prop :=
  FlagRaised d ↔ ∃ call ∈ calls, LacksText w call

theorem flagRaised_iff (h : Reaches w state d returned) :
    FlagRaised d ↔ ∃ m ∈ returned, 0 < m.responseTruncated := by
  have hmem : lit "tool/search_response_truncated" ∈ metricKeys := by decide
  have hnumber := (accumulated_of_reaches h).number _ hmem
  have hkey : ∀ m : SearchMetrics, (lit "tool/search_response_truncated",
      (m.responseTruncated : ℚ)) ∈ metricNumbers m := by
    intro m
    simp [metricNumbers]
  rw [FlagRaised, hnumber, ← total_pos_iff SearchMetrics.responseTruncated hkey]
  by_cases hreturned : returned = []
  · subst hreturned
    simp [total]
  · rw [if_neg hreturned]
    simp

theorem toolCut_of_responseTruncated {call : FunctionCall × Service} :
    (∃ m, (callTool w call.1 call.2).2 = some m ∧ 0 < m.responseTruncated) ↔
      ToolCut w call := by
  constructor
  · intro h
    rcases h with ⟨m, hm, hpos⟩
    obtain ⟨toolArgs, response, hexecuted⟩ := executed_of_callTool hm
    obtain ⟨items, hitems, hcut⟩ := (responseTruncated_pos_iff hexecuted.returned).mp hpos
    exact ⟨toolArgs, response, m, items, hexecuted, hitems, hcut⟩
  · intro h
    rcases h with ⟨toolArgs, response, m, items, hexecuted, hitems, hcut⟩
    refine ⟨m, by rw [callTool_of_executed hexecuted], ?_⟩
    exact (responseTruncated_pos_iff hexecuted.returned).mpr ⟨items, hitems, hcut⟩

/-- A message lacks text only after a cut by the tool or by the loop. -/
theorem cut_of_lacksText {call : FunctionCall × Service} (h : LacksText w call) :
    ToolCut w call ∨ LoopCut w call := by
  obtain ⟨toolArgs, response, m, items, hexecuted, hitems, doc, hdoc, hlacks⟩ := h
  by_contra hcut
  rw [not_or] at hcut
  obtain ⟨htool, hloop⟩ := hcut
  apply hlacks
  have hfits : truncateToolResponse w response.text = response.text := by
    rw [truncateToolResponse, if_neg]
    intro hlong
    exact hloop ⟨toolArgs, response, m, hexecuted, hlong⟩
  rw [callTool_of_executed hexecuted, hfits]
  apply showsDoc_of_not_cut hexecuted.returned hitems _ _ doc hdoc
  · intro hdocs
    exact htool ⟨toolArgs, response, m, items, hexecuted, hitems, .inl hdocs⟩
  · intro hbody
    exact htool ⟨toolArgs, response, m, items, hexecuted, hitems, .inr hbody⟩

/-- The flag accounts for the cuts of the search tool. A message that lacks text without it
was cut by the loop. -/
theorem flagRaised_iff_toolCut (h : Reaches w state d returned) :
    (∃ calls, Conversation w d returned calls) ∧
      ∀ calls, Conversation w d returned calls →
        (FlagRaised d ↔ ∃ call ∈ calls, ToolCut w call) ∧
          ∀ call ∈ calls, LacksText w call → FlagRaised d ∨ LoopCut w call := by
  refine ⟨conversation_of_reaches h, ?_⟩
  intro calls hcalls
  have hflag : FlagRaised d ↔ ∃ call ∈ calls, ToolCut w call := by
    rw [flagRaised_iff h, hcalls.metrics]
    simp only [List.mem_filterMap, ← toolCut_of_responseTruncated]
    constructor
    · rintro ⟨m, ⟨call, hcall, hm⟩, hpos⟩
      exact ⟨call, hcall, m, hm, hpos⟩
    · rintro ⟨call, hcall, m, hm, hpos⟩
      exact ⟨m, ⟨call, hcall, hm⟩, hpos⟩
  refine ⟨hflag, ?_⟩
  intro call hcall hlacks
  apply (cut_of_lacksText hlacks).imp_left
  intro hcut
  exact hflag.mpr ⟨call, hcall, hcut⟩

/-- What a successful call lacks, when the page of the service is known. -/
theorem lacksText_iff_of_resultPage {call : FunctionCall × Service} {docs : List (Json F)}
    (hwf : ∀ doc ∈ docs, doc.Wf)
    (hservice : ∀ query topk,
      (call.2 query topk).1 = .text (dumps w.py.json (resultPage docs)))
    {m : SearchMetrics} (hm : (callTool w call.1 call.2).2 = some m) (hsuccess : m.success = 1) :
    LacksText w call ↔ ∃ doc ∈ docs, ¬ ShowsDoc w.py doc (callTool w call.1 call.2).1 := by
  constructor
  · intro h
    rcases h with ⟨toolArgs, response, m', items, -, hitems, hlacks⟩
    rwa [eq_of_retrieves_resultPage hwf hservice hitems] at hlacks
  · intro hlacks
    obtain ⟨toolArgs, response, hexecuted⟩ := executed_of_callTool hm
    rcases execute_cases hexecuted.returned with ⟨errorType, message, latencyMs, -, -, heq⟩ |
      ⟨items, parts, latencyMs, hitems, -, -⟩
    · cases heq
      cases hsuccess
    · refine ⟨toolArgs, response, m, items, hexecuted, hitems, ?_⟩
      rwa [eq_of_retrieves_resultPage hwf hservice hitems]

end Runs

/-! ## A cut without the flag, and the flag without a loss -/

def cuttingWorker (maxDocChars maxToolResponseLength : ℕ) : Worker LiteralFloat :=
  { asciiWorker { responseLength := 1000, maxToolResponseLength } with
    searchTool := { maxDocChars } }

def textDoc (text : Text) : Json LiteralFloat := .obj [(lit "text", .str text)]

def textCall (text : Text) : FunctionCall × Service :=
  (⟨lit "search", lit "\x7b\"query\": \"q\"\x7d"⟩,
    fun _ _ => (.text (dumps literalCodec (resultPage [textDoc text])), 12))

/-- The metrics of a call that finds one document. -/
def foundMetrics (responseTruncated : ℕ) : SearchMetrics :=
  { oneDocMetrics with responseTruncated }

/-- The data after a call, whose message fits in. -/
def answeredData (message : Text) (m : SearchMetrics) : AgentData :=
  { searchCallData with
    toolMessages := [message]
    promptIds := searchCallData.promptIds ++ 10 :: message.map Fin.val
    responseMask := searchCallData.responseMask ++ List.replicate (message.length + 1) false
    toolRewards := [0]
    userTurns := 1
    extraFields := searchCallData.extraFields ++
      (metricNumbers m).map fun e => (e.1, .num e.2) }

theorem reaches_searchCallData (maxDocChars maxToolResponseLength : ℕ)
    (h : handleGeneratingState (cuttingWorker maxDocChars maxToolResponseLength)
      (generationOf (searchCallText "q")) promptData = some (.processingTools, searchCallData)) :
    Reaches (cuttingWorker maxDocChars maxToolResponseLength) .processingTools searchCallData
      [] := by
  have hprompt : Reaches (cuttingWorker maxDocChars maxToolResponseLength) .generating promptData
      [] := reaches_start.step (Step.pending [81])
  exact hprompt.step (Step.generating _ h)

/-- Ten code points of the response enter the conversation. -/
def loopCutMessage : Text := lit "<info...(truncated)...tion>"

def loopCutData : AgentData := answeredData loopCutMessage (foundMetrics 0)

theorem reaches_loopCutData :
    Reaches (cuttingWorker 1200 10) .generating loopCutData [foundMetrics 0] := by
  have hcall := reaches_searchCallData 1200 10 (by decide +kernel)
  apply hcall.step (Step.processingTools (fun _ => (textCall (lit "Paris")).2) _)
  decide +kernel

/-- The text of a document, which the service itself has cut. -/
def servedText : Text := lit "Par..."

def servedMessage : Text := lit "<information>\nDoc 1:\nPar...\n</information>"

def servedData : AgentData := answeredData servedMessage (foundMetrics 1)

theorem reaches_servedData :
    Reaches (cuttingWorker 3 256) .generating servedData [foundMetrics 1] := by
  have hcall := reaches_searchCallData 3 256 (by decide +kernel)
  apply hcall.step (Step.processingTools (fun _ => (textCall servedText).2) _)
  decide +kernel

theorem wf_textDoc (text : Text) : ∀ doc ∈ [textDoc text], doc.Wf := by
  simp [textDoc, Json.Wf, WfMembers, Dict.keys]

theorem callTool_loopCut : callTool (cuttingWorker 1200 10) (textCall (lit "Paris")).1
    (textCall (lit "Paris")).2 = (loopCutMessage, some (foundMetrics 0)) := by decide +kernel

theorem callTool_servedText : callTool (cuttingWorker 3 256) (textCall servedText).1
    (textCall servedText).2 = (servedMessage, some (foundMetrics 1)) := by decide +kernel

theorem conversation_singleton {w : Worker LiteralFloat} {call : FunctionCall × Service}
    {message : Text} {m : SearchMetrics}
    (h : callTool w call.1 call.2 = (message, some m)) :
    Conversation w (answeredData message m) [m] [call] where
  messages := by
    rw [List.map_singleton, h]
    rfl
  metrics := by
    simp [h]

/-- The loop cuts a message and no flag tells; a document that ends as a cut one would is shown
whole under the flag. -/
theorem not_truncationAccounted :
    (Reaches (cuttingWorker 1200 10) .generating loopCutData [foundMetrics 0] ∧
      Conversation (cuttingWorker 1200 10) loopCutData [foundMetrics 0]
        [textCall (lit "Paris")] ∧
      ¬ TruncationAccounted (cuttingWorker 1200 10) loopCutData [textCall (lit "Paris")]) ∧
    Reaches (cuttingWorker 3 256) .generating servedData [foundMetrics 1] ∧
      Conversation (cuttingWorker 3 256) servedData [foundMetrics 1] [textCall servedText] ∧
      ¬ TruncationAccounted (cuttingWorker 3 256) servedData [textCall servedText] := by
  refine ⟨⟨reaches_loopCutData, conversation_singleton callTool_loopCut, ?_⟩,
    reaches_servedData, conversation_singleton callTool_servedText, ?_⟩
  · intro haccounted
    have hlacks : LacksText (cuttingWorker 1200 10) (textCall (lit "Paris")) := by
      rw [lacksText_iff_of_resultPage (wf_textDoc (lit "Paris")) (fun _ _ => rfl)
        (congrArg Prod.snd callTool_loopCut) rfl, callTool_loopCut]
      refine ⟨_, List.mem_singleton_self _, ?_⟩
      intro hshows
      have hcontains := hshows _ _ rfl
      revert hcontains
      decide
    obtain ⟨m, hm, hpos⟩ := (flagRaised_iff reaches_loopCutData).mp
      (haccounted.mpr ⟨_, List.mem_singleton_self _, hlacks⟩)
    rw [List.mem_singleton] at hm
    subst hm
    cases hpos
  · intro haccounted
    have hflag := (flagRaised_iff reaches_servedData).mpr
      ⟨_, List.mem_singleton_self _, Nat.one_pos⟩
    obtain ⟨call, hcall, hlacks⟩ := haccounted.mp hflag
    rw [List.mem_singleton] at hcall
    subst hcall
    rw [lacksText_iff_of_resultPage (wf_textDoc servedText) (fun _ _ => rfl)
      (congrArg Prod.snd callTool_servedText) rfl, callTool_servedText] at hlacks
    obtain ⟨doc, hdoc, hnot⟩ := hlacks
    rw [List.mem_singleton] at hdoc
    subst hdoc
    apply hnot
    intro title text hread
    cases hread
    have hcontains : contains servedText servedMessage := by decide
    exact hcontains

theorem flagRaised_iff_toolCut_servedData :
    (FlagRaised servedData ↔ ToolCut (cuttingWorker 3 256) (textCall servedText)) ∧
      (LacksText (cuttingWorker 3 256) (textCall servedText) →
        FlagRaised servedData ∨ LoopCut (cuttingWorker 3 256) (textCall servedText)) := by
  have haccount := (flagRaised_iff_toolCut reaches_servedData).2 _
    (conversation_singleton callTool_servedText)
  refine ⟨?_, haccount.2 _ (List.mem_singleton_self _)⟩
  simpa using haccount.1

end SearchR1.ToolAgentLoop
