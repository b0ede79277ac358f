import SearchR1.Library.Averages
import SearchR1.Verification.Rollout.ResponseText
import SearchR1.Verification.Rollout.SearchCredit
import SearchR1.Model.AsciiRuntime

/-! # The fallback for missing metrics -/

namespace SearchR1.SearchTool

open PyText PyJson ToolAgentLoop QaEmToolReward AgentLoop

variable {F : Type} {py : Python F} {cfg : Config}

/-! ## Blocks that pass for a success -/

def Passes (block : Text) : Prop := strip block ≠ [] ∧ ¬ contains searchFailed block

theorem contains_searchFailed_strip (block : Text) :
    contains searchFailed (strip block) ↔ contains searchFailed block := by
  have hhead : searchFailed.head? = some (ch 'S') := rfl
  have hlast : searchFailed.getLast? = some (ch ':') := rfl
  apply contains_strip_iff
  · intro c hc
    rw [hhead] at hc
    cases hc
    decide
  · intro c hc
    rw [hlast] at hc
    cases hc
    decide

theorem xmlSuccess_iff (text : Text) :
    xmlSuccess (extractInformationBlocks text) = true ↔
      ∃ block ∈ blocks informationOpen informationClose text, Passes block := by
  have hpasses : ∀ block : Text,
      (!(strip (strip block)).isEmpty && !contains searchFailed (strip block)) = true ↔
        Passes block := by
    intro block
    rw [strip_strip, Bool.and_eq_true, Bool.not_eq_true', Bool.not_eq_true',
      List.isEmpty_eq_false_iff, ← Bool.not_eq_true, contains_searchFailed_strip, Passes]
  rw [xmlSuccess, extractInformationBlocks, strippedBlocks, List.any_eq_true]
  simp only [List.mem_map, exists_exists_and_eq_and, hpasses]

theorem strip_ne_nil {d : CodePoint} {block : Text} (hd : d ∈ block) (hspace : ¬ isSpace d) :
    strip block ≠ [] := by
  intro h
  exact hspace ((trim_eq_nil_iff isSpace block).mp h d hd)

/-! ## What a response shows -/

/-- What stands between the tags of a response, by the outcome of the call. -/
inductive Shows (cfg : Config) : SearchMetrics → Text → Prop where
  | error {m : SearchMetrics} (message : Text) : m.success = 0 → m.exceptionType ≠ .emptyResult →
      Shows cfg m (lit "\nSearch failed: " ++ message)
  | empty {m : SearchMetrics} : m.success = 0 → m.exceptionType = .emptyResult →
      Shows cfg m (lit "\n" ++ (truncateBody cfg emptyBody).1 ++ lit "\n")
  | documents {m : SearchMetrics} {inner : Text} {d : CodePoint} : m.success = 1 →
      m.exceptionType = .none → Clean inner → d ∈ inner → ¬ isSpace d → Shows cfg m inner

theorem clean_frame {body : Text} (h : Clean body) : Clean (lit "\n" ++ body ++ lit "\n") := by
  have hjoin := clean_nil.join (.inr (.inl rfl)) (h.join (.inr (.inl rfl)) clean_nil)
  simpa [lit] using hjoin

theorem clean_bodyOf {parts : List (Text × Bool)} (hne : parts ≠ [])
    (hclean : ∀ part ∈ parts, Clean part.1) : Clean (bodyOf parts) := by
  rw [bodyOf, List.isEmpty_eq_false_iff.mpr hne]
  apply clean_intercalate
  intro t ht
  rcases List.mem_map.mp ht with ⟨part, hpart, rfl⟩
  exact hclean part hpart

theorem shows_makeResponse {parts : List (Text × Bool)} {latencyMs : ℚ}
    (hclean : ∀ part ∈ parts, Clean part.1 ∧ ch 'D' ∈ part.1) :
    ∃ inner, (makeResponse cfg parts latencyMs).1.text =
        informationOpen ++ inner ++ informationClose ∧
      Shows cfg (makeResponse cfg parts latencyMs).2 inner := by
  have hopen : lit "<information>\n" = informationOpen ++ lit "\n" := rfl
  have hclose : lit "\n</information>" = lit "\n" ++ informationClose := rfl
  refine ⟨lit "\n" ++ (truncateBody cfg (bodyOf parts)).1 ++ lit "\n", ?_, ?_⟩
  · rw [text_makeResponse, hopen, hclose]
    simp only [List.append_assoc]
  cases parts with
  | nil => exact .empty rfl rfl
  | cons part parts =>
      have hbody : Clean (bodyOf (part :: parts)) :=
        clean_bodyOf (List.cons_ne_nil part parts) fun p hp => (hclean p hp).1
      have hshort : Clean (truncateBody cfg (bodyOf (part :: parts))).1 :=
        clean_truncateBody hbody
      have hframe := clean_frame hshort
      rcases truncateBody_cases cfg (bodyOf (part :: parts)) with ⟨hcut, -⟩ | ⟨hcut, -⟩
      · have hmem : ch 'D' ∈ bodyOf (part :: parts) :=
          (infix_bodyOf List.mem_cons_self).mem (hclean part List.mem_cons_self).2
        apply Shows.documents rfl rfl hframe (d := ch 'D') _ (by decide)
        rw [hcut]
        exact List.mem_append_left _ (List.mem_append_right _ hmem)
      · have hmem : ch '.' ∈ lit "\n... [truncated]" := by decide
        apply Shows.documents rfl rfl hframe (d := ch '.') _ (by decide)
        rw [hcut]
        exact List.mem_append_left _
          (List.mem_append_right _ (List.mem_append_right _ hmem))

theorem shows_of_execute {parameters : Json F} {service : Service} {response : ToolResponse}
    {m : SearchMetrics} (h : execute py cfg parameters service = .ok (response, m))
    (hclean : ∀ items, Retrieves py cfg parameters service items → ∀ doc ∈ items,
      CleanDoc py doc) :
    ∃ inner, response.text = informationOpen ++ inner ++ informationClose ∧
      Shows cfg m inner := by
  rcases execute_cases h with ⟨errorType, message, latencyMs, -, hempty, heq⟩ |
    ⟨items, parts, latencyMs, hretrieves, hparts, heq⟩
  · cases heq
    refine ⟨lit "\nSearch failed: " ++ (message ++ lit "\n"), ?_, .error _ rfl hempty⟩
    have hopen : lit "<information>\nSearch failed: " =
      informationOpen ++ lit "\nSearch failed: " := rfl
    have hclose : lit "\n</information>" = lit "\n" ++ informationClose := rfl
    simp only [hopen, hclose, List.append_assoc]
  · cases heq
    apply shows_makeResponse
    intro part hpart
    rcases PyLoop.exists_of_forall₂ (forall₂_formatDocs hparts) hpart with
      ⟨doc, hdoc, j, hformat⟩
    exact clean_formatDoc hformat (hclean items hretrieves doc hdoc)

theorem not_mem_truncateBody_emptyBody :
    ch '<' ∉ lit "\n" ++ (truncateBody cfg emptyBody).1 ++ lit "\n" := by
  have hbody : ch '<' ∉ emptyBody := by decide
  have hdots : ch '<' ∉ lit "\n... [truncated]" := by decide
  have hline : ch '<' ∉ lit "\n" := by decide
  rw [List.mem_append, List.mem_append, not_or, not_or]
  refine ⟨⟨hline, ?_⟩, hline⟩
  rcases truncateBody_cases cfg emptyBody with ⟨hcut, -⟩ | ⟨hcut, -⟩
  · rwa [hcut]
  · rw [hcut, List.mem_append, not_or]
    exact ⟨fun h => hbody (List.mem_of_mem_take h), hdots⟩

theorem passes_truncateBody_emptyBody :
    Passes (lit "\n" ++ (truncateBody cfg emptyBody).1 ++ lit "\n") ↔ maxBodyChars cfg < 14 := by
  have hfailed : searchFailed = emptyBody.take 14 := by decide
  have hframe : (truncateBody cfg emptyBody).1 <:+:
      lit "\n" ++ (truncateBody cfg emptyBody).1 ++ lit "\n" := List.infix_append ..
  constructor
  · intro h
    by_contra hlong
    apply h.2
    rw [contains_iff, hfailed]
    refine List.IsInfix.trans ?_ hframe
    rcases truncateBody_cases cfg emptyBody with ⟨hcut, -⟩ | ⟨hcut, -⟩
    · rw [hcut]
      exact (List.take_prefix 14 emptyBody).isInfix
    · rw [hcut]
      have htake : emptyBody.take 14 <+: emptyBody.take (maxBodyChars cfg) :=
        List.take_prefix_take_left (Nat.le_of_not_lt hlong)
      exact (htake.trans (List.prefix_append _ _)).isInfix
  · intro hshort
    have hlen : maxBodyChars cfg < emptyBody.length := hshort.trans (by decide)
    rcases truncateBody_cases cfg emptyBody with ⟨-, hle⟩ | ⟨hcut, -⟩
    · omega
    · have htake : ∀ k < 14, ∀ p ∈ framing, ¬ contains p (emptyBody.take k) := by decide
      have hdots : Clean (lit "... [truncated]") := clean_of_not_mem (by decide) (by decide)
      have hclean : Clean (truncateBody cfg emptyBody).1 := by
        rw [hcut]
        exact Clean.join (.inr (.inl rfl)) (htake _ hshort) hdots
      have hmem : ch '.' ∈ lit "\n... [truncated]" := by decide
      constructor
      · apply strip_ne_nil (d := ch '.') (hframe.mem _) (by decide)
        rw [hcut]
        exact List.mem_append_right _ hmem
      · exact clean_frame hclean searchFailed (by simp [framing])

/-- The first block of a response passes when documents were found, and when the body of a
response without documents is cut within its first words. -/
theorem passes_of_shows {m : SearchMetrics} {inner block rest : Text} (h : Shows cfg m inner)
    (hcut : cut informationClose (inner ++ informationClose) = some (block, rest)) :
    Passes block ↔ m.success = 1 ∨ m.exceptionType = .emptyResult ∧ maxBodyChars cfg < 14 := by
  have hone : (0 : ℕ) ≠ 1 := by decide
  cases h with
  | error message hsuccess htype =>
      have hhead : informationClose.head? = some (ch '<') := isTag_informationClose.head?
      rw [List.append_assoc, cut_append_of_head hhead (by decide), Option.map_eq_some_iff] at hcut
      obtain ⟨r, -, hr⟩ := hcut
      have hblock : lit "\nSearch failed: " ++ r.1 = block := congrArg Prod.fst hr
      have hfailed : searchFailed <:+: lit "\nSearch failed: " :=
        contains_iff.mp (by decide)
      constructor
      · intro hpasses
        exfalso
        apply hpasses.2
        rw [contains_iff, ← hblock]
        exact hfailed.trans (List.prefix_append _ r.1).isInfix
      · rintro (hm | ⟨hm, -⟩)
        · exact absurd (hsuccess.symm.trans hm) hone
        · exact absurd hm htype
  | empty hsuccess htype =>
      have hclose : ¬ contains informationClose
          (lit "\n" ++ (truncateBody cfg emptyBody).1 ++ lit "\n") := by
        intro hmem
        exact not_mem_truncateBody_emptyBody
          ((contains_iff.mp hmem).mem isTag_informationClose.mem)
      rw [isTag_informationClose.cut_append_self hclose] at hcut
      obtain rfl : _ = block := congrArg Prod.fst (Option.some.inj hcut)
      rw [passes_truncateBody_emptyBody]
      constructor
      · intro hshort
        exact .inr ⟨htype, hshort⟩
      · rintro (hm | ⟨-, hshort⟩)
        · exact absurd (hsuccess.symm.trans hm) hone
        · exact hshort
  | documents hsuccess htype hclean hd hspace =>
      have hclose : ¬ contains informationClose inner := hclean _ (by simp [framing])
      rw [isTag_informationClose.cut_append_self hclose] at hcut
      obtain rfl : inner = block := congrArg Prod.fst (Option.some.inj hcut)
      constructor
      · intro _
        exact .inl hsuccess
      · intro _
        exact ⟨strip_ne_nil hd hspace, hclean _ (by simp [framing])⟩

/-! ## Calls and their transcript -/

/-- A call that returned, whose documents have no framing in them. -/
structure SearchCall (py : Python F) (cfg : Config) where
  parameters : Json F
  service : Service
  response : ToolResponse
  metrics : SearchMetrics
  returned : execute py cfg parameters service = .ok (response, metrics)
  clean : ∀ items, Retrieves py cfg parameters service items → ∀ doc ∈ items, CleanDoc py doc

def TagFree (t : Text) : Prop := ¬ contains informationOpen t ∧ ¬ contains informationClose t

/-- The texts of the responses, each with the text up to the next one. -/
def transcript (front : Text) (calls : List (SearchCall py cfg × Text)) : Text :=
  front ++ calls.flatMap fun call => call.1.response.text ++ call.2

/-- Behind its first closing tag the text opens a block again. -/
def Reopens (text : Text) : Prop :=
  ∃ front rest, cut informationClose text = some (front, rest) ∧ contains informationOpen rest

/-- The metrics and the text give the same account of the searches. -/
def FallbackAgrees (py : Python F) (text : Text) (info : Fields) : Prop :=
  ∃ structured fallback, extractToolState py text (some info) = some structured ∧
    extractToolState py text none = some fallback ∧
    structured.numSearchCalls = fallback.numSearchCalls ∧
    structured.hasSuccessfulSearch = fallback.hasSuccessfulSearch ∧
    structured.allSearchesSuccessful = fallback.allSearchesSuccessful

/-! ## The two accounts -/

/-- The account of the metrics. -/
theorem extractToolState_accumulated (py : Python F) (text : Text) {info : Fields}
    {ms : List SearchMetrics} (hne : ms ≠ [])
    (hconsistent : ∀ m ∈ ms, Consistent m ∧ m.success + m.failed = 1)
    (hinfo : Accumulated info ms) :
    ∃ structured, extractToolState py text (some info) = some structured ∧
      structured.numSearchCalls = ms.length ∧
      (structured.hasSuccessfulSearch = true ↔ ∃ m ∈ ms, m.success = 1) ∧
      (structured.allSearchesSuccessful = true ↔ ∀ m ∈ ms, m.success = 1) := by
  rcases extractToolState_of_counters text (fun m hm => (hconsistent m hm).1)
    (fun _ count hkey => hinfo.counter hne count hkey)
    with ⟨structured, hstate, hhas, hnum, hall⟩
  have hlen : (ms.map SearchMetrics.called).sum = ms.length :=
    (Averages.sum_map_eq_length_iff fun m hm => (hconsistent m hm).1.called.ge).mpr
      fun m hm => (hconsistent m hm).1.called
  have hsplit : (ms.map SearchMetrics.success).sum + (ms.map SearchMetrics.failed).sum =
      ms.length := by
    rw [← List.sum_map_add]
    exact (Averages.sum_map_eq_length_iff fun m hm => (hconsistent m hm).2.ge).mpr
      fun m hm => (hconsistent m hm).2
  have hpos := List.length_pos_of_ne_nil hne
  refine ⟨structured, hstate, by rw [hnum, hlen], hhas, ?_⟩
  have hzero : (ms.map SearchMetrics.failed).sum = 0 ↔ ∀ m ∈ ms, m.success = 1 := by
    rw [List.sum_eq_zero_iff_forall_eq_nat]
    simp only [List.mem_map, forall_exists_index, and_imp, forall_apply_eq_imp_iff₂]
    apply forall₂_congr
    intro m hm
    have hone := (hconsistent m hm).2
    omega
  rw [hall, hlen, ← hzero]
  omega

/-- The account of the text. -/
theorem extractToolState_none (py : Python F) (text : Text) :
    ∃ fallback, extractToolState py text none = some fallback ∧
      fallback.numSearchCalls = (blocks informationOpen informationClose text).length ∧
      (fallback.hasSuccessfulSearch = true ↔
        ∃ block ∈ blocks informationOpen informationClose text, Passes block) ∧
      (fallback.allSearchesSuccessful = true ↔
        (blocks informationOpen informationClose text).length = 1 ∧
          ∃ block ∈ blocks informationOpen informationClose text, Passes block) := by
  have hlen : (extractInformationBlocks text).length =
      (blocks informationOpen informationClose text).length := List.length_map _
  have hpos : xmlSuccess (extractInformationBlocks text) = true →
      0 < (blocks informationOpen informationClose text).length := by
    rw [xmlSuccess_iff]
    intro h
    rcases h with ⟨block, hmem, -⟩
    exact List.length_pos_of_mem hmem
  unfold extractToolState
  simp only [Option.getD_none, Dict.get?_nil, Option.isSome_none, Bool.false_eq_true, ite_false,
    Option.bind_eq_bind, Option.bind_some, Option.pure_def, ← xmlSuccess_iff, hlen]
  refine ⟨_, rfl, rfl, ?_, ?_⟩
  · cases hxml : xmlSuccess (extractInformationBlocks text) with
    | false => simp [ofBool]
    | true => simpa [ofBool] using hpos hxml
  · cases hxml : xmlSuccess (extractInformationBlocks text) with
    | false =>
        simp only [ofBool, Bool.false_eq_true, ite_false, Bool.and_eq_true, decide_eq_true_eq]
        constructor
        · intro h
          rcases h with ⟨⟨hcount, hnone⟩, -⟩
          omega
        · intro h
          rcases h with ⟨-, hfalse⟩
          exact hfalse.elim
    | true =>
        have hpos := hpos hxml
        simp [ofBool]
        omega

/-! ## Agreement -/

/-- The first block of a response, which alone decides whether the call passes. -/
theorem blocks_response (call : SearchCall py cfg) :
    ∃ block more, blocks informationOpen informationClose call.response.text = block :: more ∧
      (more = [] ↔ ¬ Reopens call.response.text) ∧
      (Passes block ↔ call.metrics.success = 1 ∨
        call.metrics.exceptionType = .emptyResult ∧ maxBodyChars cfg < 14) := by
  obtain ⟨inner, htext, hshows⟩ := shows_of_execute call.returned call.clean
  obtain ⟨block, rest, hcut, hblocks, hmore⟩ := blocks_framed isTag_informationOpen
    isTag_informationClose informationClose_ne_open inner
  have hwhole : cut informationClose call.response.text = some (informationOpen ++ block, rest) := by
    have hopen : cut informationClose informationOpen = none := by decide
    rw [htext, List.append_assoc, isTag_informationClose.cut_append_of_seam
      (seam_of_last isTag_informationOpen.getLast?) hopen, hcut]
    rfl
  refine ⟨block, _, by rw [htext, hblocks], ?_, passes_of_shows hshows hcut⟩
  rw [hmore, not_iff_not]
  constructor
  · intro hopens
    exact ⟨_, rest, hwhole, hopens⟩
  · intro h
    rcases h with ⟨front, rest', hcut', hopens⟩
    rw [hwhole] at hcut'
    obtain rfl : rest = rest' := congrArg Prod.snd (Option.some.inj hcut')
    exact hopens

theorem blocks_transcript {front : Text} {calls : List (SearchCall py cfg × Text)}
    (hfront : TagFree front) (hgap : ∀ call ∈ calls, TagFree call.2) :
    blocks informationOpen informationClose (transcript front calls) =
      calls.flatMap fun call => blocks informationOpen informationClose call.1.response.text := by
  have hframed : ∀ piece ∈ calls.map fun call => (call.1.response.text, call.2),
      ∃ inner, piece.1 = informationOpen ++ inner ++ informationClose := by
    intro piece hpiece
    obtain ⟨call, -, rfl⟩ := List.mem_map.mp hpiece
    obtain ⟨inner, htext, -⟩ := shows_of_execute call.1.returned call.1.clean
    exact ⟨inner, htext⟩
  have hfree : ∀ piece ∈ calls.map fun call => (call.1.response.text, call.2),
      ¬ contains informationOpen piece.2 := by
    intro piece hpiece
    obtain ⟨call, hcall, rfl⟩ := List.mem_map.mp hpiece
    exact (hgap call hcall).1
  have hblocks := blocks_flatMap isTag_informationOpen isTag_informationClose
    informationClose_ne_open hfront.1 hframed hfree
  rwa [List.flatMap_map, List.flatMap_map] at hblocks

/-- What the blocks of a transcript show. -/
structure Account (cfg : Config) (calls : List (SearchCall py cfg × Text)) (bs : List Text) :
    Prop where
  count : bs.length = calls.length ↔ ∀ call ∈ calls, ¬ Reopens call.1.response.text
  passes : (∀ call ∈ calls, ¬ Reopens call.1.response.text) →
    ((∃ block ∈ bs, Passes block) ↔ ∃ call ∈ calls, call.1.metrics.success = 1 ∨
      call.1.metrics.exceptionType = .emptyResult ∧ maxBodyChars cfg < 14)

theorem account_transcript {front : Text} {calls : List (SearchCall py cfg × Text)}
    (hfront : TagFree front) (hgap : ∀ call ∈ calls, TagFree call.2) :
    Account cfg calls (blocks informationOpen informationClose (transcript front calls)) where
  count := by
    rw [blocks_transcript hfront hgap, List.length_flatMap, Averages.sum_map_eq_length_iff]
    · apply forall₂_congr
      intro call _
      obtain ⟨block, more, hblocks, hmore, -⟩ := blocks_response call.1
      rw [hblocks, List.length_cons, Nat.add_eq_right, List.length_eq_zero_iff, hmore]
    · intro call _
      obtain ⟨block, more, hblocks, -⟩ := blocks_response call.1
      rw [hblocks]
      exact Nat.succ_pos _
  passes hopens := by
    rw [blocks_transcript hfront hgap]
    simp only [List.mem_flatMap]
    constructor
    · intro h
      rcases h with ⟨block, ⟨call, hcall, hmem⟩, hpasses⟩
      obtain ⟨first, more, hblocks, hmore, hfirst⟩ := blocks_response call.1
      rw [hblocks, hmore.mpr (hopens call hcall), List.mem_singleton] at hmem
      exact ⟨call, hcall, hfirst.mp (hmem ▸ hpasses)⟩
    · intro h
      rcases h with ⟨call, hcall, hshown⟩
      obtain ⟨first, more, hblocks, hmore, hfirst⟩ := blocks_response call.1
      exact ⟨first, ⟨call, hcall, hblocks ▸ List.mem_cons_self⟩, hfirst.mpr hshown⟩

theorem fallbackAgrees_iff_account (text : Text) {calls : List (SearchCall py cfg × Text)}
    (hne : calls ≠ []) {info : Fields}
    (hinfo : accumulateAll [] (calls.map fun call => call.1.metrics) = some info) :
    FallbackAgrees py text info ↔
      (blocks informationOpen informationClose text).length = calls.length ∧
      ((∃ call ∈ calls, call.1.metrics.success = 1) ↔
        ∃ block ∈ blocks informationOpen informationClose text, Passes block) ∧
      ((∀ call ∈ calls, call.1.metrics.success = 1) ↔
        (blocks informationOpen informationClose text).length = 1 ∧
          ∃ block ∈ blocks informationOpen informationClose text, Passes block) := by
  obtain ⟨info', hfields, hacc⟩ :=
    accumulated_nil.steps (calls.map fun call => call.1.metrics)
  obtain rfl : info' = info := Option.some.inj (hfields.symm.trans hinfo)
  rw [List.nil_append] at hacc
  have hconsistent : ∀ m ∈ calls.map fun call => call.1.metrics,
      Consistent m ∧ m.success + m.failed = 1 := by
    intro m hm
    obtain ⟨call, -, rfl⟩ := List.mem_map.mp hm
    exact ⟨consistent_of_execute call.1.returned, failed_of_execute call.1.returned⟩
  obtain ⟨structured, hstructured, hnum, hhas, hall⟩ :=
    extractToolState_accumulated py text (by simpa using hne) hconsistent hacc
  obtain ⟨fallback, hfallback, hnum', hhas', hall'⟩ := extractToolState_none py text
  simp only [List.length_map, List.mem_map, exists_exists_and_eq_and, forall_exists_index,
    and_imp, forall_apply_eq_imp_iff₂] at hnum hhas hall
  rw [← hall', ← hhas', ← hall, ← hhas, ← Bool.eq_iff_iff, ← Bool.eq_iff_iff]
  constructor
  · intro h
    rcases h with ⟨structured', fallback', hs, hf, hnums, hagree⟩
    obtain rfl : structured = structured' := Option.some.inj (hstructured.symm.trans hs)
    obtain rfl : fallback = fallback' := Option.some.inj (hfallback.symm.trans hf)
    refine ⟨?_, hagree⟩
    rw [hnum, hnum', Nat.cast_inj] at hnums
    exact hnums.symm
  · intro h
    rcases h with ⟨hlen, hagree⟩
    refine ⟨structured, fallback, hstructured, hfallback, ?_, hagree⟩
    rw [hnum, hnum', hlen]

/-- Both accounts see a success in the same cases unless the only ones are empty results that do
not say so. -/
theorem hasSuccess_agrees_iff (calls : List (SearchCall py cfg × Text)) :
    ((∃ call ∈ calls, call.1.metrics.success = 1) ↔
      ∃ call ∈ calls, call.1.metrics.success = 1 ∨
        call.1.metrics.exceptionType = .emptyResult ∧ maxBodyChars cfg < 14) ↔
      14 ≤ maxBodyChars cfg ∨ (∃ call ∈ calls, call.1.metrics.success = 1) ∨
        ∀ call ∈ calls, call.1.metrics.exceptionType ≠ .emptyResult := by
  constructor
  · intro hhas
    rw [or_iff_not_imp_left, not_le]
    intro hshort
    by_cases hempty : ∃ call ∈ calls, call.1.metrics.exceptionType = .emptyResult
    · rcases hempty with ⟨call, hcall, htype⟩
      exact .inl (hhas.mpr ⟨call, hcall, .inr ⟨htype, hshort⟩⟩)
    · exact .inr fun call hcall htype => hempty ⟨call, hcall, htype⟩
  · intro hlong
    constructor
    · rintro ⟨call, hcall, hsuccess⟩
      exact ⟨call, hcall, .inl hsuccess⟩
    · rintro ⟨call, hcall, hsuccess | ⟨htype, hshort⟩⟩
      · exact ⟨call, hcall, hsuccess⟩
      · rcases hlong with hlong | hsuccess | hnone
        · omega
        · exact hsuccess
        · exact absurd htype (hnone call hcall)

/-- One bit for all successes tells that every call succeeded when there is only one call, and
when one of them failed. -/
theorem allSuccess_agrees_iff {calls : List (SearchCall py cfg × Text)} (hne : calls ≠ []) :
    ((∀ call ∈ calls, call.1.metrics.success = 1) ↔
      calls.length = 1 ∧ ∃ call ∈ calls, call.1.metrics.success = 1) ↔
      calls.length = 1 ∨ ∃ call ∈ calls, call.1.metrics.success = 0 := by
  constructor
  · intro hall
    by_contra hcon
    rw [not_or] at hcon
    rcases hcon with ⟨hone, hnone⟩
    apply hone
    refine (hall.mp fun call hcall => ?_).1
    have hsplit := failed_of_execute call.1.returned
    have hzero : call.1.metrics.success ≠ 0 := fun hzero => hnone ⟨call, hcall, hzero⟩
    omega
  · intro hfails
    constructor
    · intro hall
      rcases List.exists_mem_of_ne_nil calls hne with ⟨call, hcall⟩
      refine ⟨hfails.resolve_right ?_, call, hcall, hall call hcall⟩
      rintro ⟨failing, hmem, hzero⟩
      have hone := hall failing hmem
      omega
    · rintro ⟨hone, first, hfirst, hsuccess⟩ call hcall
      obtain ⟨only, rfl⟩ := List.length_eq_one_iff.mp hone
      rw [List.mem_singleton] at hfirst hcall
      rw [hcall, ← hfirst]
      exact hsuccess

/-- The text keeps one bit for all successes: it agrees with the metrics on several calls only
when one of them failed. Besides, each response must be one block, and a body without documents
long enough to say so. -/
theorem fallbackAgrees_iff {front : Text} {calls : List (SearchCall py cfg × Text)}
    (hne : calls ≠ []) (hfront : TagFree front) (hgap : ∀ call ∈ calls, TagFree call.2)
    {info : Fields} (hinfo : accumulateAll [] (calls.map fun call => call.1.metrics) = some info) :
    FallbackAgrees py (transcript front calls) info ↔
      (∀ call ∈ calls, ¬ Reopens call.1.response.text) ∧
      (calls.length = 1 ∨ ∃ call ∈ calls, call.1.metrics.success = 0) ∧
      (14 ≤ maxBodyChars cfg ∨ (∃ call ∈ calls, call.1.metrics.success = 1) ∨
        ∀ call ∈ calls, call.1.metrics.exceptionType ≠ .emptyResult) := by
  have haccount := account_transcript hfront hgap
  rw [fallbackAgrees_iff_account _ hne hinfo, haccount.count]
  apply and_congr_right
  intro hopens
  rw [haccount.count.mpr hopens, haccount.passes hopens]
  constructor
  · rintro ⟨hhas, hall⟩
    rw [← hhas] at hall
    exact ⟨(allSuccess_agrees_iff hne).mp hall, (hasSuccess_agrees_iff calls).mp hhas⟩
  · rintro ⟨hfails, hlong⟩
    have hhas := (hasSuccess_agrees_iff calls).mpr hlong
    refine ⟨hhas, ?_⟩
    rw [← hhas]
    exact (allSuccess_agrees_iff hne).mpr hfails

/-! ## Two searches -/

def pageService (docs : List (Json LiteralFloat)) : Service := fun _ _ =>
  (.text (dumps literalCodec (resultPage docs)), 12)

def queryParameters : Json LiteralFloat := .obj [(lit "query", .str (lit "q"))]

theorem execute_pageService {docs : List (Json LiteralFloat)} {parts : List (Text × Bool)}
    (hwf : ∀ doc ∈ docs, doc.Wf) (hparts : formatDocs asciiPython {} 0 docs = .ok parts) :
    execute asciiPython {} queryParameters (pageService docs) =
      .ok (makeResponse {} parts 12) := by
  have hquery : readQuery queryParameters = .ok (lit "q") := rfl
  have htopk : readTopk asciiPython {} queryParameters = .ok 3 := rfl
  have hne : lit "q" ≠ [] := by decide
  have hdocs : readDocs asciiPython (dumps literalCodec (resultPage docs)) = .ok (.arr docs) :=
    readDocs_resultPage asciiPython hwf
  rw [execute, hquery]
  simp only [bind, Except.bind, if_neg hne, htopk, pageService, hdocs, iterate, hparts]
  rfl

/-- A call that gets these documents. -/
def pageCall (docs : List (Json LiteralFloat)) (parts : List (Text × Bool))
    (hwf : ∀ doc ∈ docs, doc.Wf) (hparts : formatDocs asciiPython {} 0 docs = .ok parts)
    (hclean : ∀ doc ∈ docs, CleanDoc asciiPython doc) : SearchCall asciiPython {} where
  parameters := queryParameters
  service := pageService docs
  response := (makeResponse {} parts 12).1
  metrics := (makeResponse {} parts 12).2
  returned := execute_pageService hwf hparts
  clean _ hitems doc hdoc :=
    hclean doc (eq_of_retrieves_resultPage hwf (fun _ _ => rfl) hitems ▸ hdoc)

def passage : Json LiteralFloat :=
  .obj [(lit "title", .str (lit "France")), (lit "text", .str (lit "Paris is its capital."))]

theorem cleanDoc_passage : CleanDoc asciiPython passage := by
  intro title text h
  cases h
  have htitle : ∀ p ∈ framing, ¬ contains p (lit "France") := by decide
  have htext : ∀ p ∈ framing, ¬ contains p (lit "Paris is its capital.") := by decide
  exact ⟨htitle, htext⟩

def foundCall : SearchCall asciiPython {} :=
  pageCall [passage] [(lit "Doc 1(Title: France):\nParis is its capital.", false)]
    (by simp [passage, Json.Wf, WfMembers, Dict.keys]; decide) rfl
    (by simpa using cleanDoc_passage)

def emptyCall : SearchCall asciiPython {} :=
  pageCall [] [] (by simp) rfl (by simp)

def twoSearches : List (SearchCall asciiPython {} × Text) :=
  [(foundCall, lit "\n"), (foundCall, lit "\n")]

/-- Two successful searches: the metrics call all of them successful, the text does not. -/
theorem not_fallbackAgrees_twoSearches :
    TagFree (lit "\n") ∧ ∃ info,
      accumulateAll [] (twoSearches.map fun call => call.1.metrics) = some info ∧
      ¬ FallbackAgrees asciiPython (transcript (lit "\n") twoSearches) info := by
  have hfree : TagFree (lit "\n") := by
    constructor <;> decide
  obtain ⟨info, hinfo, -⟩ :=
    accumulated_nil.steps (twoSearches.map fun call => call.1.metrics)
  refine ⟨hfree, info, hinfo, ?_⟩
  rw [fallbackAgrees_iff_account _ (List.cons_ne_nil _ _) hinfo]
  intro h
  rcases h with ⟨hcount, -, hall⟩
  have hsuccess : foundCall.metrics.success = 1 := rfl
  have hone := (hall.mp (by simp [hsuccess])).1
  rw [hcount] at hone
  cases hone

theorem not_reopens_of_cut_nil {text front : Text}
    (h : cut informationClose text = some (front, [])) : ¬ Reopens text := by
  rintro ⟨front', rest, hcut, hopens⟩
  rw [h] at hcut
  obtain rfl : [] = rest := congrArg Prod.snd (Option.some.inj hcut)
  revert hopens
  decide

def partialSearches : List (SearchCall asciiPython {} × Text) :=
  [(foundCall, lit "\n"), (emptyCall, [])]

theorem not_reopens_partialSearches :
    ∀ call ∈ partialSearches, ¬ Reopens call.1.response.text := by
  simp only [partialSearches, List.forall_mem_cons, List.not_mem_nil, false_implies,
    implies_true, and_true]
  constructor
  · have hcut : cut informationClose foundCall.response.text = some
        (lit "<information>\nDoc 1(Title: France):\nParis is its capital.\n", []) := by decide
    exact not_reopens_of_cut_nil hcut
  · have hcut : cut informationClose emptyCall.response.text = some
        (lit "<information>\nSearch failed: No relevant documents were returned.\n", []) := by
      decide
    exact not_reopens_of_cut_nil hcut

theorem fallbackAgrees_partialSearches :
    ∃ info, accumulateAll [] (partialSearches.map fun call => call.1.metrics) = some info ∧
      FallbackAgrees asciiPython (transcript (lit "\n") partialSearches) info := by
  obtain ⟨info, hinfo, -⟩ :=
    accumulated_nil.steps (partialSearches.map fun call => call.1.metrics)
  have hfront : TagFree (lit "\n") := by
    constructor <;> decide
  have hgap : ∀ call ∈ partialSearches, TagFree call.2 := by
    simp only [partialSearches, List.forall_mem_cons, List.not_mem_nil, false_implies,
      implies_true, and_true]
    exact ⟨hfront, by constructor <;> decide⟩
  have hfails : ∃ call ∈ partialSearches, call.1.metrics.success = 0 :=
    ⟨(emptyCall, []), by simp [partialSearches], rfl⟩
  have hlong : 14 ≤ maxBodyChars ({} : Config) := by decide
  exact ⟨info, hinfo, (fallbackAgrees_iff (List.cons_ne_nil _ _) hfront hgap hinfo).mpr
    ⟨not_reopens_partialSearches, .inr hfails, .inl hlong⟩⟩

end SearchR1.SearchTool
