import SearchR1.Verification.Rollout.XmlFallback

/-! # Reading a response back -/

namespace SearchR1.SearchTool

open PyText PyJson QaEmToolReward

variable {F : Type} {py : Python F} {cfg : Config}

/-! ## Closing tags in documents -/

/-- The text of a document as it is shown. -/
def shownText (py : Python F) (cfg : Config) : Json F → Text
  | .str t => if t.length > cfg.maxDocChars then t.take cfg.maxDocChars ++ lit "..." else t
  | v => py.text v

/-- Within the first `room` code points of a document, its title or its shown text holds a closing
tag. -/
def DocCloses (py : Python F) (cfg : Config) (room i : ℕ) (title text : Json F) : Prop :=
  py.truthy title ∧ contains informationClose
      ((py.text title).take (room - (lit "Doc " ++ natText (i + 1) ++ lit "(Title: ").length)) ∨
    contains informationClose ((shownText py cfg text).take (room - (docLabel py i title).length))

/-- The same for the documents from the `i`th on. -/
def DocsClose (py : Python F) (cfg : Config) : ℕ → ℕ → List (Json F) → Prop
  | _, _, [] => False
  | room, i, doc :: docs => ∃ title text, readDoc py doc = .ok (title, text) ∧
      (DocCloses py cfg room i title text ∨
        DocsClose py cfg (room - (docLabel py i title ++ shownText py cfg text).length - 2) (i + 1)
          docs)

theorem eq_shownText {text : Json F} {part : Text × Bool}
    (h : truncateDoc py cfg text = .ok part) : part.1 = shownText py cfg text := by
  rcases truncateDoc_cases h with ⟨t, rfl, hlong, rfl⟩ | ⟨rfl, hshort⟩
  · simp [shownText, hlong]
  · cases text with
    | str t => simp [shownText, Nat.not_lt.mpr (hshort t rfl), Python.text]
    | _ => rfl

theorem formatDoc_eq_shownText {i : ℕ} {doc : Json F} {part : Text × Bool}
    (h : formatDoc py cfg i doc = .ok part) :
    ∃ title text, readDoc py doc = .ok (title, text) ∧
      part.1 = docLabel py i title ++ shownText py cfg text := by
  rcases exists_of_formatDoc h with ⟨title, text, shown, hread, htruncate, rfl⟩
  exact ⟨title, text, hread, by rw [eq_shownText htruncate]⟩

/-- The label of a document has no part of the tag besides its title. -/
theorem contains_take_docLabel (room i : ℕ) (title : Json F) (shown : Text) :
    contains informationClose ((docLabel py i title ++ shown).take room) ↔
      (py.truthy title ∧ contains informationClose ((py.text title).take
        (room - (lit "Doc " ++ natText (i + 1) ++ lit "(Title: ").length))) ∨
      contains informationClose (shown.take (room - (docLabel py i title).length)) := by
  have hhead := isTag_informationClose.head?
  have hparen : ch ')' ∉ informationClose := by decide
  have hnumber := not_mem_docNumber i (d := ch '<') (by decide) (by decide)
  unfold docLabel
  split
  · rename_i htruthy
    have hfront : ch '<' ∉ lit "Doc " ++ natText (i + 1) ++ lit "(Title: " := by
      rw [List.mem_append, not_or]
      exact ⟨hnumber, by decide⟩
    have hcolon : ch '<' ∉ lit ":\n" := by decide
    have hsplit : lit "Doc " ++ natText (i + 1) ++ lit "(Title: " ++ py.text title ++ lit ")" ++
        lit ":\n" ++ shown = (lit "Doc " ++ natText (i + 1) ++ lit "(Title: ") ++
          (py.text title ++ ch ')' :: (lit ":\n" ++ shown)) := by
      simp [lit]
    have hroom : room - (lit "Doc " ++ natText (i + 1) ++ lit "(Title: ").length -
        (py.text title).length - 1 - (lit ":\n").length =
          room - (lit "Doc " ++ natText (i + 1) ++ lit "(Title: " ++ py.text title ++ lit ")" ++
            lit ":\n").length := by
      have hone : (lit ")").length = 1 := rfl
      simp only [List.length_append]
      omega
    rw [hsplit, contains_take_append_of_head hhead hfront, contains_take_append_cons hparen,
      contains_take_append_of_head hhead hcolon, hroom, and_iff_right htruthy]
  · rename_i htruthy
    have hfront : ch '<' ∉ lit "Doc " ++ natText (i + 1) ++ lit ":\n" := by
      rw [List.mem_append, not_or]
      exact ⟨hnumber, by decide⟩
    rw [contains_take_append_of_head hhead hfront]
    simp [htruthy]

/-- The formatted documents hold a closing tag where one of the documents does. -/
theorem contains_take_intercalate {items : List (Json F)} {i : ℕ} {parts : List (Text × Bool)}
    (h : formatDocs py cfg i items = .ok parts) (room : ℕ) :
    contains informationClose (((lit "\n\n").intercalate (parts.map Prod.fst)).take room) ↔
      DocsClose py cfg room i items := by
  have hbreak : ch '\n' ∉ informationClose := by decide
  induction items generalizing i parts room with
  | nil =>
      cases h
      simp only [DocsClose, iff_false, List.map_nil, List.intercalate_nil, List.take_nil]
      decide
  | cons doc items ih =>
      rw [formatDocs, PyLoop.bind_cons_eq_ok_iff] at h
      rcases h with ⟨part, rest, hpart, hrest, rfl⟩
      rcases formatDoc_eq_shownText hpart with ⟨title, text, hread, heq⟩
      have hdoc : contains informationClose (part.1.take room) ↔
          DocCloses py cfg room i title text := by
        rw [heq]
        exact contains_take_docLabel room i title _
      have hcloses : DocsClose py cfg room i (doc :: items) ↔
          DocCloses py cfg room i title text ∨
            DocsClose py cfg (room - part.1.length - 2) (i + 1) items := by
        rw [heq]
        constructor
        · intro h
          rcases h with ⟨title', text', hread', h⟩
          rw [hread] at hread'
          cases hread'
          exact h
        · intro h
          exact ⟨title, text, hread, h⟩
      have htail : contains informationClose (((lit "\n\n").intercalate
          (rest.map Prod.fst)).take (room - part.1.length - 2)) ↔
            DocsClose py cfg (room - part.1.length - 2) (i + 1) items := ih hrest _
      rw [hcloses, ← hdoc, ← htail]
      cases rest with
      | nil => simp [contains_iff, isTag_informationClose.ne_nil]
      | cons next rest =>
          have hjoin : (lit "\n\n").intercalate ((part :: next :: rest).map Prod.fst) =
              part.1 ++ ch '\n' :: ([] ++ ch '\n' ::
                (lit "\n\n").intercalate ((next :: rest).map Prod.fst)) := by
            simp [List.intercalate, lit]
          have hroom : room - part.1.length - 1 - ([] : Text).length - 1 =
              room - part.1.length - 2 := by
            simp only [List.length_nil]
            omega
          have hnil : ¬ contains informationClose [] := by decide
          rw [hjoin, contains_take_append_cons hbreak, contains_take_append_cons hbreak, hroom,
            List.take_nil, or_iff_right hnil]

/-- The body between the tags holds a closing tag where a document that is shown does. -/
theorem contains_truncateBody {items : List (Json F)} {parts : List (Text × Bool)}
    (h : formatDocs py cfg 0 items = .ok parts) :
    contains informationClose (truncateBody cfg (bodyOf parts)).1 ↔
      DocsClose py cfg (maxBodyChars cfg) 0 items := by
  have hcut : contains informationClose (truncateBody cfg (bodyOf parts)).1 ↔
      contains informationClose ((bodyOf parts).take (maxBodyChars cfg)) := by
    have hbreak : ch '\n' ∉ informationClose := by decide
    have hmark : ¬ contains informationClose (lit "... [truncated]") := by decide
    rcases truncateBody_cases cfg (bodyOf parts) with ⟨hbody, hshort⟩ | ⟨hbody, _⟩
    · rw [hbody, List.take_of_length_le hshort]
    · rw [hbody]
      exact (contains_append_cons_iff hbreak).trans (or_iff_left hmark)
  rw [hcut, ← contains_take_intercalate h]
  cases parts with
  | nil =>
      have hempty : ¬ contains informationClose emptyBody := by decide
      apply iff_of_false
      · exact not_contains_of_infix (List.take_prefix _ _).isInfix hempty
      · simp only [List.map_nil, List.intercalate_nil, List.take_nil]
        decide
  | cons part parts => rfl

/-! ## The round trip -/

/-- A framed body is read back, stripped, exactly when it has no closing tag. -/
theorem extractInformationBlocks_framed (body : Text) :
    extractInformationBlocks (lit "<information>\n" ++ body ++ lit "\n</information>") =
      [strip body] ↔ ¬ contains informationClose body := by
  have hbreak : ch '\n' ∉ informationClose := by decide
  have hempty : ¬ contains informationClose [] := by decide
  have hpadded : lit "\n" ++ body ++ lit "\n" = [] ++ ch '\n' :: (body ++ ch '\n' :: []) := by
    simp [lit]
  have hinner : contains informationClose (lit "\n" ++ body ++ lit "\n") ↔
      contains informationClose body := by
    rw [hpadded, contains_append_cons_iff hbreak, contains_append_cons_iff hbreak,
      or_iff_right hempty, or_iff_left hempty]
  have hspace : ∀ c ∈ lit "\n", isSpace c := by
    intro c hc
    cases List.mem_singleton.mp hc
    decide
  have hstrip : strip (lit "\n" ++ body ++ lit "\n") = strip body :=
    trim_append isSpace hspace hspace body
  have hframe : lit "<information>\n" ++ body ++ lit "\n</information>" =
      informationOpen ++ (lit "\n" ++ body ++ lit "\n") ++ informationClose := by
    simp [lit, informationOpen, informationClose]
  rw [hframe, ← hinner, ← hstrip]
  constructor
  · intro h hclose
    rcases blocks_framed isTag_informationOpen isTag_informationClose informationClose_ne_open
      (lit "\n" ++ body ++ lit "\n") with ⟨block, rest, hcut, hblocks, _⟩
    rw [extractInformationBlocks, strippedBlocks, hblocks, List.map_cons] at h
    have hsame : strip block = strip (lit "\n" ++ body ++ lit "\n") := (List.cons.inj h).1
    have hhas := isTag_informationClose.contains_strip_iff.mpr hclose
    rw [← hsame, isTag_informationClose.contains_strip_iff] at hhas
    exact not_contains_of_cut isTag_informationClose.ne_nil hcut hhas
  · intro hclose
    rw [extractInformationBlocks, strippedBlocks,
      blocks_delimited isTag_informationOpen isTag_informationClose hclose]
    rfl

/-- A call that gets documents and returns frames their formatted body, and the body is read back
exactly when no closing tag stands in a title or a text as far as they are shown. -/
theorem extractInformationBlocks_of_execute {parameters : Json F} {service : Service}
    {items : List (Json F)} {response : ToolResponse} {m : SearchMetrics}
    (hitems : Retrieves py cfg parameters service items)
    (h : execute py cfg parameters service = .ok (response, m)) :
    ∃ parts, formatDocs py cfg 0 items = .ok parts ∧
      response.text = lit "<information>\n" ++ (truncateBody cfg (bodyOf parts)).1 ++
        lit "\n</information>" ∧
      (extractInformationBlocks response.text = [strip (truncateBody cfg (bodyOf parts)).1] ↔
        ¬ DocsClose py cfg (maxBodyChars cfg) 0 items) := by
  rcases execute_of_retrieves hitems h with ⟨parts, latencyMs, hparts, heq⟩
  have htext : response.text = lit "<information>\n" ++ (truncateBody cfg (bodyOf parts)).1 ++
      lit "\n</information>" := congrArg (fun result => result.1.text) heq
  refine ⟨parts, hparts, htext, ?_⟩
  rw [htext, extractInformationBlocks_framed, contains_truncateBody hparts]

theorem wf_passage : ∀ doc ∈ [passage], doc.Wf := by
  simp [passage, Json.Wf, WfMembers, Dict.keys]
  decide

theorem extractInformationBlocks_of_execute_passage :
    ∃ response m, execute asciiPython {} queryParameters (pageService [passage]) =
        .ok (response, m) ∧
      extractInformationBlocks response.text =
        [lit "Doc 1(Title: France):\nParis is its capital."] := by
  have hcall : execute asciiPython {} queryParameters (pageService [passage]) =
      .ok (makeResponse {} [(lit "Doc 1(Title: France):\nParis is its capital.", false)] 12) :=
    execute_pageService wf_passage rfl
  have hitems : Retrieves asciiPython {} queryParameters (pageService [passage]) [passage] :=
    ⟨lit "q", 3, _, 12, .arr [passage], rfl, by decide, rfl, rfl,
      readDocs_resultPage asciiPython wf_passage, rfl⟩
  rcases extractInformationBlocks_of_execute hitems hcall with ⟨parts, hparts, _, hread⟩
  cases hparts
  refine ⟨_, _, hcall, hread.mpr ?_⟩
  intro hclose
  rcases hclose with ⟨title, text, hdoc, hclose | hrest⟩
  · cases hdoc
    revert hclose
    unfold DocCloses
    decide
  · exact hrest

/-- A document whose text quotes a closing tag. -/
def quotingPassage : Json LiteralFloat :=
  .obj [(lit "text", .str (lit "A block ends in </information> here."))]

/-- What is read back ends at the quoted tag. -/
theorem extractInformationBlocks_quotingPassage :
    ∃ response m, execute asciiPython {} queryParameters (pageService [quotingPassage]) =
        .ok (response, m) ∧
      response.text = lit "<information>\nDoc 1:\nA block ends in </information> here." ++
        lit "\n</information>" ∧
      extractInformationBlocks response.text = [lit "Doc 1:\nA block ends in"] ∧
      extractInformationBlocks response.text ≠
        [lit "Doc 1:\nA block ends in </information> here."] := by
  have hwf : ∀ doc ∈ [quotingPassage], doc.Wf := by
    simp [quotingPassage, Json.Wf, WfMembers, Dict.keys]
  have hcall : execute asciiPython {} queryParameters (pageService [quotingPassage]) =
      .ok (makeResponse {} [(lit "Doc 1:\nA block ends in </information> here.", false)] 12) :=
    execute_pageService hwf rfl
  exact ⟨_, _, hcall, by decide, by decide, by decide⟩

end SearchR1.SearchTool
