import SearchR1.Library.JsonRoundTrip
import SearchR1.Library.Monadic
import SearchR1.Library.Tags
import SearchR1.Model.AsciiRuntime
import SearchR1.Verification.Teacher.Turns

/-! # Failed retrievals in teacher trajectories -/

namespace SearchR1.GenerateTeacherTrajectories

open PyText PyJson PyLoop BuildSftData

variable {F : Type} (py : Python F) (raisedText : Raised F → Text)

/-! ## What a retrieval may end in -/

/-- The retrieval raises. -/
def Raises (query : Text) (service : Service F) (topk : ℤ) : Prop :=
  ∃ e, callRetrieval py raisedText query service topk = .error e

/-- The documents of a response, before they are formatted. -/
def readDocs (response : Json F) : Except (Raised F) (List (Json F)) := do
  let results ← getItem response (lit "result")
  let docs ← firstResult py results
  iterate docs

/-- The retrieval returns these documents, and all of them can be shown. -/
def Returns (query : Text) (service : Service F) (topk : ℤ) (docs : List (Json F)) : Prop :=
  ∃ response parts, service query topk = .ok response ∧ readDocs py response = .ok docs ∧
    formatDocs 0 docs = .ok parts

/-- The retrieval raises or returns no document. -/
def Fails (query : Text) (service : Service F) (topk : ℤ) : Prop :=
  Raises py raisedText query service topk ∨ Returns py query service topk []

/-- The contents of a document have one of the markers of a failed search. -/
def QuotesMarker (doc : Json F) : Prop :=
  ∃ document content, getItem doc (lit "document") = .ok document ∧
    getItem document (lit "contents") = .ok (.str content) ∧
    ∃ marker ∈ searchFailureMarkers, contains marker content

def toolMessage (content : Text) : Message := { role := .tool, content := content }

theorem hasFailedToolResponse_toolMessage (content : Text) :
    hasFailedToolResponse [toolMessage content] = isFailedToolResponse content := by
  simp [hasFailedToolResponse, toolMessage]

/-! ## Markers in formatted documents -/

/-- No marker has the brackets and the line breaks of the formatting. -/
theorem not_mem_marker {marker : Text} (h : marker ∈ searchFailureMarkers) :
    marker ≠ [] ∧ ch '<' ∉ marker ∧ ch '>' ∉ marker ∧ ch '(' ∉ marker ∧ ch ')' ∉ marker ∧
      ch '\n' ∉ marker := by
  revert marker
  decide

theorem startsNowhere_marker {marker : Text} (h : marker ∈ searchFailureMarkers) :
    startsNowhere marker (lit "Doc ") ∧ startsNowhere marker (lit "Title: ") ∧
      startsNowhere marker (lit " ") ∧ startsNowhere marker (lit "\n") := by
  revert marker
  decide

theorem not_contains_natText {marker : Text} (h : marker ∈ searchFailureMarkers) (n : ℕ) :
    ¬ contains marker (natText n) := by
  have hletter : ∀ marker ∈ searchFailureMarkers, ch 'e' ∈ marker := by decide
  intro hcontains
  have hdigit := isDigit_of_mem_natText ((contains_iff.mp hcontains).subset (hletter marker h))
  revert hdigit
  decide

/-- A marker does not reach over a line break. -/
theorem contains_splitTitle {marker : Text} (h : marker ∈ searchFailureMarkers) (content : Text) :
    contains marker (splitTitle content).1 ∨ contains marker (splitTitle content).2 ↔
      contains marker content := by
  rcases not_mem_marker h with ⟨hne, -, -, -, -, hbreak⟩
  have hsplit := List.takeWhile_append_dropWhile (p := (· ≠ ch '\n')) (l := content)
  unfold splitTitle
  cases hrest : content.dropWhile (· ≠ ch '\n') with
  | nil =>
      have hnil : ¬ contains marker [] := by simp [contains_iff, hne]
      rw [hrest, List.append_nil] at hsplit
      rw [List.drop_nil, or_iff_left hnil, hsplit]
  | cons c text =>
      have hc : c = ch '\n' := by
        have hhead := List.head?_dropWhile_not (fun c => decide (c ≠ ch '\n')) content
        rw [hrest] at hhead
        simpa using hhead
      subst hc
      rw [hrest] at hsplit
      rw [List.drop_succ_cons, List.drop_zero, ← contains_append_cons_iff hbreak, hsplit]

theorem exists_of_formatDoc {idx : ℕ} {doc : Json F} {part : Text}
    (h : formatDoc idx doc = .ok part) : ∃ document content,
      getItem doc (lit "document") = .ok document ∧
      getItem document (lit "contents") = .ok (.str content) ∧
      part = lit "Doc " ++ natText (idx + 1) ++ lit "(Title: " ++ (splitTitle content).1 ++
        lit ") " ++ (splitTitle content).2 := by
  rw [formatDoc, bind_eq_ok_iff] at h
  rcases h with ⟨document, hdocument, h⟩
  rw [bind_eq_ok_iff] at h
  rcases h with ⟨value, hvalue, h⟩
  cases value with
  | str content => exact ⟨document, content, hdocument, hvalue, (Except.ok.inj h).symm⟩
  | _ => cases h

/-- A formatted document has the markers of its contents. -/
theorem contains_formatDoc {marker : Text} (h : marker ∈ searchFailureMarkers) (idx : ℕ)
    (content : Text) : contains marker (lit "Doc " ++ natText (idx + 1) ++ lit "(Title: " ++
      (splitTitle content).1 ++ lit ") " ++ (splitTitle content).2) ↔ contains marker content := by
  rcases not_mem_marker h with ⟨-, -, -, hopen, hclose, -⟩
  rcases startsNowhere_marker h with ⟨hdoc, htitle, hspace, -⟩
  have hlayout : lit "Doc " ++ natText (idx + 1) ++ lit "(Title: " ++ (splitTitle content).1 ++
      lit ") " ++ (splitTitle content).2 = (lit "Doc " ++ natText (idx + 1)) ++ ch '(' ::
        ((lit "Title: " ++ (splitTitle content).1) ++ ch ')' ::
          (lit " " ++ (splitTitle content).2)) := by
    simp [lit]
  rw [hlayout, contains_append_cons_iff hopen, contains_append_of_startsNowhere hdoc,
    or_iff_right (not_contains_natText h _), contains_append_cons_iff hclose,
    contains_append_of_startsNowhere htitle, contains_append_of_startsNowhere hspace,
    contains_splitTitle h]

theorem exists_marker_formatDoc {idx : ℕ} {doc : Json F} {part : Text}
    (h : formatDoc idx doc = .ok part) :
    (∃ marker ∈ searchFailureMarkers, contains marker part) ↔ QuotesMarker doc := by
  rcases exists_of_formatDoc h with ⟨document, content, hdocument, hcontent, rfl⟩
  constructor
  · intro h
    rcases h with ⟨marker, hmarker, hcontains⟩
    exact ⟨document, content, hdocument, hcontent, marker, hmarker,
      (contains_formatDoc hmarker idx content).mp hcontains⟩
  · intro h
    rcases h with ⟨document', content', hdocument', hcontent', marker, hmarker, hquote⟩
    rw [hdocument] at hdocument'
    cases hdocument'
    rw [hcontent] at hcontent'
    cases hcontent'
    exact ⟨marker, hmarker, (contains_formatDoc hmarker idx content).mpr hquote⟩

/-- Some formatted document has a marker exactly when the contents of some document do. -/
theorem exists_marker_formatDocs {docs : List (Json F)} {idx : ℕ} {parts : List Text}
    (h : formatDocs idx docs = .ok parts) :
    (∃ marker ∈ searchFailureMarkers, ∃ part ∈ parts, contains marker part) ↔
      ∃ doc ∈ docs, QuotesMarker doc := by
  induction docs generalizing idx parts with
  | nil =>
      cases h
      simp
  | cons doc docs ih =>
      rw [formatDocs, bind_cons_eq_ok_iff] at h
      rcases h with ⟨part, rest, hpart, hrest, rfl⟩
      rw [List.exists_mem_cons_iff, ← exists_marker_formatDoc hpart, ← ih hrest]
      simp only [List.exists_mem_cons_iff, and_or_left, exists_or]

/-! ## The content of a tool message -/

theorem contains_framed {marker : Text} (h : marker ∈ searchFailureMarkers) (body : Text) :
    contains marker (informationOpen ++ body ++ informationClose) ↔ contains marker body := by
  rcases not_mem_marker h with ⟨-, hlt, hgt, -⟩
  have hfront : ∀ marker ∈ searchFailureMarkers, ¬ contains marker (lit "<information") := by
    decide
  have hback : ∀ marker ∈ searchFailureMarkers, ¬ contains marker (lit "/information>") := by
    decide
  have hframe : informationOpen ++ body ++ informationClose =
      lit "<information" ++ ch '>' :: (body ++ ch '<' :: lit "/information>") := by
    simp [informationOpen, informationClose, lit]
  rw [hframe, contains_append_cons_iff hgt, contains_append_cons_iff hlt,
    or_iff_right (hfront marker h), or_iff_left (hback marker h)]

/-- A body that starts with a letter gives a block that is not blank, whatever tags stand in
it. -/
theorem exists_block_of_head {body : Text} (h : body.head? = some (ch 'D')) :
    ∃ block, (blocks informationOpen informationClose
      (informationOpen ++ body ++ informationClose)).head? = some block ∧ strip block ≠ [] := by
  have hcontains : contains informationClose (body ++ informationClose) :=
    contains_iff.mpr (List.suffix_append body informationClose).isInfix
  rcases Option.isSome_iff_exists.mp hcontains with ⟨⟨block, rest⟩, hcut⟩
  have hopen : cut informationOpen (informationOpen ++ (body ++ informationClose)) =
      some ([], body ++ informationClose) := cut_self_append (by decide) _
  have hhead : (block ++ (informationClose ++ rest)).head? = some (ch 'D') := by
    have happend := cut_append hcut
    rw [List.append_assoc] at happend
    rw [← happend, List.head?_append, h]
    rfl
  refine ⟨block, ?_, ?_⟩
  · rw [List.append_assoc, blocks_of_close_some (by decide) hopen hcut, List.head?_cons]
  · -- the block ends at the first closing tag, and none stands at the head of the body
    cases block with
    | nil =>
        have hlt : (informationClose ++ rest).head? = some (ch '<') := rfl
        rw [List.nil_append, hlt] at hhead
        revert hhead
        decide
    | cons c block =>
        obtain rfl : c = ch 'D' := Option.some.inj hhead
        intro hblank
        have hspace := (trim_eq_nil_iff isSpace _).mp hblank (ch 'D') List.mem_cons_self
        revert hspace
        decide

theorem head?_formatDocs {docs : List (Json F)} {parts : List Text} {idx : ℕ}
    (h : formatDocs idx docs = .ok parts) (hne : parts ≠ []) :
    ((lit "\n\n").intercalate parts).head? = some (ch 'D') := by
  cases docs with
  | nil =>
      cases h
      exact absurd rfl hne
  | cons doc docs =>
      rw [formatDocs, bind_cons_eq_ok_iff] at h
      rcases h with ⟨part, rest, hpart, hrest, rfl⟩
      rcases exists_of_formatDoc hpart with ⟨document, content, -, -, rfl⟩
      cases rest with
      | nil =>
          rw [List.intercalate_singleton]
          rfl
      | cons next rest =>
          rw [List.intercalate_cons_cons]
          rfl

/-- A text with a block that is not blank is taken for a failure when it has a marker. -/
theorem isFailedToolResponse_of_block {content block : Text}
    (h : (blocks informationOpen informationClose content).head? = some block)
    (hblank : strip block ≠ []) :
    isFailedToolResponse content ↔ ∃ marker ∈ searchFailureMarkers, contains marker content := by
  have htags := contains_of_mem_blocks (by decide) (List.mem_of_mem_head? h)
  simp [isFailedToolResponse, htags, h, hblank]

/-- Framed documents are taken for a failure exactly when they have a marker. -/
theorem isFailedToolResponse_framed {docs : List (Json F)} {parts : List Text}
    (h : formatDocs 0 docs = .ok parts) (hne : parts ≠ []) :
    isFailedToolResponse (informationOpen ++ (lit "\n\n").intercalate parts ++ informationClose) ↔
      ∃ doc ∈ docs, QuotesMarker doc := by
  rcases exists_block_of_head (head?_formatDocs h hne) with ⟨block, hblock, hblank⟩
  rw [isFailedToolResponse_of_block hblock hblank, ← exists_marker_formatDocs h]
  apply exists_congr
  intro marker
  apply and_congr_right
  intro hmarker
  rcases not_mem_marker hmarker with ⟨hmarker_ne, -, -, -, -, hbreak⟩
  rw [contains_framed hmarker]
  exact contains_intercalate_iff hmarker_ne hbreak (startsNowhere_marker hmarker).2.2.2 parts

/-! ## Detection -/

theorem Returns.eq {query : Text} {service : Service F} {topk : ℤ} {docs docs' : List (Json F)}
    (h : Returns py query service topk docs) (h' : Returns py query service topk docs') :
    docs = docs' := by
  rcases h with ⟨response, parts, hresponse, hdocs, -⟩
  rcases h' with ⟨response', parts', hresponse', hdocs', -⟩
  rw [hresponse] at hresponse'
  cases hresponse'
  rw [hdocs] at hdocs'
  exact Except.ok.inj hdocs'

theorem readParts_eq (response : Json F) :
    readParts py response = readDocs py response >>= formatDocs 0 := by
  simp [readParts, readDocs]

theorem formatDocs_eq_nil_iff {docs : List (Json F)} {idx : ℕ} {parts : List Text}
    (h : formatDocs idx docs = .ok parts) : parts = [] ↔ docs = [] := by
  cases docs with
  | nil =>
      cases h
      simp
  | cons doc docs =>
      rw [formatDocs, bind_cons_eq_ok_iff] at h
      rcases h with ⟨part, rest, -, -, rfl⟩
      simp

/-- The three contents of a tool message. -/
theorem toolContent_cases (query : Text) (service : Service F) (topk : ℤ) :
    (Raises py raisedText query service topk ∧ ∃ e,
      toolContent py raisedText query service topk =
        lit "<information>Search failed: " ++ e ++ lit "</information>") ∨
    ¬ Raises py raisedText query service topk ∧ ∃ docs parts,
      Returns py query service topk docs ∧ formatDocs 0 docs = .ok parts ∧
      toolContent py raisedText query service topk =
        if docs = [] then lit "<information>No results found.</information>"
        else informationOpen ++ (lit "\n\n").intercalate parts ++ informationClose := by
  cases hcall : callRetrieval py raisedText query service topk with
  | error e => exact .inl ⟨⟨e, hcall⟩, e, by rw [toolContent, hcall]⟩
  | ok text =>
      right
      have hraises : ¬ Raises py raisedText query service topk := by
        intro h
        rcases h with ⟨e, h⟩
        rw [hcall] at h
        cases h
      refine ⟨hraises, ?_⟩
      rw [toolContent, hcall]
      rw [callRetrieval, bind_eq_ok_iff] at hcall
      rcases hcall with ⟨response, hresponse, hcall⟩
      cases hparts : readParts py response with
      | error e =>
          rw [hparts] at hcall
          cases hcall
      | ok parts =>
          rw [hparts] at hcall
          rw [readParts_eq, bind_eq_ok_iff] at hparts
          rcases hparts with ⟨docs, hdocs, hparts⟩
          refine ⟨docs, parts, ⟨response, parts, hresponse, hdocs, hparts⟩, hparts, ?_⟩
          have hnil : parts.isEmpty ↔ docs = [] := by
            rw [List.isEmpty_iff, formatDocs_eq_nil_iff hparts]
          simp only [hnil] at hcall
          split at hcall
          · rename_i hempty
            rw [if_pos hempty]
            exact (Except.ok.inj hcall).symm
          · rename_i hempty
            rw [if_neg hempty]
            exact (Except.ok.inj hcall).symm

theorem Returns.exists_iff {query : Text} {service : Service F} {topk : ℤ} {docs : List (Json F)}
    (h : Returns py query service topk docs) (P : List (Json F) → Prop) :
    (∃ docs', Returns py query service topk docs' ∧ P docs') ↔ P docs := by
  constructor
  · intro h'
    rcases h' with ⟨docs', hreturns, hP⟩
    rwa [h.eq py hreturns]
  · exact fun hP => ⟨docs, h, hP⟩

/-- A tool message is taken for a failure when its retrieval raises or a document quotes a
marker. -/
theorem isFailedToolResponse_toolContent (query : Text) (service : Service F) (topk : ℤ) :
    isFailedToolResponse (toolContent py raisedText query service topk) ↔
      Raises py raisedText query service topk ∨
        ∃ docs, Returns py query service topk docs ∧ ∃ doc ∈ docs, QuotesMarker doc := by
  rcases toolContent_cases py raisedText query service topk with
    ⟨hraises, e, hcontent⟩ | ⟨hraises, docs, parts, hreturns, hparts, hcontent⟩
  · have hmarker : contains (lit "Search failed:")
        (toolContent py raisedText query service topk) := by
      rw [hcontent, contains_iff]
      exact ⟨lit "<information>", lit " " ++ e ++ lit "</information>", by simp [lit]⟩
    apply iff_of_true
    · simp [isFailedToolResponse, searchFailureMarkers, hmarker]
    · exact .inl hraises
  · rw [or_iff_right hraises, hreturns.exists_iff, hcontent]
    split
    · rename_i hempty
      subst hempty
      have hpasses : isFailedToolResponse (lit "<information>No results found.</information>") =
          false := by
        decide
      simp [hpasses]
    · rename_i hempty
      exact isFailedToolResponse_framed hparts
        fun h => hempty ((formatDocs_eq_nil_iff hparts).mp h)

/-- A failed retrieval is told from a successful one exactly when it raises, or returns documents
of which none quotes a marker. -/
theorem hasFailedToolResponse_toolContent_iff (query : Text) (service : Service F) (topk : ℤ) :
    (hasFailedToolResponse [toolMessage (toolContent py raisedText query service topk)] ↔
        Fails py raisedText query service topk) ↔
      Raises py raisedText query service topk ∨
        ∃ docs, Returns py query service topk docs ∧ docs ≠ [] ∧ ∀ doc ∈ docs, ¬ QuotesMarker doc := by
  rw [hasFailedToolResponse_toolMessage, isFailedToolResponse_toolContent]
  rcases toolContent_cases py raisedText query service topk with
    ⟨hraises, -⟩ | ⟨hraises, docs, -, hreturns, -⟩
  · exact iff_of_true (iff_of_true (.inl hraises) (.inl hraises)) (.inl hraises)
  · have hempty : Returns py query service topk [] ↔ docs = [] := by
      constructor
      · exact hreturns.eq py
      · intro h
        exact h ▸ hreturns
    rw [or_iff_right hraises, or_iff_right hraises, Fails, or_iff_right hraises, hempty,
      hreturns.exists_iff, hreturns.exists_iff]
    by_cases hnil : docs = []
    · simp [hnil]
    · simp [hnil]

/-- A service that has one page of documents for every query. -/
def pageOf (docs : List (Json F)) : Service F :=
  fun _ _ => .ok (.obj [(lit "result", .arr [.arr docs])])

/-- A passage about an error. -/
def errorPassage : Json F :=
  .obj [(lit "document", .obj [(lit "contents", .str (lit "Gateway\nThe request timed out."))])]

/-- An empty page is not taken for a failure, and a passage that quotes a marker is. -/
theorem hasFailedToolResponse_pageOf :
    (Fails asciiPython (fun _ => []) (lit "q") (pageOf []) 3 ∧
      hasFailedToolResponse
        [toolMessage (toolContent asciiPython (fun _ => []) (lit "q") (pageOf []) 3)] = false) ∧
    ¬ Fails asciiPython (fun _ => []) (lit "q") (pageOf [errorPassage]) 3 ∧
      hasFailedToolResponse [toolMessage
        (toolContent asciiPython (fun _ => []) (lit "q") (pageOf [errorPassage]) 3)] = true := by
  refine ⟨⟨.inr ⟨_, [], rfl, rfl, rfl⟩, by decide⟩, ?_, by decide⟩
  intro h
  rcases h with ⟨e, he⟩ | hempty
  · cases he
  · rcases hempty with ⟨response, parts, hresponse, hdocs, -⟩
    cases hresponse
    cases hdocs

/-! ## Whole trajectories -/

/-- The tool messages of the turns are those of retrievals, each at its turn. -/
theorem exists_retrievals {generate : ℕ → List Message → Text} {services : ℕ → Service F}
    {topk : ℤ} {left turn : ℕ} {messages result : List Message}
    (h : runTurns py raisedText generate services topk left turn messages = .ok result) :
    ∃ retrievals : List (Text × ℕ), result.filter (fun m => m.role = .tool) =
      messages.filter (fun m => m.role = .tool) ++ retrievals.map fun r =>
        toolMessage (toolContent py raisedText r.1 (services r.2) topk) := by
  induction left generalizing turn messages with
  | zero =>
      cases h
      exact ⟨[], by simp⟩
  | succ left ih =>
      have hexchange : ∀ e : Exchange py,
          e.messages.filter (fun m => m.role = .tool) = [toolMessage e.result] := fun _ => rfl
      have hassistant : ∀ response,
          [assistantMessage response].filter (fun m => m.role = .tool) = [] := fun _ => rfl
      rcases runTurns_succ_cases py h with rfl | rfl | ⟨exchange, -, hresult, hstop | hgo⟩
      · exact ⟨[], by simp⟩
      · exact ⟨[], by simp [List.filter_append, hassistant]⟩
      · exact ⟨[(exchange.query, turn)], by simp [hstop, List.filter_append, hexchange, hresult]⟩
      · rcases ih hgo with ⟨retrievals, hretrievals⟩
        refine ⟨(exchange.query, turn) :: retrievals, ?_⟩
        rw [hretrievals, List.filter_append, hexchange, hresult, List.map_cons, List.append_assoc,
          List.singleton_append]

theorem filter_promptMessages (question systemPrompt : Text) :
    (promptMessages question systemPrompt).filter (fun m => m.role = .tool) = [] := by
  unfold promptMessages systemMessages
  split <;> rfl

/-- A generated trajectory is taken for a failed one when a retrieval in it raised or returned a
document that quotes a marker. -/
theorem hasFailedToolResponse_runTurns {generate : ℕ → List Message → Text}
    {services : ℕ → Service F} {topk : ℤ} {left : ℕ} {question systemPrompt : Text}
    {result : List Message}
    (h : runTurns py raisedText generate services topk left 0
      (promptMessages question systemPrompt) = .ok result) :
    ∃ retrievals : List (Text × ℕ),
      (result.filter fun m => m.role = .tool) = (retrievals.map fun r =>
        toolMessage (toolContent py raisedText r.1 (services r.2) topk)) ∧
      (hasFailedToolResponse result ↔ ∃ r ∈ retrievals,
        Raises py raisedText r.1 (services r.2) topk ∨
          ∃ docs, Returns py r.1 (services r.2) topk docs ∧ ∃ doc ∈ docs, QuotesMarker doc) := by
  rcases exists_retrievals py raisedText h with ⟨retrievals, hretrievals⟩
  rw [filter_promptMessages, List.nil_append] at hretrievals
  refine ⟨retrievals, hretrievals, ?_⟩
  have hfilter : hasFailedToolResponse result =
      (result.filter fun m => m.role = .tool).any fun m => isFailedToolResponse m.content := by
    rw [hasFailedToolResponse, List.any_filter]
  rw [hfilter, hretrievals, List.any_map, List.any_eq_true]
  simp only [Function.comp_apply, toolMessage, isFailedToolResponse_toolContent]

end SearchR1.GenerateTeacherTrajectories
