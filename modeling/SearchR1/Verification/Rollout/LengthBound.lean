import SearchR1.Verification.Retrieval.Padding
import SearchR1.Verification.Rollout.ResponseText
import SearchR1.Verification.Rollout.TruncationAccounting

/-! # The length of a search response -/

namespace SearchR1.ToolAgentLoop

open PyText PyJson SearchTool RetrievalService

variable {F : Type} {py : Python F} {cfg : SearchTool.Config}

/-! ## Bounds of the response -/

theorem length_truncateBody_le (body : Text) :
    (truncateBody cfg body).1.length ≤
      max (maxBodyChars cfg) (min (maxBodyChars cfg) body.length + 16) := by
  have hmarker : (lit "\n... [truncated]").length = 16 := by decide
  rcases truncateBody_cases cfg body with ⟨hbody, hshort⟩ | ⟨hbody, -⟩
  · rw [hbody]
    exact hshort.trans (le_max_left _ _)
  · rw [hbody, List.length_append, hmarker, List.length_take]
    exact le_max_right _ _

/-- The tags, the line breaks and the marker fit into what is reserved for them. -/
theorem length_makeResponse_le (hchars : 45 ≤ cfg.maxToolResponseChars)
    (parts : List (Text × Bool)) (latencyMs : ℚ) :
    (makeResponse cfg parts latencyMs).1.text.length ≤ cfg.maxToolResponseChars := by
  have hopen : (lit "<information>\n").length = 14 := by decide
  have hclose : (lit "\n</information>").length = 15 := by decide
  have hreserved : reservedChars = 61 := by decide
  have hbody : (truncateBody cfg (bodyOf parts)).1.length ≤
      max (maxBodyChars cfg) (min (maxBodyChars cfg) (bodyOf parts).length + 16) :=
    length_truncateBody_le (bodyOf parts)
  rw [text_makeResponse, List.length_append, List.length_append, hopen, hclose]
  rw [maxBodyChars, hreserved] at hbody
  omega

theorem responseTruncated_eq_one_iff {parameters : Json F} {service : Service}
    {response : ToolResponse} {m : SearchMetrics}
    (h : execute py cfg parameters service = .ok (response, m)) :
    m.responseTruncated = 1 ↔ 0 < m.responseTruncated := by
  have hle := responseTruncated_le_one h
  omega

/-! ## Two cuts of a document -/

/-- A text within a limit, with dots for what is left out. -/
def cutText (limit : ℕ) (t : Text) : Text :=
  if limit < t.length then t.take limit ++ lit "..." else t

/-- The entry of a document with a text of its own. -/
def entryWith (py : Python F) (doc : Document F) (text : Json F) : Document F :=
  [(lit "title", (Dict.get? doc (lit "title")).getD (.str [])), (lit "text", text),
    (lit "contents", (Dict.get? doc (lit "contents")).getD (.str (py.str (.obj doc))))]

/-- The text that the tool reads in an entry with the whole text of the document. -/
def originalText (py : Python F) (doc : Document F) : Json F :=
  let text := shownText py doc
  let text := if py.truthy text then text
    else (Dict.get? doc (lit "contents")).getD (.str (py.str (.obj doc)))
  if py.truthy text then text else .str (py.str (.obj (entryWith py doc (shownText py doc))))

theorem makeEntry_eq (maxDocChars : ℕ) (doc : Document F) : makeEntry py maxDocChars doc =
    (truncateText maxDocChars (shownText py doc)).map (entryWith py doc) := rfl

theorem readDoc_entryWith (doc : Document F) (text : Json F) :
    readDoc py (.obj (entryWith py doc text)) =
      .ok ((Dict.get? doc (lit "title")).getD (.str []),
        let text' := if py.truthy text then text
          else (Dict.get? doc (lit "contents")).getD (.str (py.str (.obj doc)))
        if py.truthy text' then text' else .str (py.str (.obj (entryWith py doc text)))) := rfl

/-- An entry of the service has the whole text, or a text that is as long as the limit and
three dots. -/
theorem makeEntry_cases {maxDocChars : ℕ} {doc entry : Document F}
    (h : makeEntry py maxDocChars doc = some entry) :
    entry = entryWith py doc (shownText py doc) ∨
      ∃ t, shownText py doc = .str t ∧ maxDocChars < t.length ∧
        entry = entryWith py doc (.str (t.take maxDocChars ++ lit "...")) := by
  rw [makeEntry_eq] at h
  obtain ⟨text, htext, rfl⟩ := Option.map_eq_some_iff.mp h
  cases hshown : shownText py doc with
  | str t =>
      rw [hshown, truncateText] at htext
      split at htext
      · rename_i hlong
        obtain rfl := Option.some.inj htext
        exact .inr ⟨t, rfl, hlong, rfl⟩
      · obtain rfl := Option.some.inj htext
        exact .inl rfl
  | arr vs =>
      rw [hshown, truncateText] at htext
      split at htext
      · cases htext
      · obtain rfl := Option.some.inj htext
        exact .inl rfl
  | obj ms =>
      rw [hshown, truncateText] at htext
      split at htext
      · cases htext
      · obtain rfl := Option.some.inj htext
        exact .inl rfl
  | _ =>
      rw [hshown] at htext
      cases htext

theorem truthy_str {t : Text} (h : t ≠ []) : py.truthy (.str t) = true := by
  simp [Python.truthy, h]

theorem truncateDoc_str (t : Text) : truncateDoc py cfg (.str t) =
    .ok (cutText cfg.maxDocChars t, decide (cfg.maxDocChars < t.length)) := by
  rw [truncateDoc, cutText]
  split
  · rename_i hlong
    simp [hlong]
  · rename_i hshort
    simp [hshort]

/-- A text that was cut is too long again. -/
theorem lt_length_cut {t : Text} (h : cfg.maxDocChars < t.length) :
    cfg.maxDocChars < (t.take cfg.maxDocChars ++ lit "...").length := by
  have hdots : (lit "...").length = 3 := by decide
  rw [List.length_append, List.length_take, hdots]
  omega

/-- To cut a text again changes nothing, and shows that it was cut. -/
theorem truncateDoc_cut {t : Text} (h : cfg.maxDocChars < t.length) :
    truncateDoc py cfg (.str (t.take cfg.maxDocChars ++ lit "...")) =
      truncateDoc py cfg (.str t) := by
  have hlong := lt_length_cut h
  have htake : (t.take cfg.maxDocChars).length = cfg.maxDocChars := by
    rw [List.length_take]
    omega
  have hagain : (t.take cfg.maxDocChars ++ lit "...").take cfg.maxDocChars =
      t.take cfg.maxDocChars := by
    rw [List.take_append_of_le_length htake.ge, List.take_of_length_le htake.le]
  rw [truncateDoc_str, truncateDoc_str, cutText, cutText, if_pos hlong, if_pos h, hagain,
    decide_eq_true hlong, decide_eq_true h]

/-- What the tool reads in an entry of the service: the original text, or a cut of it. -/
theorem readDoc_makeEntry {doc entry : Document F}
    (h : makeEntry py cfg.maxDocChars doc = some entry) :
    ∃ text, readDoc py (.obj entry) = .ok ((Dict.get? doc (lit "title")).getD (.str []), text) ∧
      (text = originalText py doc ∨ ∃ t, originalText py doc = .str t ∧
        cfg.maxDocChars < t.length ∧ text = .str (t.take cfg.maxDocChars ++ lit "...")) := by
  rcases makeEntry_cases h with rfl | ⟨t, hshown, hlong, rfl⟩
  · exact ⟨originalText py doc, readDoc_entryWith doc _, .inl rfl⟩
  · have hne : t ≠ [] := by
      intro hnil
      rw [hnil] at hlong
      cases hlong
    have hdots : t.take cfg.maxDocChars ++ lit "..." ≠ [] := by
      intro hnil
      exact absurd (List.append_eq_nil_iff.mp hnil).2 (by decide)
    refine ⟨.str (t.take cfg.maxDocChars ++ lit "..."), ?_, .inr ⟨t, ?_, hlong, rfl⟩⟩
    · rw [readDoc_entryWith]
      simp only [truthy_str hdots, ite_true]
    · rw [originalText, hshown]
      simp only [truthy_str hne, ite_true]

/-- What the tool makes of an entry is a single cut of the original text. -/
theorem formatDoc_makeEntry {doc entry : Document F}
    (h : makeEntry py cfg.maxDocChars doc = some entry) {t : Text}
    (htext : originalText py doc = .str t) (i : ℕ) :
    formatDoc py cfg i (.obj entry) =
      .ok (docLabel py i ((Dict.get? doc (lit "title")).getD (.str [])) ++
        cutText cfg.maxDocChars t, decide (cfg.maxDocChars < t.length)) := by
  obtain ⟨text, hread, hcut⟩ := readDoc_makeEntry h
  have htruncate : truncateDoc py cfg text =
      .ok (cutText cfg.maxDocChars t, decide (cfg.maxDocChars < t.length)) := by
    rcases hcut with rfl | ⟨t', htext', hlong, rfl⟩
    · rw [htext, truncateDoc_str]
    · rw [htext] at htext'
      cases htext'
      rw [truncateDoc_cut hlong, truncateDoc_str]
  rw [formatDoc, hread]
  change (truncateDoc py cfg text >>= _) = _
  rw [htruncate]
  rfl

/-- The entry is cut exactly when the original text is too long. -/
theorem docCut_makeEntry_iff {doc entry : Document F}
    (h : makeEntry py cfg.maxDocChars doc = some entry) : DocCut py cfg (.obj entry) ↔
      ∃ t, originalText py doc = .str t ∧ cfg.maxDocChars < t.length := by
  obtain ⟨text, hread, hcut⟩ := readDoc_makeEntry h
  rw [DocCut, hread]
  rcases hcut with rfl | ⟨t, htext, hlong, rfl⟩
  · constructor
    · intro hcut
      rcases hcut with ⟨title, t, heq, hlong⟩
      exact ⟨t, (Prod.mk.inj (Except.ok.inj heq)).2, hlong⟩
    · intro hlong
      rcases hlong with ⟨t, htext, hlong⟩
      exact ⟨_, t, by rw [htext], hlong⟩
  · exact iff_of_true ⟨_, _, rfl, lt_length_cut hlong⟩ ⟨t, htext, hlong⟩

/-! ## The response -/

/-- The items are the entries that the service makes of the documents. -/
def Served (py : Python F) (cfg : SearchTool.Config) (docs : List (Document F))
    (items : List (Json F)) : Prop :=
  List.Forall₂ (fun doc item => ∃ entry, makeEntry py cfg.maxDocChars doc = some entry ∧
    item = .obj entry) docs items

/-- The item of a document is shown as a single cut of its original text. -/
def CutOnce (py : Python F) (cfg : SearchTool.Config) (doc : Document F) (item : Json F) : Prop :=
  ∀ t i, originalText py doc = .str t → formatDoc py cfg i item =
    .ok (docLabel py i ((Dict.get? doc (lit "title")).getD (.str [])) ++
      cutText cfg.maxDocChars t, decide (cfg.maxDocChars < t.length))

theorem docCut_served_iff {docs : List (Document F)} {items : List (Json F)}
    (h : Served py cfg docs items) : (∃ item ∈ items, DocCut py cfg item) ↔
      ∃ doc ∈ docs, ∃ t, originalText py doc = .str t ∧ cfg.maxDocChars < t.length := by
  induction h with
  | nil => simp
  | @cons doc item docs items hentry _ ih =>
      obtain ⟨entry, hmake, rfl⟩ := hentry
      rw [List.exists_mem_cons_iff, List.exists_mem_cons_iff, docCut_makeEntry_iff hmake, ih]

/-- The response to a completed retrieval fits, keeps its tags and reports its cuts. Cuts of the
service show in it as single cuts of the original texts. -/
theorem execute_bounded (hchars : 45 ≤ cfg.maxToolResponseChars) {parameters : Json F}
    {service : Service} {items : List (Json F)} {response : ToolResponse} {m : SearchMetrics}
    (hitems : Retrieves py cfg parameters service items)
    (h : execute py cfg parameters service = .ok (response, m)) :
    response.text.length ≤ cfg.maxToolResponseChars ∧
      (∃ body, response.text =
        informationOpen ++ lit "\n" ++ body ++ lit "\n" ++ informationClose) ∧
      (m.responseTruncated = 1 ↔ (∃ doc ∈ items, DocCut py cfg doc) ∨ BodyCut py cfg items) ∧
      ∀ docs : List (Document F), Served py cfg docs items →
        List.Forall₂ (CutOnce py cfg) docs items ∧
          (m.responseTruncated = 1 ↔
            (∃ doc ∈ docs, ∃ t, originalText py doc = .str t ∧ cfg.maxDocChars < t.length) ∨
              BodyCut py cfg items) := by
  obtain ⟨parts, latencyMs, hparts, heq⟩ := execute_of_retrieves hitems h
  have hresponse : response = (makeResponse cfg parts latencyMs).1 := congrArg Prod.fst heq
  have hflag : m.responseTruncated = 1 ↔
      (∃ doc ∈ items, DocCut py cfg doc) ∨ BodyCut py cfg items := by
    rw [responseTruncated_eq_one_iff h, responseTruncated_pos_iff h]
    constructor
    · intro hcut
      rcases hcut with ⟨items', hitems', hcut⟩
      rwa [hitems.unique hitems']
    · exact fun hcut => ⟨items, hitems, hcut⟩
  refine ⟨?_, ⟨(truncateBody cfg (bodyOf parts)).1, ?_⟩, hflag, ?_⟩
  · rw [hresponse]
    exact length_makeResponse_le hchars parts latencyMs
  · have hopen : lit "<information>\n" = informationOpen ++ lit "\n" := by decide
    have hclose : lit "\n</information>" = lit "\n" ++ informationClose := by decide
    rw [hresponse, text_makeResponse, hopen, hclose]
    simp only [List.append_assoc]
  · intro docs hserved
    refine ⟨?_, by rw [hflag, docCut_served_iff hserved]⟩
    refine hserved.imp ?_
    rintro doc item ⟨entry, hmake, rfl⟩ t i htext
    exact formatDoc_makeEntry hmake htext i

/-- A document whose text the service cuts. -/
def parisDoc : Document LiteralFloat := [(lit "text", .str (lit "Paris"))]

def parisItem : Json LiteralFloat := .obj (entryWith asciiPython parisDoc (.str (lit "Par...")))

def parisConfig : SearchTool.Config := { maxDocChars := 3 }

def parisService : Service := fun _ _ => (.text (dumps literalCodec (resultPage [parisItem])), 12)

def parisParameters : Json LiteralFloat := .obj [(lit "query", .str (lit "q"))]

theorem served_parisDoc : Served asciiPython parisConfig [parisDoc] [parisItem] :=
  .cons ⟨_, rfl, rfl⟩ .nil

theorem retrieves_parisItem :
    Retrieves asciiPython parisConfig parisParameters parisService [parisItem] := by
  have hwf : ∀ item ∈ [parisItem], item.Wf := by
    intro item hitem
    obtain rfl := List.mem_singleton.mp hitem
    have htitle : lit "title" ≠ lit "text" := by decide
    have hcontents : lit "title" ≠ lit "contents" ∧ lit "text" ≠ lit "contents" := by decide
    simp [parisItem, entryWith, parisDoc, Dict.get?, Json.Wf, WfMembers, Dict.keys, htitle,
      htitle.symm, hcontents]
  exact ⟨lit "q", 3, _, 12, _, rfl, by decide, rfl, rfl,
    readDocs_resultPage asciiPython hwf, rfl⟩

theorem execute_bounded_paris : ∃ response m,
    execute asciiPython parisConfig parisParameters parisService = .ok (response, m) ∧
      response.text.length ≤ parisConfig.maxToolResponseChars ∧
      (∃ body, response.text =
        informationOpen ++ lit "\n" ++ body ++ lit "\n" ++ informationClose) ∧
      List.Forall₂ (CutOnce asciiPython parisConfig) [parisDoc] [parisItem] ∧
      (m.responseTruncated = 1 ↔
        (∃ doc ∈ [parisDoc], ∃ t, originalText asciiPython doc = .str t ∧ 3 < t.length) ∨
          BodyCut asciiPython parisConfig [parisItem]) := by
  have hsome : (execute asciiPython parisConfig parisParameters parisService).toOption.isSome := by
    decide +kernel
  obtain ⟨⟨response, m⟩, h⟩ := Option.isSome_iff_exists.mp hsome
  have hok : execute asciiPython parisConfig parisParameters parisService =
      .ok (response, m) := by
    cases hrun : execute asciiPython parisConfig parisParameters parisService with
    | error e =>
        rw [hrun] at h
        cases h
    | ok result =>
        rw [hrun] at h
        exact congrArg Except.ok (Option.some.inj h)
  obtain ⟨hlen, hbody, -, hserved⟩ := execute_bounded (by decide) retrieves_parisItem hok
  exact ⟨response, m, hok, hlen, hbody, hserved [parisDoc] served_parisDoc⟩

end SearchR1.ToolAgentLoop
