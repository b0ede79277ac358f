import SearchR1.Verification.Retrieval.CacheTransparency

/-! # Search results that are shorter than asked for -/

namespace SearchR1.RetrievalService

open PyText PyJson

/-! ## The text of a document -/

section Document

variable {F : Type} (py : Python F)

/-- The value that a search shows as the text of a document. -/
def shownText (doc : Document F) : Json F :=
  let text := (Dict.get? doc (lit "text")).getD (.str [])
  if py.truthy text then text else (Dict.get? doc (lit "contents")).getD (.str [])

/-- A value that has no length, or that is too long and not a text. -/
def Uncuttable (maxDocChars : ℕ) : Json F → Prop
  | .str _ => False
  | .arr vs => maxDocChars < vs.length
  | .obj ms => maxDocChars < ms.length
  | _ => True

theorem truncateText_none_iff (maxDocChars : ℕ) (v : Json F) :
    truncateText maxDocChars v = none ↔ Uncuttable maxDocChars v := by
  cases v with
  | str t =>
      rw [truncateText]
      split <;> simp [Uncuttable]
  | arr vs => simp [truncateText, Uncuttable]
  | obj ms => simp [truncateText, Uncuttable]
  | null => simp [truncateText, Uncuttable]
  | bool b => simp [truncateText, Uncuttable]
  | int i => simp [truncateText, Uncuttable]
  | float x => simp [truncateText, Uncuttable]

theorem formatEntry_none_iff (returnScore : Bool) (maxDocChars : ℕ) (found : Document F × F) :
    formatEntry py returnScore maxDocChars found = none ↔
      Uncuttable maxDocChars (shownText py found.1) := by
  rw [← truncateText_none_iff, formatEntry, Option.map_eq_none_iff, makeEntry,
    Option.map_eq_none_iff]
  rfl

end Document

/-! ## Padded rows -/

/-- A row of an index over the corpus: a number for each score, `-1` where a neighbour is
missing. -/
structure IndexRow {F : Type} (corpus : List (Document F)) (row : List F × List ℤ) : Prop where
  length_eq : row.2.length = row.1.length
  valid_or_padded : ∀ idx ∈ row.2, idx = -1 ∨ 0 ≤ idx ∧ idx < corpus.length

variable {F E : Type} (py : Python F)

/-- The neighbours of a row that are not missing, in rank order. -/
def validFound (corpus : List (Document F)) (row : List F × List ℤ) : List (Document F × F) :=
  (row.2.zip row.1).filterMap fun hit =>
    if hit.1 = -1 then none else corpus[hit.1.toNat]?.map fun doc => (doc, hit.2)

theorem getDoc_of_valid {corpus : List (Document F)} {idx : ℤ} (h : 0 ≤ idx)
    (hlt : idx < corpus.length) : ∃ doc, getDoc corpus idx = some doc ∧
      corpus[idx.toNat]? = some doc := by
  have hbound : idx.toNat < corpus.length := by omega
  exact ⟨corpus[idx.toNat], by simp [getDoc, h, hbound], by simp [hbound]⟩

/-- The loop over the valid neighbours is the loop over the positions that are not padded. -/
theorem mapM_validFound {β : Type} (g : Document F × F → Option β) {corpus : List (Document F)}
    {hits : List (ℤ × F)}
    (hvalid : ∀ hit ∈ hits, hit.1 = -1 ∨ 0 ≤ hit.1 ∧ hit.1 < corpus.length) :
    (hits.filterMap fun hit =>
        if hit.1 = -1 then none else corpus[hit.1.toNat]?.map fun doc => (doc, hit.2)).mapM g =
      (hits.filter fun hit => hit.1 ≠ -1).mapM fun hit =>
        (getDoc corpus hit.1).bind fun doc => g (doc, hit.2) := by
  induction hits with
  | nil => rfl
  | cons hit hits ih =>
      have hrest := ih fun hit' h => hvalid hit' (List.mem_cons_of_mem _ h)
      rcases hvalid hit List.mem_cons_self with hpad | ⟨hnonneg, hlt⟩
      · simpa [hpad] using hrest
      · obtain ⟨doc, hget, hcorpus⟩ := getDoc_of_valid hnonneg hlt
        have hne : hit.1 ≠ -1 := by omega
        simp only [ne_eq, decide_not] at hrest
        simp [hne, hcorpus, hget, List.mapM_cons, hrest]

variable (retriever : DenseRetriever F E)

/-- The documents of a search, as one loop over the positions of the row. -/
theorem searchUncached_docs (query : Text) (num : Option ℤ) (returnScore : Bool)
    (maxDocChars : ℕ) {row : List F × List ℤ}
    (hrow : retriever.index (retriever.encode query) (num.getD retriever.topk) = row)
    (hlen : row.2.length = row.1.length) :
    (searchUncached py retriever query num returnScore maxDocChars).map Output.docs =
      (row.2.zip row.1).mapM fun hit => (getDoc retriever.corpus hit.1).bind fun doc =>
        formatEntry py returnScore maxDocChars (doc, hit.2) := by
  obtain ⟨scores, idxs⟩ := row
  rw [← PyLoop.mapM_zip_mapM hlen, searchUncached, compute, hrow]
  simp only [loadDocs]
  cases idxs.mapM (getDoc retriever.corpus) with
  | none => rfl
  | some docs =>
      simp only [Option.bind_eq_bind, Option.bind_some]
      cases (docs.zip scores).mapM (formatEntry py returnScore maxDocChars) with
      | none => rfl
      | some formatted => rfl

/-- A search returns the documents of the valid neighbours exactly when no position is padded, or
when the text of a valid one makes it raise. -/
theorem searchUncached_docs_eq_valid_iff (query : Text) (num : Option ℤ) (returnScore : Bool)
    (maxDocChars : ℕ)
    (h : IndexRow retriever.corpus
      (retriever.index (retriever.encode query) (num.getD retriever.topk))) :
    (searchUncached py retriever query num returnScore maxDocChars).map Output.docs =
        (validFound retriever.corpus
          (retriever.index (retriever.encode query) (num.getD retriever.topk))).mapM
            (formatEntry py returnScore maxDocChars) ↔
      -1 ∉ (retriever.index (retriever.encode query) (num.getD retriever.topk)).2 ∨
        ∃ found ∈ validFound retriever.corpus
            (retriever.index (retriever.encode query) (num.getD retriever.topk)),
          Uncuttable maxDocChars (shownText py found.1) := by
  generalize hrow : retriever.index (retriever.encode query) (num.getD retriever.topk) = row at h ⊢
  have hvalid : ∀ hit ∈ row.2.zip row.1,
      hit.1 = -1 ∨ 0 ≤ hit.1 ∧ hit.1 < retriever.corpus.length :=
    fun hit hmem => h.valid_or_padded hit.1 (List.of_mem_zip hmem).1
  rw [searchUncached_docs py retriever query num returnScore maxDocChars hrow h.length_eq,
    validFound, mapM_validFound _ hvalid, PyLoop.mapM_eq_mapM_filter_iff]
  refine or_congr ?_ ?_
  · -- the numbers of the row are those of its positions
    rw [← List.map_fst_zip h.length_eq.le, List.mem_map, List.map_fst_zip h.length_eq.le]
    constructor
    · intro hall hmem
      obtain ⟨hit, hhit, hpad⟩ := hmem
      exact of_decide_eq_true (hall hit hhit) hpad
    · intro hnone hit hhit
      exact decide_eq_true fun hpad => hnone ⟨hit, hhit, hpad⟩
  · simp only [← formatEntry_none_iff py returnScore]
    rw [← PyLoop.mapM_none_iff, ← PyLoop.mapM_none_iff, ← mapM_validFound _ hvalid]

/-- An index that finds the only document and pads the rest of its row. -/
def paddedRetriever : DenseRetriever LiteralFloat Unit where
  encode _ := ()
  index _ _ := ([.posInf, .negInf], [0, -1])
  corpus := [[(lit "title", .str (lit "Paris")), (lit "text", .str (lit "A city."))]]

theorem indexRow_paddedRetriever (num : ℤ) :
    IndexRow paddedRetriever.corpus (paddedRetriever.index () num) :=
  ⟨rfl, by simp [paddedRetriever]⟩

theorem paddedRetriever_docs_eq_valid_iff :
    (searchUncached asciiPython paddedRetriever (lit "where") none false 1200).map Output.docs =
        (validFound paddedRetriever.corpus (paddedRetriever.index () 3)).mapM
          (formatEntry asciiPython false 1200) ↔
      -1 ∉ (paddedRetriever.index () 3).2 ∨
        ∃ found ∈ validFound paddedRetriever.corpus (paddedRetriever.index () 3),
          Uncuttable 1200 (shownText asciiPython found.1) :=
  searchUncached_docs_eq_valid_iff asciiPython paddedRetriever (lit "where") none false 1200
    (indexRow_paddedRetriever 3)

/-- The padded position gives the only document a second time. -/
theorem paddedRetriever_docs_ne_valid :
    (searchUncached asciiPython paddedRetriever (lit "where") none false 1200).map Output.docs ≠
      (validFound paddedRetriever.corpus (paddedRetriever.index () 3)).mapM
        (formatEntry asciiPython false 1200) := by
  intro h
  have hlengths := congrArg (Option.map List.length) h
  revert hlengths
  decide

end SearchR1.RetrievalService
