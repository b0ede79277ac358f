import SearchR1.Library.Fields
import SearchR1.Model.AnswerMatching
import SearchR1.Model.AsciiRuntime

/-! # Normalised answers as normal forms -/

namespace SearchR1

open PyText Fields

variable {F : Type} (py : Python F)

/-- What the documentation says of lower case, of word characters and of white space. -/
structure TextLaws : Prop where
  lower_mem : ∀ s, ∀ c ∈ py.lower s, py.lower [c] = [c]
  lower_eq : ∀ s, (∀ c ∈ s, py.lower [c] = [c]) → py.lower s = s
  lower_blank : py.lower [ch ' '] = [ch ' ']
  not_isWord : ∀ c, isSpace c → ¬ py.isWord c
  isWord_article : ∀ w ∈ articles, ∀ c ∈ w, py.isWord c

variable {py}

/-! ## Articles at a word boundary -/

theorem article_ne_nil {w : Text} (hw : w ∈ articles) : w ≠ [] := by
  intro h
  subst h
  revert hw
  decide

theorem TextLaws.headIsWord_article (laws : TextLaws py) {w s : Text} (hw : w ∈ articles)
    (h : w <+: s) : headIsWord py s := by
  rcases h with ⟨r, rfl⟩
  cases w with
  | nil => exact absurd rfl (article_ne_nil hw)
  | cons c w => simpa [headIsWord] using laws.isWord_article _ hw c List.mem_cons_self

/-- A word that ends at a boundary is the run of word characters at the head. -/
theorem TextLaws.boundary_iff (laws : TextLaws py) {w : Text} (hw : w ∈ articles) (s : Text) :
    (w.isPrefixOf s && (w.getLast?.any py.isWord != headIsWord py (s.drop w.length))) ↔
      s.takeWhile py.isWord = w := by
  have hall : ∀ c ∈ w, py.isWord c := laws.isWord_article w hw
  have hlast : w.getLast?.any py.isWord = true := by
    cases hget : w.getLast? with
    | none => exact absurd (List.getLast?_eq_none_iff.mp hget) (article_ne_nil hw)
    | some c => simpa using hall c (List.mem_of_mem_getLast? hget)
  rw [hlast, Bool.and_eq_true, List.isPrefixOf_iff_prefix]
  constructor
  · intro h
    rcases h with ⟨⟨r, rfl⟩, hend⟩
    rw [List.drop_left] at hend
    rw [List.takeWhile_append_of_pos hall]
    cases r with
    | nil => simp
    | cons c r =>
        have hc : py.isWord c = false := by simpa [headIsWord] using hend
        simp [hc]
  · intro h
    have hsplit : w ++ s.dropWhile py.isWord = s := by
      rw [← h, List.takeWhile_append_dropWhile]
    refine ⟨⟨_, hsplit⟩, ?_⟩
    rw [← hsplit, List.drop_left]
    cases hrest : s.dropWhile py.isWord with
    | nil => rfl
    | cons c r =>
        simp [headIsWord, not_of_dropWhile_eq_cons hrest]

/-- An article is found behind a character that is no word character, if it is the whole run. -/
theorem TextLaws.articleLength_eq (laws : TextLaws py) (previous : Bool) (s : Text) :
    articleLength py previous s =
      if !previous && articles.contains (s.takeWhile py.isWord) then
        some (s.takeWhile py.isWord).length
      else none := by
  have hfind : ∀ w, (articles.find? fun w => w.isPrefixOf s &&
      (w.getLast?.any py.isWord != headIsWord py (s.drop w.length))) = some w →
        w ∈ articles ∧ s.takeWhile py.isWord = w := by
    intro w h
    have hw := List.mem_of_find?_eq_some h
    have hboundary := List.find?_some h
    exact ⟨hw, (laws.boundary_iff hw s).mp hboundary⟩
  rw [articleLength]
  cases hrun : articles.find? fun w => w.isPrefixOf s &&
      (w.getLast?.any py.isWord != headIsWord py (s.drop w.length)) with
  | none =>
      have hnot : s.takeWhile py.isWord ∉ articles := by
        intro hmem
        have hboundary := List.find?_eq_none.mp hrun _ hmem
        exact hboundary ((laws.boundary_iff hmem s).mpr rfl)
      simp [hnot]
  | some w =>
      obtain ⟨hw, htake⟩ := hfind w hrun
      have hhead := laws.headIsWord_article hw (htake ▸ List.takeWhile_prefix py.isWord)
      cases previous <;> simp [htake, hw, hhead]

theorem TextLaws.articleLength_none_iff (laws : TextLaws py) (previous : Bool) (s : Text) :
    articleLength py previous s = none ↔
      previous = true ∨ s.takeWhile py.isWord ∉ articles := by
  rw [laws.articleLength_eq]
  cases previous <;> simp

/-! ## Texts without articles -/

/-- No article stands at a word boundary. -/
def NoArticle (py : Python F) (previous : Bool) : Text → Prop
  | [] => True
  | c :: s => articleLength py previous (c :: s) = none ∧ NoArticle py (py.isWord c) s

theorem removeArticlesAux_of_noArticle {previous : Bool} {s : Text}
    (h : NoArticle py previous s) : removeArticlesAux py previous 0 s = s := by
  induction s generalizing previous with
  | nil => rfl
  | cons c s ih =>
      obtain ⟨hnone, hrest⟩ := h
      rw [removeArticlesAux, hnone]
      simp only
      rw [ih hrest]

/-- The rest of a word is skipped. -/
theorem removeArticlesAux_skip (s : Text) :
    removeArticlesAux py true (s.takeWhile py.isWord).length s =
      removeArticlesAux py true 0 (s.dropWhile py.isWord) := by
  induction s with
  | nil => rfl
  | cons c s ih =>
      cases hc : py.isWord c with
      | true =>
          rw [List.takeWhile_cons_of_pos hc, List.dropWhile_cons_of_pos hc, List.length_cons,
            removeArticlesAux, hc]
          exact ih
      | false => simp [hc]

/-- Within a word nothing is removed. -/
theorem TextLaws.takeWhile_removeArticlesAux (laws : TextLaws py) (s : Text) :
    (removeArticlesAux py true 0 s).takeWhile py.isWord = s.takeWhile py.isWord := by
  induction s with
  | nil => rfl
  | cons c s ih =>
      have hnone : articleLength py true (c :: s) = none :=
        (laws.articleLength_none_iff true _).mpr (.inl rfl)
      rw [removeArticlesAux, hnone]
      cases hc : py.isWord c with
      | true => simp [hc, ih]
      | false => simp [hc]

theorem TextLaws.noArticle_of_run_nil (laws : TextLaws py) {previous : Bool} {s : Text}
    (hrun : s.takeWhile py.isWord = []) (h : NoArticle py previous s) :
    NoArticle py false s := by
  cases s with
  | nil => trivial
  | cons c s =>
      refine ⟨(laws.articleLength_none_iff false _).mpr (.inr ?_), h.2⟩
      rw [hrun]
      decide

/-- The pass leaves no article: what it keeps of a word is the whole word. -/
theorem TextLaws.noArticle_removeArticlesAux (laws : TextLaws py) (previous : Bool) (s : Text) :
    NoArticle py previous (removeArticlesAux py previous 0 s) := by
  induction hn : s.length using Nat.strongRecOn generalizing previous s with
  | ind n ih =>
      cases s with
      | nil => trivial
      | cons c s =>
          have hlen : s.length < n := by simp [← hn]
          rw [removeArticlesAux]
          cases harticle : articleLength py previous (c :: s) with
          | none =>
              refine ⟨?_, ih _ hlen (py.isWord c) s rfl⟩
              have hrun : (c :: removeArticlesAux py (py.isWord c) 0 s).takeWhile py.isWord =
                  (c :: s).takeWhile py.isWord := by
                cases hc : py.isWord c with
                | true => simp [hc, laws.takeWhile_removeArticlesAux]
                | false => simp [hc]
              rw [laws.articleLength_none_iff] at harticle ⊢
              rwa [hrun]
          | some m =>
              rw [laws.articleLength_eq] at harticle
              split at harticle
              · rename_i hrun
                have hc : py.isWord c = true := by
                  by_contra hc
                  rw [List.takeWhile_cons_of_neg hc, Bool.and_eq_true] at hrun
                  exact article_ne_nil (List.contains_iff_mem.mp hrun.2) rfl
                have hm : m - 1 = (s.takeWhile py.isWord).length := by
                  rw [List.takeWhile_cons_of_pos hc, List.length_cons, Option.some.injEq]
                    at harticle
                  omega
                have hblank : py.isWord (ch ' ') = false := by
                  simpa using laws.not_isWord (ch ' ') (by decide)
                have hrest : (s.dropWhile py.isWord).length < n :=
                  lt_of_le_of_lt (List.dropWhile_suffix py.isWord).length_le hlen
                simp only [hc, hm, removeArticlesAux_skip]
                refine ⟨(laws.articleLength_none_iff _ _).mpr (.inr ?_), ?_⟩
                · rw [List.takeWhile_cons_of_neg (by simp [hblank])]
                  decide
                · -- behind the blank the rest starts with no word character
                  rw [hblank]
                  apply laws.noArticle_of_run_nil _ (ih _ hrest true _ rfl)
                  rw [laws.takeWhile_removeArticlesAux]
                  cases hdrop : s.dropWhile py.isWord with
                  | nil => rfl
                  | cons d r => simp [not_of_dropWhile_eq_cons hdrop]
              · cases harticle

/-! ## Texts with other white space -/

theorem takeWhile_append_cons_of_not {α : Type} {p : α → Bool} {c : α} (hc : p c = false)
    (u v : List α) : (u ++ c :: v).takeWhile p = u.takeWhile p := by
  induction u with
  | nil => simp [hc]
  | cons d u ih =>
      cases hd : p d with
      | true => simp [hd, ih]
      | false => simp [hd]

/-- Articles are looked for on both sides of a white space. -/
theorem TextLaws.noArticle_append_cons_iff (laws : TextLaws py) {c : CodePoint}
    (hc : isSpace c) (previous : Bool) (u v : Text) :
    NoArticle py previous (u ++ c :: v) ↔ NoArticle py previous u ∧ NoArticle py false v := by
  have hword : py.isWord c = false := by simpa using laws.not_isWord c hc
  induction u generalizing previous with
  | nil =>
      have hnone : articleLength py previous (c :: v) = none := by
        rw [laws.articleLength_none_iff, List.takeWhile_cons_of_neg (by simp [hword])]
        exact .inr (by decide)
      simp [NoArticle, hnone, hword]
  | cons d u ih =>
      have hsame : articleLength py previous (d :: u ++ c :: v) =
          articleLength py previous (d :: u) := by
        rw [laws.articleLength_eq, laws.articleLength_eq, takeWhile_append_cons_of_not hword]
      rw [List.cons_append] at hsame ⊢
      have hrest := ih (py.isWord d)
      simp only [NoArticle, hsame, hrest, and_assoc]

theorem TextLaws.noArticle_iff_fields (laws : TextLaws py) (s : Text) :
    NoArticle py false s ↔ ∀ w ∈ fields isSpace s, NoArticle py false w := by
  induction s using fields_induction (p := isSpace) with
  | stop xs hxs =>
      rw [fields_of_forall_not hxs]
      split
      · rename_i hnil
        simp [hnil, NoArticle]
      · simp
  | sep xs c s hxs hc ih =>
      rw [laws.noArticle_append_cons_iff hc, fields_append_cons hc, List.forall_mem_append, ih,
        fields_of_forall_not hxs]
      refine and_congr_left fun _ => ?_
      split
      · rename_i hnil
        simp [hnil, NoArticle]
      · simp

/-! ## The normal form -/

theorem whiteSpaceFix_eq (s : Text) : whiteSpaceFix s = [ch ' '].intercalate (fields isSpace s) :=
  rfl

theorem mem_removeArticlesAux {previous : Bool} {skip : ℕ} {s : Text} {c : CodePoint}
    (h : c ∈ removeArticlesAux py previous skip s) : c = ch ' ' ∨ c ∈ s := by
  induction s generalizing previous skip with
  | nil => cases h
  | cons d s ih =>
      cases skip with
      | succ skip =>
          rw [removeArticlesAux] at h
          exact (ih h).imp_right (List.mem_cons_of_mem d)
      | zero =>
          rw [removeArticlesAux] at h
          cases harticle : articleLength py previous (d :: s) with
          | none =>
              rw [harticle] at h
              rcases List.mem_cons.mp h with rfl | h
              · exact .inr List.mem_cons_self
              · exact (ih h).imp_right (List.mem_cons_of_mem d)
          | some n =>
              rw [harticle] at h
              rcases List.mem_cons.mp h with rfl | h
              · exact .inl rfl
              · exact (ih h).imp_right (List.mem_cons_of_mem d)

/-- The code points of a normalised text: blanks and others that earlier passes kept. -/
theorem mem_normalizeAnswer {s : Text} {c : CodePoint} (h : c ∈ normalizeAnswer py s) :
    c = ch ' ' ∨ c ∈ py.lower s ∧ c ∉ punctuation := by
  rw [normalizeAnswer, whiteSpaceFix_eq] at h
  rcases mem_intercalate h with rfl | ⟨w, hw, hcw⟩
  · exact .inl rfl
  · rcases mem_removeArticlesAux (mem_of_mem_fields hw hcw) with rfl | hc
    · exact .inl rfl
    · rw [removePunc, List.mem_filter] at hc
      exact .inr ⟨hc.1, by simpa using hc.2⟩

/-- A text that the passes leave no more to do on. -/
structure IsNormal (s : Text) : Prop where
  no_punctuation : ∀ c ∈ s, c ∉ punctuation
  no_leading : ∀ c ∈ s.head?, ¬ isSpace c
  no_trailing : ∀ c ∈ s.getLast?, ¬ isSpace c
  no_repeated : s.IsChain fun c d => ¬ (isSpace c ∧ isSpace d)
  no_article : ∀ w ∈ fields isSpace s, w ∉ articles

theorem TextLaws.noArticle_normalizeAnswer (laws : TextLaws py) (s : Text) :
    NoArticle py false (normalizeAnswer py s) := by
  have hblank : isSpace (ch ' ') := by decide
  rw [normalizeAnswer, whiteSpaceFix_eq, laws.noArticle_iff_fields,
    fields_intercalate_fields hblank, ← laws.noArticle_iff_fields]
  exact laws.noArticle_removeArticlesAux false _

theorem not_mem_punctuation_normalizeAnswer {s : Text} {c : CodePoint}
    (h : c ∈ normalizeAnswer py s) : c ∉ punctuation := by
  rcases mem_normalizeAnswer h with rfl | ⟨-, hc⟩
  · decide
  · exact hc

theorem TextLaws.isNormal_normalizeAnswer (laws : TextLaws py) (s : Text) :
    IsNormal (normalizeAnswer py s) := by
  refine ⟨fun c hc => not_mem_punctuation_normalizeAnswer hc,
    head?_not_of_isField fun _ => isField_of_mem_fields,
    getLast?_not_of_isField fun _ => isField_of_mem_fields,
    isChain_intercalate fun _ => isField_of_mem_fields, ?_⟩
  intro w hw harticle
  have hfree := (laws.noArticle_iff_fields _).mp (laws.noArticle_normalizeAnswer s) w hw
  have hrun : w.takeWhile py.isWord = w :=
    List.takeWhile_eq_self_iff.mpr (laws.isWord_article w harticle)
  cases w with
  | nil => exact article_ne_nil harticle rfl
  | cons c w =>
      have hnone := (laws.articleLength_none_iff false _).mp hfree.1
      rw [hrun] at hnone
      exact absurd harticle (hnone.resolve_left (by simp))

theorem TextLaws.normalizeAnswer_normalizeAnswer (laws : TextLaws py) (s : Text) :
    normalizeAnswer py (normalizeAnswer py s) = normalizeAnswer py s := by
  have hlower : py.lower (normalizeAnswer py s) = normalizeAnswer py s := by
    apply laws.lower_eq
    intro c hc
    rcases mem_normalizeAnswer hc with rfl | ⟨hmem, -⟩
    · exact laws.lower_blank
    · exact laws.lower_mem s c hmem
  have hpunc : removePunc (normalizeAnswer py s) = normalizeAnswer py s := by
    rw [removePunc, List.filter_eq_self]
    intro c hc
    simpa using not_mem_punctuation_normalizeAnswer hc
  have harticles : removeArticles py (normalizeAnswer py s) = normalizeAnswer py s :=
    removeArticlesAux_of_noArticle (laws.noArticle_normalizeAnswer s)
  have hspace : whiteSpaceFix (normalizeAnswer py s) = normalizeAnswer py s := by
    have hblank : isSpace (ch ' ') := by decide
    rw [normalizeAnswer, whiteSpaceFix_eq, whiteSpaceFix_eq, fields_intercalate_fields hblank]
  calc normalizeAnswer py (normalizeAnswer py s)
      = whiteSpaceFix (removeArticles py (removePunc (py.lower (normalizeAnswer py s)))) := rfl
    _ = normalizeAnswer py s := by rw [hlower, hpunc, harticles, hspace]

theorem emCheck_singleton (prediction answer : Text) : emCheck py prediction [answer] ↔
    normalizeAnswer py answer = normalizeAnswer py prediction := by
  simp [emCheck]

/-- Normalised answers are normal forms, and the exact match of a single answer compares them. -/
theorem normalizeAnswer_normalForm (laws : TextLaws py) :
    (∀ s, normalizeAnswer py (normalizeAnswer py s) = normalizeAnswer py s) ∧
      (∀ s, IsNormal (normalizeAnswer py s)) ∧
      (∀ p g, emCheck py p [g] = emCheck py g [p]) ∧
      (∀ p g r, emCheck py p [g] → emCheck py g [r] → emCheck py p [r]) := by
  refine ⟨laws.normalizeAnswer_normalizeAnswer, laws.isNormal_normalizeAnswer, ?_, ?_⟩
  · intro p g
    rw [Bool.eq_iff_iff, emCheck_singleton, emCheck_singleton, eq_comm]
  · intro p g r hpg hgr
    rw [emCheck_singleton] at hpg hgr ⊢
    exact hgr.trans hpg

/-! ## The laws on ASCII texts -/

theorem asciiLower_asciiLower (c : CodePoint) : asciiLower (asciiLower c) = asciiLower c := by
  by_cases hc : 65 ≤ c.val ∧ c.val ≤ 90
  · have hlower : asciiLower c = Fin.ofNat _ (c.val + 32) := if_pos hc
    have hval : (asciiLower c).val = c.val + 32 := by
      rw [hlower, Fin.val_ofNat]
      omega
    exact if_neg (by omega)
  · have hlower : asciiLower c = c := if_neg hc
    rw [hlower, hlower]

theorem not_asciiWord {c : CodePoint} (h : isSpace c) : ¬ asciiWord c := by
  have hline : (ch '_').val = 95 := by decide
  simp only [isSpace, asciiWord, PyJson.isDigit, Bool.or_eq_true, Bool.and_eq_true,
    decide_eq_true_eq, beq_iff_eq, Fin.ext_iff, hline] at h ⊢
  omega

theorem textLaws_asciiPython : TextLaws asciiPython where
  lower_mem s c hc := by
    obtain ⟨d, -, rfl⟩ := List.mem_map.mp hc
    exact congrArg (fun e => [e]) (asciiLower_asciiLower d)
  lower_eq s h := by
    have hsame : s.map asciiLower = s.map id :=
      List.map_congr_left fun c hc => (List.cons.inj (h c hc)).1
    exact hsame.trans (List.map_id s)
  lower_blank := by decide
  not_isWord _ h := not_asciiWord h
  isWord_article w hw := by
    have hall : (articles.all fun w => w.all asciiWord) = true := by decide
    exact List.all_eq_true.mp (List.all_eq_true.mp hall w hw)

theorem normalizeAnswer_normalForm_ascii :
    (∀ s, normalizeAnswer asciiPython (normalizeAnswer asciiPython s) =
        normalizeAnswer asciiPython s) ∧
      (∀ s, IsNormal (normalizeAnswer asciiPython s)) ∧
      (∀ p g, emCheck asciiPython p [g] = emCheck asciiPython g [p]) ∧
      (∀ p g r, emCheck asciiPython p [g] → emCheck asciiPython g [r] →
        emCheck asciiPython p [r]) :=
  normalizeAnswer_normalForm textLaws_asciiPython

end SearchR1
