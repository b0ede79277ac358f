import SearchR1.Library.JsonRoundTrip
import SearchR1.Library.Tags
import SearchR1.Model.QaEmToolReward
import SearchR1.Verification.Rollout.SearchOutcomes

/-! # The text of a search response -/

namespace SearchR1.SearchTool

open PyText PyJson QaEmToolReward

theorem isTag_informationOpen : IsTag informationOpen :=
  ⟨lit "information", rfl, by decide, by decide⟩

theorem isTag_informationClose : IsTag informationClose :=
  ⟨lit "/information", rfl, by decide, by decide⟩

theorem informationClose_ne_open : informationClose ≠ informationOpen := by decide

/-! ## Text without framing -/

/-- The texts by which the reward recognises a response and a failure. -/
def framing : List Text := [informationOpen, informationClose, searchFailed]

def Clean (t : Text) : Prop := ∀ p ∈ framing, ¬ contains p t

/-- None of the code points that hold a response together is part of the framing. -/
theorem not_mem_framing {p : Text} (hp : p ∈ framing) {d : CodePoint}
    (hd : d = ch ')' ∨ d = ch '\n' ∨ d = ch '.') : d ∉ p := by
  have hall : ∀ p ∈ framing, ch ')' ∉ p ∧ ch '\n' ∉ p ∧ ch '.' ∉ p := by decide
  rcases hd with rfl | rfl | rfl
  · exact (hall p hp).1
  · exact (hall p hp).2.1
  · exact (hall p hp).2.2

theorem head?_framing {p : Text} (hp : p ∈ framing) :
    p.head? = some (ch '<') ∨ p.head? = some (ch 'S') := by
  revert p
  decide

theorem Clean.of_infix {a b : Text} (h : a <:+: b) (hb : Clean b) : Clean a := by
  intro p hp ha
  exact hb p hp (contains_iff.mpr ((contains_iff.mp ha).trans h))

theorem Clean.join {a b : Text} {d : CodePoint} (hd : d = ch ')' ∨ d = ch '\n' ∨ d = ch '.')
    (ha : Clean a) (hb : Clean b) : Clean (a ++ d :: b) := by
  intro p hp h
  rcases infix_append_cons (not_mem_framing hp hd) (contains_iff.mp h) with h | h
  · exact ha p hp (contains_iff.mpr h)
  · exact hb p hp (contains_iff.mpr h)

/-- A label in front of a text starts no framing. -/
theorem Clean.label {l x : Text} (hlt : ch '<' ∉ l) (hs : ch 'S' ∉ l) (hx : Clean x) :
    Clean (l ++ x) := by
  intro p hp h
  apply hx p hp
  rw [contains_iff] at h ⊢
  rcases head?_framing hp with hhead | hhead
  · exact infix_of_append_head hhead hlt h
  · exact infix_of_append_head hhead hs h

theorem clean_nil : Clean [] := by
  intro p hp
  revert p
  decide

theorem clean_of_not_mem {l : Text} (hlt : ch '<' ∉ l) (hs : ch 'S' ∉ l) : Clean l := by
  have h := Clean.label hlt hs clean_nil
  rwa [List.append_nil] at h

/-! ## Formatted documents -/

variable {F : Type} {py : Python F} {cfg : Config}

/-- The title and the text of a document, as they are shown, have no framing in them. -/
def CleanDoc (py : Python F) (doc : Json F) : Prop :=
  ∀ title text, readDoc py doc = .ok (title, text) → Clean (py.text title) ∧ Clean (py.text text)

theorem clean_truncateDoc {text : Json F} {part : Text × Bool}
    (h : truncateDoc py cfg text = .ok part) (hclean : Clean (py.text text)) : Clean part.1 := by
  rcases truncateDoc_cases h with ⟨t, rfl, -, rfl⟩ | ⟨rfl, -⟩
  · have hdots : Clean (lit "..") := clean_of_not_mem (by decide) (by decide)
    exact (hclean.of_infix (List.take_prefix _ t).isInfix).join (.inr (.inr rfl)) hdots
  · exact hclean

theorem not_mem_docNumber (i : ℕ) {d : CodePoint} (hd : d ∉ lit "Doc ") (hdigit : ¬ isDigit d) :
    d ∉ lit "Doc " ++ natText (i + 1) := by
  rw [List.mem_append, not_or]
  exact ⟨hd, fun h => hdigit (isDigit_of_mem_natText h)⟩

theorem mem_docLabel (i : ℕ) (title : Json F) : ch 'D' ∈ docLabel py i title := by
  have hmem : ch 'D' ∈ lit "Doc " := by decide
  unfold docLabel
  split <;> simp [hmem]

theorem clean_docLabel_append (i : ℕ) {title : Json F} {x : Text}
    (htitle : Clean (py.text title)) (hx : Clean x) : Clean (docLabel py i title ++ x) := by
  have hlt := not_mem_docNumber i (d := ch '<') (by decide) (by decide)
  have hs := not_mem_docNumber i (d := ch 'S') (by decide) (by decide)
  have htail : Clean (lit ":\n" ++ x) :=
    (clean_of_not_mem (l := lit ":") (by decide) (by decide)).join (.inr (.inl rfl)) hx
  unfold docLabel
  split
  · have hhead : Clean (lit "Doc " ++ natText (i + 1) ++ lit "(Title: " ++ py.text title) := by
      apply Clean.label _ _ htitle
      · rw [List.mem_append, not_or]
        exact ⟨hlt, by decide⟩
      · rw [List.mem_append, not_or]
        exact ⟨hs, by decide⟩
    have hjoin := hhead.join (.inl rfl) htail
    have hparen : lit ")" = [ch ')'] := rfl
    simpa only [hparen, List.append_assoc, List.cons_append, List.nil_append] using hjoin
  · rw [List.append_assoc]
    exact Clean.label hlt hs htail

theorem clean_formatDoc {i : ℕ} {doc : Json F} {part : Text × Bool}
    (h : formatDoc py cfg i doc = .ok part) (hclean : CleanDoc py doc) :
    Clean part.1 ∧ ch 'D' ∈ part.1 := by
  rcases exists_of_formatDoc h with ⟨title, text, shown, hread, htruncate, rfl⟩
  rcases hclean title text hread with ⟨htitle, htext⟩
  exact ⟨clean_docLabel_append i htitle (clean_truncateDoc htruncate htext),
    List.mem_append_left _ (mem_docLabel i title)⟩

/-! ## Bodies -/

theorem clean_intercalate {ts : List Text} (h : ∀ t ∈ ts, Clean t) :
    Clean ((lit "\n\n").intercalate ts) := by
  induction ts with
  | nil => exact clean_nil
  | cons t ts ih =>
      have ht := h t List.mem_cons_self
      have hrest := ih fun t ht => h t (List.mem_cons_of_mem _ ht)
      cases ts with
      | nil => simpa using ht
      | cons t' ts =>
          have hjoin := ht.join (.inr (.inl rfl)) (clean_nil.join (.inr (.inl rfl)) hrest)
          simpa [List.intercalate, lit] using hjoin

/-- What a body may end with. -/
theorem truncateBody_cases (cfg : Config) (body : Text) :
    (truncateBody cfg body).1 = body ∧ body.length ≤ maxBodyChars cfg ∨
    (truncateBody cfg body).1 = body.take (maxBodyChars cfg) ++ lit "\n... [truncated]" ∧
      maxBodyChars cfg < body.length := by
  unfold truncateBody
  split
  · rename_i h
    exact .inr ⟨rfl, h⟩
  · rename_i h
    exact .inl ⟨rfl, Nat.le_of_not_lt h⟩

theorem clean_truncateBody {body : Text} (h : Clean body) : Clean (truncateBody cfg body).1 := by
  rcases truncateBody_cases cfg body with ⟨hbody, -⟩ | ⟨hbody, -⟩
  · rw [hbody]
    exact h
  · rw [hbody]
    exact (h.of_infix (List.take_prefix _ body).isInfix).join (.inr (.inl rfl))
      (clean_of_not_mem (l := lit "... [truncated]") (by decide) (by decide))

end SearchR1.SearchTool
