import SearchR1.Library.Tags
import SearchR1.Model.EvalEmF1
import SearchR1.Model.QaEmToolReward

/-! # The last answer of a text -/

namespace SearchR1.EvalEmF1

open PyText BuildSftData QaEmToolReward

theorem isTag_answerOpen : IsTag answerOpen := ⟨lit "answer", rfl, by decide, by decide⟩

theorem isTag_answerClose : IsTag answerClose := ⟨lit "/answer", rfl, by decide, by decide⟩

/-! ## Three extractors -/

theorem extractAnswerFromText_eq (text : Text) :
    extractAnswerFromText text = (extractSolution text).getD [] := by
  unfold extractAnswerFromText extractSolution
  cases (blocks answerOpen answerClose text).getLast? <;> rfl

/-- The pattern with white space around the answer finds the same last answer. -/
theorem strip_getLast?_answerPattern (content : Text) :
    strip ((answerPattern content).getLast?.getD []) = extractAnswerFromText content := by
  rw [answerPattern, strippedBlocks, List.getLast?_map, extractAnswerFromText]
  cases (blocks answerOpen answerClose content).getLast? with
  | none => rfl
  | some body => exact strip_strip body

theorem extractFinalAnswer_singleton (content : Text) :
    extractFinalAnswer [{ role := .assistant, content := content }] =
      extractAnswerFromText content := by
  rw [← strip_getLast?_answerPattern]
  by_cases h : answerPattern content = []
  · simp [extractFinalAnswer, assistantContents, h]
    rfl
  · simp [extractFinalAnswer, assistantContents, h]

/-- The three extractors give the answer for the text. -/
def ExtractsAs (text answer : Text) : Prop :=
  extractSolution text = some answer ∧ extractAnswerFromText text = answer ∧
    extractFinalAnswer [{ role := .assistant, content := text }] = answer

theorem extractsAs_iff (text answer : Text) :
    ExtractsAs text answer ↔ extractSolution text = some answer := by
  rw [ExtractsAs, extractFinalAnswer_singleton, extractAnswerFromText_eq]
  constructor
  · exact fun h => h.1
  · intro h
    simp [h]

/-! ## An answer at the end -/

variable {x a y : Text}

theorem extractSolution_of_tagsClosed (hx : TagsClosed answerOpen answerClose x)
    (ha : ¬ contains answerClose a) (hy : ¬ contains answerOpen y) :
    extractSolution (x ++ (answerOpen ++ (a ++ answerClose ++ y))) = some (strip a) := by
  rw [extractSolution,
    getLast?_blocks_of_tagsClosed isTag_answerOpen isTag_answerClose hx ha hy]
  rfl

/-- An answer that starts at an open tag holds the tag of the last one. -/
theorem extractSolution_of_not_tagsClosed (hx : ¬ TagsClosed answerOpen answerClose x)
    (ha : ¬ contains answerClose a) (hy : ¬ contains answerOpen y) :
    ∃ answer, extractSolution (x ++ (answerOpen ++ (a ++ answerClose ++ y))) = some answer ∧
      contains answerOpen answer := by
  have hne : answerClose ≠ answerOpen := by decide
  obtain ⟨v, hlast⟩ := getLast?_blocks_of_not_tagsClosed isTag_answerOpen isTag_answerClose hne
    hx ha hy
  refine ⟨strip (v ++ answerOpen ++ a), by rw [extractSolution, hlast]; rfl, ?_⟩
  rw [isTag_answerOpen.contains_strip_iff, contains_iff]
  exact List.infix_append v answerOpen a

/-- The last answer of a text is extracted exactly when no answer in front of it is left open. -/
theorem extractsAs_last_iff (x : Text) {a y : Text} (hopen : ¬ contains answerOpen a)
    (hclose : ¬ contains answerClose a) (hy : ¬ contains answerOpen y) :
    ExtractsAs (x ++ answerOpen ++ a ++ answerClose ++ y) (strip a) ↔
      ∀ u v, x = u ++ answerOpen ++ v → contains answerClose v := by
  rw [extractsAs_iff, ← TagsClosed]
  have htext : x ++ answerOpen ++ a ++ answerClose ++ y =
      x ++ (answerOpen ++ (a ++ answerClose ++ y)) := by
    simp
  rw [htext]
  constructor
  · intro h
    by_contra hx
    obtain ⟨answer, hanswer, htag⟩ := extractSolution_of_not_tagsClosed hx hclose hy
    rw [h, Option.some.injEq] at hanswer
    rw [← hanswer, isTag_answerOpen.contains_strip_iff] at htag
    exact hopen htag
  · exact fun hx => extractSolution_of_tagsClosed hx hclose hy

theorem extractsAs_last_answered :
    ExtractsAs (lit "<answer>old</answer> so " ++ answerOpen ++ lit " new " ++ answerClose ++
        lit ".") (strip (lit " new ")) ↔
      ∀ u v, lit "<answer>old</answer> so " = u ++ answerOpen ++ v → contains answerClose v :=
  extractsAs_last_iff _ (by decide) (by decide) (by decide)

/-- The answer of a text that opens a tag twice starts at the first one. -/
theorem not_extractsAs_last_open :
    ¬ ExtractsAs (lit "<answer>let me see " ++ answerOpen ++ lit "Paris" ++ answerClose ++ [])
      (strip (lit "Paris")) := by
  rw [extractsAs_iff]
  decide

end SearchR1.EvalEmF1
