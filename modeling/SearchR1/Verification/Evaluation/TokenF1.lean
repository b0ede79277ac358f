import Mathlib.Tactic.NormNum
import SearchR1.Library.Overlap
import SearchR1.Verification.Evaluation.ExactMatch
import SearchR1.Verification.Evaluation.NormalForm

/-! # Token F1 and exact match -/

namespace SearchR1.EvalEmF1

open PyText PyJson PyLoop Fields Overlap BuildSftData

variable {F : Type} (py : Python F)

/-! ## Two texts -/

/-- The tokens of the normalised text. -/
def tokens (text : Text) : Multiset Text := split (normalizeAnswer py text)

/-- The common tokens are counted as in the intersection of the multisets. -/
theorem numSame_eq (predTokens gtTokens : List Text) :
    numSame predTokens gtTokens =
      ((predTokens : Multiset Text) ∩ (gtTokens : Multiset Text)).card := by
  have hbeq : (List.instBEq : BEq Text) = instBEqOfDecidableEq := lawful_beq_subsingleton _ _
  rw [Multiset.coe_inter, ← hbeq]
  rfl

theorem f1Score_eq_dice (prediction groundTruth : Text) :
    f1Score py prediction groundTruth =
      dice (tokens py prediction) (tokens py groundTruth) := by
  have hcommon : numSame (split (normalizeAnswer py prediction))
      (split (normalizeAnswer py groundTruth)) =
        (tokens py prediction ∩ tokens py groundTruth).card := numSame_eq _ _
  have hleft := card_inter_le_left (tokens py prediction) (tokens py groundTruth)
  have hright := card_inter_le_right (tokens py prediction) (tokens py groundTruth)
  rw [f1Score]
  simp only [hcommon]
  by_cases hzero : (tokens py prediction ∩ tokens py groundTruth).card = 0
  · rw [if_pos hzero, dice, hzero]
    simp
  · have hp : max (split (normalizeAnswer py prediction)).length 1 =
        (tokens py prediction).card := by
      apply max_eq_left
      change 1 ≤ (tokens py prediction).card
      omega
    have hg : max (split (normalizeAnswer py groundTruth)).length 1 =
        (tokens py groundTruth).card := by
      apply max_eq_left
      change 1 ≤ (tokens py groundTruth).card
      omega
    rw [if_neg hzero, hp, hg]
    exact harmonic_eq_dice _ _ hzero

/-- A normalised text without tokens is empty. -/
theorem tokens_eq_zero_iff (text : Text) : tokens py text = 0 ↔ normalizeAnswer py text = [] := by
  have hblank : isSpace (ch ' ') := by decide
  have hjoin : [ch ' '].intercalate (split (normalizeAnswer py text)) =
      normalizeAnswer py text := by
    change [ch ' '].intercalate (fields isSpace (normalizeAnswer py text)) = _
    rw [normalizeAnswer, whiteSpaceFix_eq, fields_intercalate_fields hblank]
  rw [tokens, Multiset.coe_eq_zero]
  constructor
  · intro h
    rw [← hjoin, h]
    rfl
  · intro h
    rw [h]
    rfl

/-- The scores of two texts go together. -/
structure Consistent (prediction groundTruth : Text) : Prop where
  nonneg : 0 ≤ f1Score py prediction groundTruth
  le_one : f1Score py prediction groundTruth ≤ 1
  symm : f1Score py prediction groundTruth = f1Score py groundTruth prediction
  eq_one_iff : f1Score py prediction groundTruth = 1 ↔
    tokens py prediction = tokens py groundTruth
  em_le : (emScore py prediction groundTruth : ℚ) ≤ f1Score py prediction groundTruth

/-- Both texts are empty once they are normalised. -/
def BothBlank (prediction groundTruth : Text) : Prop :=
  normalizeAnswer py prediction = [] ∧ normalizeAnswer py groundTruth = []

theorem f1Score_of_blank {prediction : Text} (h : normalizeAnswer py prediction = [])
    (groundTruth : Text) : f1Score py prediction groundTruth = 0 := by
  rw [f1Score_eq_dice, (tokens_eq_zero_iff py prediction).mpr h, dice]
  simp

theorem f1Score_of_em {prediction groundTruth : Text}
    (hem : normalizeAnswer py prediction = normalizeAnswer py groundTruth)
    (h : ¬ BothBlank py prediction groundTruth) : f1Score py prediction groundTruth = 1 := by
  rw [f1Score_eq_dice, dice_eq_one_iff]
  refine ⟨by rw [tokens, tokens, hem], ?_⟩
  intro hzero
  rw [tokens_eq_zero_iff] at hzero
  exact h ⟨hzero, hem ▸ hzero⟩

theorem consistent_iff (prediction groundTruth : Text) :
    Consistent py prediction groundTruth ↔ ¬ BothBlank py prediction groundTruth := by
  constructor
  · intro h hblank
    have hone := h.eq_one_iff.mpr (by
      rw [(tokens_eq_zero_iff py prediction).mpr hblank.1,
        (tokens_eq_zero_iff py groundTruth).mpr hblank.2])
    rw [f1Score_of_blank py hblank.1] at hone
    exact zero_ne_one hone
  · intro h
    refine ⟨?_, ?_, ?_, ?_, ?_⟩
    · rw [f1Score_eq_dice]
      exact dice_nonneg _ _
    · rw [f1Score_eq_dice]
      exact dice_le_one _ _
    · rw [f1Score_eq_dice, f1Score_eq_dice, dice_comm]
    · rw [f1Score_eq_dice, dice_eq_one_iff]
      constructor
      · exact fun hone => hone.1
      · intro heq
        refine ⟨heq, ?_⟩
        intro hzero
        exact h ⟨(tokens_eq_zero_iff py prediction).mp hzero,
          (tokens_eq_zero_iff py groundTruth).mp (heq ▸ hzero)⟩
    · rw [emScore]
      split
      · rename_i hem
        rw [f1Score_of_em py hem h]
        simp
      · rw [f1Score_eq_dice]
        simpa using dice_nonneg (tokens py prediction) (tokens py groundTruth)

/-! ## A record -/

/-- The best of some scores is at least each of them. -/
theorem le_foldl_max {α : Type} (f : α → ℚ) (xs : List α) (best : ℚ) :
    best ≤ xs.foldl (fun best x => max best (f x)) best ∧
      ∀ x ∈ xs, f x ≤ xs.foldl (fun best x => max best (f x)) best := by
  induction xs generalizing best with
  | nil => simp
  | cons x xs ih =>
      obtain ⟨hbest, hrest⟩ := ih (max best (f x))
      rw [List.foldl_cons, List.forall_mem_cons]
      exact ⟨(le_max_left _ _).trans hbest, (le_max_right _ _).trans hbest, hrest⟩

theorem foldl_max_eq_zero {α : Type} {f : α → ℚ} {xs : List α} (h : ∀ x ∈ xs, f x = 0) :
    xs.foldl (fun best x => max best (f x)) 0 = 0 := by
  induction xs with
  | nil => rfl
  | cons x xs ih =>
      rw [List.forall_mem_cons] at h
      rw [List.foldl_cons, h.1, max_self]
      exact ih h.2

/-- The prediction and an answer are empty once they are normalised, and the prediction is not
empty before. -/
def Degenerate (detail : Detail) : Prop :=
  detail.prediction ≠ [] ∧ ∃ gt ∈ detail.groundTruth, BothBlank py detail.prediction gt

theorem emCheck_iff (prediction : Text) (gtAnswers : List Text) : emCheck py prediction gtAnswers ↔
    ∃ gt ∈ gtAnswers, normalizeAnswer py gt = normalizeAnswer py prediction := by
  simp [emCheck]

theorem em_le_f1_iff (question prediction : Text) (gtAnswers : List Text) :
    ((scorePrediction py question prediction gtAnswers).em : ℚ) ≤
        (scorePrediction py question prediction gtAnswers).f1 ↔
      ¬ Degenerate py (scorePrediction py question prediction gtAnswers) := by
  by_cases hprediction : prediction = []
  · simp [scorePrediction, Degenerate, hprediction]
  · have hem : (scorePrediction py question prediction gtAnswers).em =
        if emCheck py prediction gtAnswers then 1 else 0 := by
      simp [scorePrediction, hprediction, ConvertAndEval.foldl_emScore]
    have hf1 : (scorePrediction py question prediction gtAnswers).f1 =
        gtAnswers.foldl (fun best gt => max best (f1Score py prediction gt)) 0 := by
      simp [scorePrediction, hprediction]
    have hdegenerate : Degenerate py (scorePrediction py question prediction gtAnswers) ↔
        ∃ gt ∈ gtAnswers, BothBlank py prediction gt := by
      simp [Degenerate, scorePrediction, hprediction]
    obtain ⟨hnonneg, hbest⟩ := le_foldl_max (f1Score py prediction) gtAnswers 0
    rw [hem, hf1, hdegenerate]
    constructor
    · intro hle hblank
      obtain ⟨gt, hgt, hblank⟩ := hblank
      have hcheck : emCheck py prediction gtAnswers :=
        (emCheck_iff py _ _).mpr ⟨gt, hgt, hblank.2.trans hblank.1.symm⟩
      rw [if_pos hcheck, foldl_max_eq_zero fun gt _ => f1Score_of_blank py hblank.1 gt,
        Nat.cast_one] at hle
      exact absurd hle (not_le.mpr zero_lt_one)
    · intro hnot
      by_cases hcheck : emCheck py prediction gtAnswers
      · obtain ⟨gt, hgt, hsame⟩ := (emCheck_iff py _ _).mp hcheck
        have hone := f1Score_of_em py hsame.symm fun hblank => hnot ⟨gt, hgt, hblank⟩
        rw [if_pos hcheck, Nat.cast_one, ← hone]
        exact hbest gt hgt
      · rw [if_neg hcheck, Nat.cast_zero]
        exact hnonneg

/-! ## A file -/

theorem exists_scorePrediction {gtData : Dict Text (List Text)} {record : Json F}
    {detail : Detail} (h : evaluateExample py gtData record = some detail) :
    ∃ question prediction gtAnswers,
      detail = scorePrediction py question prediction gtAnswers := by
  cases record with
  | obj fields =>
      simp only [evaluateExample, Option.bind_eq_bind] at h
      obtain ⟨question, -, h⟩ := Option.bind_eq_some_iff.mp h
      obtain ⟨prediction, -, h⟩ := Option.bind_eq_some_iff.mp h
      split at h
      · obtain ⟨gtAnswers, -, h⟩ := Option.bind_eq_some_iff.mp h
        exact ⟨question, prediction, gtAnswers, (Option.some.inj h).symm⟩
      · exact ⟨question, prediction, _, (Option.some.inj h).symm⟩
  | _ => cases h

/-- The totals and the details of a file. -/
theorem evaluateFile_spec {predictions groundTruth : List Text} {results : Evaluation}
    (h : evaluateFile py predictions groundTruth = some results) :
    results = evaluation results.details ∧ ∀ detail ∈ results.details,
      ∃ question prediction gtAnswers,
        detail = scorePrediction py question prediction gtAnswers := by
  simp only [evaluateFile, Option.bind_eq_bind] at h
  obtain ⟨gtRecords, -, h⟩ := Option.bind_eq_some_iff.mp h
  obtain ⟨gtItems, -, h⟩ := Option.bind_eq_some_iff.mp h
  obtain ⟨records, -, h⟩ := Option.bind_eq_some_iff.mp h
  obtain ⟨details, hdetails, h⟩ := Option.bind_eq_some_iff.mp h
  obtain rfl := Option.some.inj h
  refine ⟨rfl, ?_⟩
  intro detail hdetail
  obtain ⟨record, -, hrecord⟩ := exists_of_forall₂ (mapM_some_iff.mp hdetails) hdetail
  exact exists_scorePrediction py hrecord

theorem sum_em_le_sum_f1 {details : List Detail}
    (h : ∀ detail ∈ details, (detail.em : ℚ) ≤ detail.f1) :
    ((details.map Detail.em).sum : ℚ) ≤ (details.map Detail.f1).sum := by
  induction details with
  | nil => simp
  | cons detail details ih =>
      rw [List.forall_mem_cons] at h
      rw [List.map_cons, List.map_cons, List.sum_cons, List.sum_cons, Nat.cast_add]
      exact add_le_add h.1 (ih h.2)

theorem evaluation_em_le_f1 {details : List Detail}
    (h : ∀ detail ∈ details, (detail.em : ℚ) ≤ detail.f1) :
    (evaluation details).em ≤ (evaluation details).f1 := by
  have htotal : (0 : ℚ) ≤ max (details.length : ℚ) 1 := zero_le_one.trans (le_max_right _ _)
  have hdiv := div_le_div_of_nonneg_right (sum_em_le_sum_f1 h) htotal
  have hscale := mul_le_mul_of_nonneg_right hdiv (by norm_num : (0 : ℚ) ≤ 100)
  simpa [evaluation] using hscale

/-- The scores of two texts go together exactly when the texts are not both blank. The same holds
for a record of a file, and so the averages of a file without such records are in order. -/
theorem f1_consistent_iff :
    (∀ prediction groundTruth, Consistent py prediction groundTruth ↔
      ¬ BothBlank py prediction groundTruth) ∧
    ∀ predictions groundTruth results, evaluateFile py predictions groundTruth = some results →
      (∀ detail ∈ results.details, (detail.em : ℚ) ≤ detail.f1 ↔ ¬ Degenerate py detail) ∧
        ((∀ detail ∈ results.details, ¬ Degenerate py detail) → results.em ≤ results.f1) := by
  refine ⟨consistent_iff py, ?_⟩
  intro predictions groundTruth results h
  obtain ⟨hresults, hdetails⟩ := evaluateFile_spec py h
  have heach : ∀ detail ∈ results.details,
      ((detail.em : ℚ) ≤ detail.f1 ↔ ¬ Degenerate py detail) := by
    intro detail hdetail
    obtain ⟨question, prediction, gtAnswers, rfl⟩ := hdetails detail hdetail
    exact em_le_f1_iff py question prediction gtAnswers
  refine ⟨heach, ?_⟩
  intro hnone
  rw [hresults]
  exact evaluation_em_le_f1 fun detail hdetail => (heach detail hdetail).mpr (hnone detail hdetail)

/-- The line of a record with an answer. -/
def answeredLine (prediction answer : String) : Text :=
  lit "\x7b\"prediction\": \"" ++ lit prediction ++ lit "\", \"answer\": \"" ++ lit answer ++
    lit "\"\x7d"

theorem f1_consistent_paris :
    (∀ prediction groundTruth, Consistent asciiPython prediction groundTruth ↔
      ¬ BothBlank asciiPython prediction groundTruth) ∧
    ∃ results, evaluateFile asciiPython [answeredLine "Paris" "paris"] [] = some results ∧
      (∀ detail ∈ results.details,
        (detail.em : ℚ) ≤ detail.f1 ↔ ¬ Degenerate asciiPython detail) ∧
        ((∀ detail ∈ results.details, ¬ Degenerate asciiPython detail) →
          results.em ≤ results.f1) := by
  have hsome : (evaluateFile asciiPython [answeredLine "Paris" "paris"] []).isSome := by
    decide +kernel
  obtain ⟨results, h⟩ := Option.isSome_iff_exists.mp hsome
  have hpair := f1_consistent_iff asciiPython
  exact ⟨hpair.1, results, h, hpair.2 _ _ results h⟩

/-- Two articles match exactly and have no token in common, and so it goes into the averages. -/
theorem not_consistent_articles : ¬ Consistent asciiPython (lit "the") (lit "a") ∧
    (evaluateFile asciiPython [answeredLine "the" "a"] []).map
      (fun results => (results.em, results.f1)) = some (100, 0) := by
  refine ⟨?_, by decide +kernel⟩
  intro h
  have hle := h.em_le
  revert hle
  decide

end SearchR1.EvalEmF1
