import SearchR1.Verification.Evaluation.ExactMatch

/-! # Accepted SFT records in the evaluation -/

namespace SearchR1.EvalEmF1

open PyText PyJson PyLoop BuildSftData

variable {F : Type} (py : Python F)

/-- The filter's checks of the final answer of a trajectory. -/
structure AcceptsAnswer (trajectory : List Message) (answers : List Text) : Prop where
  final : hasFinalAnswer trajectory
  nonempty : extractFinalAnswer trajectory ≠ []
  correct : emCheck py (extractFinalAnswer trajectory) answers

/-! ## The answer of a trajectory -/

theorem extractAnswerFromText_of_answerPattern_nil {content : Text}
    (h : answerPattern content = []) : extractAnswerFromText content = [] := by
  rw [← strip_getLast?_answerPattern, h]
  rfl

/-- The first content with an answer is the first whose answer is not blank, unless its own is. -/
theorem find?_extractAnswerFromText {contents : List Text} {content : Text}
    (h : contents.find? (fun c => !(answerPattern c).isEmpty) = some content)
    (hne : extractAnswerFromText content ≠ []) :
    (contents.map extractAnswerFromText).find? (fun prediction => !prediction.isEmpty) =
      some (extractAnswerFromText content) := by
  induction contents with
  | nil => cases h
  | cons c contents ih =>
      rw [List.map_cons]
      by_cases hc : answerPattern c = []
      · rw [List.find?_cons_of_neg (by simp [hc])] at h
        rw [List.find?_cons_of_neg (by simp [extractAnswerFromText_of_answerPattern_nil hc])]
        exact ih h
      · rw [List.find?_cons_of_pos (by simp [hc])] at h
        obtain rfl := Option.some.inj h
        exact List.find?_cons_of_pos (by simp [hne])

/-- Both sides read the same answer, if the filter reads one that is not blank. -/
theorem predictionOfTrajectory_eq {trajectory : List Message}
    (h : extractFinalAnswer trajectory ≠ []) :
    predictionOfTrajectory trajectory = extractFinalAnswer trajectory := by
  rw [extractFinalAnswer] at h ⊢
  cases hfind : (assistantContents trajectory).reverse.find?
      fun c => !(answerPattern c).isEmpty with
  | none =>
      rw [hfind] at h
      exact absurd rfl h
  | some content =>
      rw [hfind] at h
      simp only [strip_getLast?_answerPattern] at h ⊢
      rw [predictionOfTrajectory, find?_extractAnswerFromText hfind h]
      rfl

theorem em_scorePrediction (question : Text) {trajectory : List Message} {answers : List Text}
    (h : AcceptsAnswer py trajectory answers) :
    (scorePrediction py question (predictionOfTrajectory trajectory) answers).em = 1 := by
  rw [predictionOfTrajectory_eq h.nonempty]
  simp [scorePrediction, h.nonempty, ConvertAndEval.foldl_emScore, h.correct]

/-! ## Records -/

/-- A record without a prediction whose trajectory and answers are accepted. -/
def Accepted (record : Json F) : Prop :=
  ∃ fields question trajectory answers, record = .obj fields ∧
    Dict.get? fields (lit "prediction") = none ∧
    readText [] (Dict.get? fields (lit "question")) = some question ∧
    readTrajectory py (Dict.get? fields (lit "trajectory")) = some trajectory ∧
    readAnswer (Dict.get? fields (lit "answer")) = some answers ∧
    AcceptsAnswer py trajectory answers

theorem evaluateExample_accepted {record : Json F} (h : Accepted py record)
    (gtData : Dict Text (List Text)) :
    ∃ detail, evaluateExample py gtData record = some detail ∧ detail.em = 1 := by
  obtain ⟨fields, question, trajectory, answers, rfl, hprediction, hquestion, htrajectory,
    hanswers, haccepts⟩ := h
  have hread : readPrediction py fields = some (predictionOfTrajectory trajectory) := by
    rw [readPrediction, hprediction]
    cases hget : Dict.get? fields (lit "trajectory") with
    | none =>
        -- a missing trajectory has no answer
        rw [hget] at htrajectory
        cases htrajectory
        exact absurd rfl haccepts.nonempty
    | some v =>
        rw [hget] at htrajectory
        simp [htrajectory]
  refine ⟨_, ?_, em_scorePrediction py question haccepts⟩
  cases hget : Dict.get? fields (lit "answer") with
  | none =>
      -- missing answers match nothing
      rw [hget] at hanswers
      cases hanswers
      exact absurd haccepts.correct (by simp [emCheck])
  | some v =>
      rw [hget] at hanswers
      simp [evaluateExample, hquestion, hread, hget, hanswers]

/-- The evaluation of a file gives every accepted record an exact match, and raises for none of
them. -/
theorem evaluateFile_accepted {predictions groundTruth : List Text} {records : List (Json F)}
    {gtItems : List (Text × List Text)}
    (hgt : (readRecords py groundTruth).bind (fun gt => gt.mapM readGroundTruth) = some gtItems)
    (hrecords : readRecords py predictions = some records)
    (hothers : ∀ record ∈ records, ¬ Accepted py record →
      (evaluateExample py (Dict.update [] gtItems) record).isSome) :
    ∃ results, evaluateFile py predictions groundTruth = some results ∧
      List.Forall₂ (fun record detail => Accepted py record → detail.em = 1) records
        results.details := by
  obtain ⟨gtRecords, hgtRecords, hgtItems⟩ := Option.bind_eq_some_iff.mp hgt
  have heach : ∀ record ∈ records,
      (evaluateExample py (Dict.update [] gtItems) record).isSome := by
    intro record hrecord
    by_cases haccepted : Accepted py record
    · obtain ⟨detail, hdetail, -⟩ := evaluateExample_accepted py haccepted
        (Dict.update [] gtItems)
      rw [hdetail]
      rfl
    · exact hothers record hrecord haccepted
  cases hdetails : records.mapM (evaluateExample py (Dict.update [] gtItems)) with
  | none =>
      obtain ⟨record, hrecord, hnone⟩ := mapM_none_iff.mp hdetails
      have hsome := heach record hrecord
      rw [hnone] at hsome
      cases hsome
  | some details =>
      refine ⟨evaluation details, ?_, ?_⟩
      · simp [evaluateFile, hgtRecords, hgtItems, hrecords, hdetails]
      · refine (mapM_some_iff.mp hdetails).imp ?_
        intro record detail hdetail haccepted
        obtain ⟨detail', hdetail', hem⟩ := evaluateExample_accepted py haccepted
          (Dict.update [] gtItems)
        rw [hdetail, Option.some.injEq] at hdetail'
        rwa [hdetail']

/-- A record whose last answer is in front of the last message. -/
def acceptedFields : Dict Text (Json LiteralFloat) :=
  [(lit "trajectory", .arr [
      .obj [(lit "role", .str (lit "assistant")),
        (lit "content", .str (lit "<answer> Paris </answer>"))],
      .obj [(lit "role", .str (lit "assistant")), (lit "content", .str (lit "Done."))]]),
    (lit "answer", .str (lit "The Paris"))]

theorem accepted_acceptedFields : Accepted asciiPython (.obj acceptedFields) := by
  refine ⟨acceptedFields, [], _, _, rfl, rfl, rfl, rfl, rfl, ?_⟩
  exact ⟨by decide, by decide, by decide⟩

theorem evaluateFile_acceptedFields :
    ∃ results, evaluateFile asciiPython
        [dumps asciiPython.json (.obj acceptedFields)] [] = some results ∧
      List.Forall₂ (fun record detail => Accepted asciiPython record → detail.em = 1)
        [.obj acceptedFields] results.details :=
  evaluateFile_accepted asciiPython
    (rfl : (readRecords asciiPython []).bind (fun gt => gt.mapM readGroundTruth) = some [])
    (ConvertAndEval.readRecords_dumps asciiPython [acceptedFields] (by
      intro fields hfields
      obtain rfl := List.mem_singleton.mp hfields
      simp [acceptedFields, Json.Wf, WfMembers, WfElems, Dict.keys]
      decide))
    (by
      intro record hrecord hnot
      obtain rfl := List.mem_singleton.mp hrecord
      exact absurd accepted_acceptedFields hnot)

end SearchR1.EvalEmF1
