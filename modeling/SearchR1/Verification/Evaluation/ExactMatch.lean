import SearchR1.Library.JsonRoundTrip
import SearchR1.Library.Monadic
import SearchR1.Model.AsciiRuntime
import SearchR1.Model.ConvertAndEval
import SearchR1.Verification.Evaluation.LastAnswer

/-! # Exact match in the training reward and in the evaluation -/

namespace SearchR1.ConvertAndEval

open PyText PyJson PyLoop BuildSftData EvalEmF1 QaEmToolReward

variable {F : Type} (py : Python F)

/-! ## Files of records -/

theorem getLast?_dumpsMembers (fc : FloatCodec F) (ms : List (Text × Json F)) :
    (dumpsMembers fc ms).getLast? = some (ch '}') := by
  induction ms with
  | nil => rfl
  | cons m ms ih =>
      obtain ⟨k, v⟩ := m
      rw [dumpsMembers, List.getLast?_append, ih]
      rfl

theorem exists_dumps_obj (fc : FloatCodec F) (ms : Dict Text (Json F)) :
    ∃ s, dumps fc (.obj ms) = ch '{' :: s := by
  cases ms with
  | nil => exact ⟨[ch '}'], rfl⟩
  | cons m ms => exact ⟨_, rfl⟩

theorem getLast?_dumps_obj (fc : FloatCodec F) (ms : Dict Text (Json F)) :
    (dumps fc (.obj ms)).getLast? = some (ch '}') := by
  cases ms with
  | nil => rfl
  | cons m ms =>
      obtain ⟨k, v⟩ := m
      rw [dumps, List.getLast?_append, getLast?_dumpsMembers]
      rfl

theorem strip_dumps_obj (fc : FloatCodec F) (ms : Dict Text (Json F)) :
    strip (dumps fc (.obj ms)) = dumps fc (.obj ms) := by
  apply trim_eq_of_decompose isSpace (w := []) (t := []) (by simp) (by simp) (by simp)
  · intro c hc
    obtain ⟨s, hs⟩ := exists_dumps_obj fc ms
    rw [hs] at hc
    obtain rfl := Option.some.inj hc
    decide
  · intro c hc
    rw [getLast?_dumps_obj] at hc
    obtain rfl := Option.some.inj hc
    decide

/-- A file of printed objects is read back. -/
theorem readRecords_dumps (records : List (Dict Text (Json F)))
    (hwf : ∀ ms ∈ records, (Json.obj ms).Wf) :
    readRecords py (records.map fun ms => dumps py.json (.obj ms)) = some (records.map .obj) := by
  have hlines : ((records.map fun ms => dumps py.json (.obj ms)).map strip).filter
      (fun line => !line.isEmpty) = records.map fun ms => dumps py.json (.obj ms) := by
    have hstrip : (records.map fun ms => dumps py.json (.obj ms)).map strip =
        records.map fun ms => dumps py.json (.obj ms) := by
      rw [List.map_map]
      apply List.map_congr_left
      intro ms _
      exact strip_dumps_obj py.json ms
    rw [hstrip, List.filter_eq_self]
    intro line hline
    obtain ⟨ms, -, rfl⟩ := List.mem_map.mp hline
    obtain ⟨s, hs⟩ := exists_dumps_obj py.json ms
    rw [hs]
    rfl
  rw [readRecords, hlines]
  exact mapM_map_some fun ms hms => loads_dumps py.json _ (hwf ms hms)

/-! ## Dumped records -/

/-- A dumped record with its texts and its ground truth. -/
structure DumpedRecord (F : Type) where
  fields : Dict Text (Json F)
  wf : (Json.obj fields).Wf
  input : Text
  output : Text
  gts : Dict Text (Json F)
  targets : List Text
  input_eq : Dict.get? fields (lit "input") = some (.str input)
  output_eq : Dict.get? fields (lit "output") = some (.str output)
  gts_eq : Dict.get? fields (lit "gts") = some (.obj gts)
  target_eq : Dict.get? gts (lit "target") = some (.arr (targets.map .str))

/-- The line that is dumped for a record. -/
def DumpedRecord.line (r : DumpedRecord F) : Text := dumps py.json (.obj r.fields)

def DumpedRecord.score (r : DumpedRecord F) : Json F :=
  (Dict.get? r.fields (lit "score")).getD (.int 0)

def DumpedRecord.converted (r : DumpedRecord F) : Dict Text (Json F) :=
  [(lit "question", .str (extractQuestionFromInput r.input)),
    (lit "output", .str r.output),
    (lit "prediction", .str (extractAnswerFromText r.output)),
    (lit "answer", .arr (r.targets.map .str)),
    (lit "score", r.score)]

theorem convert_dumped (r : DumpedRecord F) :
    convert py (.obj r.fields) = some (.obj r.converted) := by
  have htargets : (r.targets.map Json.str).map py.text = r.targets := by
    rw [List.map_map]
    exact List.map_id r.targets
  simp [convert, readText, r.input_eq, r.output_eq, r.gts_eq, extractGroundTruth, r.target_eq,
    htargets, DumpedRecord.converted, DumpedRecord.score]

theorem wf_score (r : DumpedRecord F) : r.score.Wf := by
  unfold DumpedRecord.score
  cases h : Dict.get? r.fields (lit "score") with
  | none => trivial
  | some v => exact wf_of_get? r.wf h

theorem wf_converted (r : DumpedRecord F) : (Json.obj r.converted).Wf := by
  have hkeys : [lit "question", lit "output", lit "prediction", lit "answer",
      lit "score"].Nodup := by
    decide
  have hanswer : (Json.arr (r.targets.map .str) : Json F).Wf := by
    rw [Json.Wf, wfElems_iff]
    intro v hv
    obtain ⟨t, -, rfl⟩ := List.mem_map.mp hv
    trivial
  exact ⟨hkeys, trivial, trivial, trivial, hanswer, wf_score r, trivial⟩

/-- The detail that the evaluation gives a converted record. -/
def DumpedRecord.detail (r : DumpedRecord F) : Detail :=
  scorePrediction py (extractQuestionFromInput r.input) (extractAnswerFromText r.output) r.targets

theorem readAnswer_arr (targets : List Text) :
    readAnswer (some (.arr (targets.map Json.str : List (Json F)))) = some targets := by
  have h : (targets.map Json.str).mapM (fun v : Json F => readText [] (some v)) =
      some (targets.map id) := mapM_map_some fun t _ => rfl
  rwa [List.map_id] at h

theorem evaluateExample_converted (gtData : Dict Text (List Text)) (r : DumpedRecord F) :
    evaluateExample py gtData (.obj r.converted) = some (r.detail py) := by
  have hquestion : Dict.get? r.converted (lit "question") =
      some (.str (extractQuestionFromInput r.input)) := rfl
  have hprediction : Dict.get? r.converted (lit "prediction") =
      some (.str (extractAnswerFromText r.output)) := rfl
  have hanswer : Dict.get? r.converted (lit "answer") = some (.arr (r.targets.map .str)) := rfl
  simp [evaluateExample, hquestion, readPrediction, hprediction, hanswer, readText,
    readAnswer_arr, DumpedRecord.detail]

theorem readGroundTruth_converted (r : DumpedRecord F) :
    readGroundTruth (.obj r.converted) = some (extractQuestionFromInput r.input, r.targets) := by
  have hquestion : Dict.get? r.converted (lit "question") =
      some (.str (extractQuestionFromInput r.input)) := rfl
  have hanswer : Dict.get? r.converted (lit "answer") = some (.arr (r.targets.map .str)) := rfl
  simp [readGroundTruth, hquestion, hanswer, readText, readAnswer_arr]

/-- The evaluation of a dumped file has one detail for each record. -/
theorem convertAndEvaluate_dumped (records : List (DumpedRecord F)) :
    convertAndEvaluate py (records.map (DumpedRecord.line py)) =
      some (evaluation (records.map (DumpedRecord.detail py))) := by
  have hdumped : readRecords py (records.map (DumpedRecord.line py)) =
      some (records.map fun r => .obj r.fields) := by
    have h := readRecords_dumps py (records.map DumpedRecord.fields)
      (List.forall_mem_map.mpr fun r _ => r.wf)
    rwa [List.map_map, List.map_map] at h
  have hconvert : (records.map fun r => Json.obj r.fields).mapM (convert py) =
      some (records.map fun r => .obj r.converted) :=
    mapM_map_some fun r _ => convert_dumped py r
  have hread : readRecords py (records.map fun r => dumps py.json (.obj r.converted)) =
      some (records.map fun r => .obj r.converted) := by
    have h := readRecords_dumps py (records.map DumpedRecord.converted)
      (List.forall_mem_map.mpr fun r _ => wf_converted r)
    rwa [List.map_map, List.map_map] at h
  have hgt : (records.map fun r => Json.obj r.converted).mapM readGroundTruth =
      some (records.map fun r => (extractQuestionFromInput r.input, r.targets)) :=
    mapM_map_some fun r _ => readGroundTruth_converted r
  have hdetails : ∀ gtData : Dict Text (List Text),
      (records.map fun r => Json.obj r.converted).mapM (evaluateExample py gtData) =
        some (records.map (DumpedRecord.detail py)) :=
    fun gtData => mapM_map_some fun r _ => evaluateExample_converted py gtData r
  have hlines : (records.map fun r => Json.obj r.converted).map (dumps py.json) =
      records.map fun r => dumps py.json (.obj r.converted) := List.map_map ..
  simp only [convertAndEvaluate, hdumped, hconvert, hlines, evaluateFile, hread, hgt, hdetails,
    Option.bind_eq_bind, Option.bind_some, Option.pure_def]

/-! ## Exact match -/

theorem emScore_eq (prediction gt : Text) :
    emScore py prediction gt =
      if normalizeAnswer py gt = normalizeAnswer py prediction then 1 else 0 := by
  rw [emScore]
  simp only [eq_comm]

/-- The best exact match over the answers is 1 when one of them matches. -/
theorem foldl_emScore (prediction : Text) (gtAnswers : List Text) (best : ℕ) :
    gtAnswers.foldl (fun best gt => max best (emScore py prediction gt)) best =
      max best (if emCheck py prediction gtAnswers then 1 else 0) := by
  induction gtAnswers generalizing best with
  | nil => simp [emCheck]
  | cons gt gtAnswers ih =>
      rw [List.foldl_cons, ih, emScore_eq, max_assoc]
      congr 1
      by_cases hgt : normalizeAnswer py gt = normalizeAnswer py prediction
      · have hcheck : emCheck py prediction (gt :: gtAnswers) = true := by simp [emCheck, hgt]
        rw [if_pos hgt, if_pos hcheck]
        split <;> rfl
      · have hcheck : emCheck py prediction (gt :: gtAnswers) =
            emCheck py prediction gtAnswers := by
          simp [emCheck, hgt]
        rw [if_neg hgt, hcheck, Nat.zero_max]

theorem em_detail (r : DumpedRecord F) : (r.detail py).em =
    if extractAnswerFromText r.output = [] then 0
    else if emCheck py (extractAnswerFromText r.output) r.targets then 1 else 0 := by
  simp [DumpedRecord.detail, scorePrediction, foldl_emScore]

theorem answerEm_of_computeScore {dataSource solutionStr : Text} {groundTruth : GroundTruth}
    {extraInfo : Option ToolAgentLoop.Fields} {score : Score}
    (h : computeScore py dataSource solutionStr groundTruth extraInfo = some score) :
    score.answerEm = toFloat ((extractSolution solutionStr).any fun answer =>
      emCheck py answer groundTruth.targets) := by
  obtain ⟨toolState, -, h⟩ := Option.bind_eq_some_iff.mp h
  obtain rfl := Option.some.inj h
  rfl

/-- The last answer is blank, and a target is as good as blank. -/
def DumpedRecord.BlankMatch (r : DumpedRecord F) : Prop :=
  extractSolution r.output = some [] ∧
    ∃ target ∈ r.targets, normalizeAnswer py target = normalizeAnswer py []

/-- The reward takes a blank answer for an answer and the evaluation does not; otherwise they
agree. -/
theorem answerEm_cases (r : DumpedRecord F) {dataSource : Text}
    {extraInfo : Option ToolAgentLoop.Fields} {score : Score}
    (h : computeScore py dataSource r.output { target := .many r.targets } extraInfo =
      some score) :
    (r.BlankMatch py → score.answerEm = 1 ∧ (r.detail py).em = 0) ∧
      (¬ r.BlankMatch py → score.answerEm = (r.detail py).em) := by
  have hcheck : emCheck py [] r.targets = true ↔
      ∃ target ∈ r.targets, normalizeAnswer py target = normalizeAnswer py [] := by
    simp [emCheck]
  have hem := answerEm_of_computeScore py h
  change score.answerEm = toFloat ((extractSolution r.output).any fun answer =>
    emCheck py answer r.targets) at hem
  rw [hem, em_detail, extractAnswerFromText_eq, DumpedRecord.BlankMatch, ← hcheck]
  cases hanswer : extractSolution r.output with
  | none => simp [toFloat]
  | some answer =>
      by_cases hblank : answer = []
      · subst hblank
        simp [toFloat]
      · simp only [Option.any_some, Option.getD_some, Option.some.injEq, hblank, false_and,
          false_implies, not_false_eq_true, true_and, ite_false, forall_const, toFloat]
        split <;> simp

/-- The evaluation of a dumped file gives every record the exact match of the training reward,
except for a blank answer that matches a target. -/
theorem convertAndEvaluate_answerEm (records : List (DumpedRecord F)) :
    ∃ results, convertAndEvaluate py (records.map (DumpedRecord.line py)) = some results ∧
      List.Forall₂ (fun r detail => ∀ dataSource extraInfo score,
        computeScore py dataSource r.output { target := .many r.targets } extraInfo =
          some score →
        (r.BlankMatch py → score.answerEm = 1 ∧ detail.em = 0) ∧
          (¬ r.BlankMatch py → score.answerEm = detail.em)) records results.details := by
  refine ⟨_, convertAndEvaluate_dumped py records, ?_⟩
  rw [evaluation, List.forall₂_map_right_iff, List.forall₂_same]
  intro r _ dataSource extraInfo score h
  exact answerEm_cases py r h

/-- A record with a blank answer. -/
def blankRecord : DumpedRecord LiteralFloat where
  fields := [(lit "input", .str (lit "Question: Which article?")),
    (lit "output", .str (lit "<answer> </answer>")),
    (lit "gts", .obj [(lit "target", .arr [.str (lit "the")])])]
  wf := by
    have hkeys : [lit "input", lit "output", lit "gts"].Nodup := by decide
    simp [Json.Wf, WfMembers, WfElems, Dict.keys, hkeys]
  input := lit "Question: Which article?"
  output := lit "<answer> </answer>"
  gts := [(lit "target", .arr [.str (lit "the")])]
  targets := [lit "the"]
  input_eq := rfl
  output_eq := rfl
  gts_eq := rfl
  target_eq := rfl

/-- The reward counts the blank answer as an exact match and the evaluation as none. -/
theorem answerEm_ne_em_blank : ∃ score results,
    computeScore asciiPython (lit "nq") blankRecord.output
      { target := .many blankRecord.targets } none = some score ∧
    convertAndEvaluate asciiPython [blankRecord.line asciiPython] = some results ∧
    results.details.map (fun detail => (detail.em : ℚ)) ≠ [score.answerEm] := by
  have hscore : (computeScore asciiPython (lit "nq") blankRecord.output
      { target := .many blankRecord.targets } none).map (fun score => score.answerEm) =
        some 1 := by
    decide
  have hresults : (convertAndEvaluate asciiPython [blankRecord.line asciiPython]).map
      (fun results => results.details.map fun detail => detail.em) = some [0] := by
    decide +kernel
  obtain ⟨score, hscore, hem⟩ := Option.map_eq_some_iff.mp hscore
  obtain ⟨results, hresults, hdetails⟩ := Option.map_eq_some_iff.mp hresults
  refine ⟨score, results, hscore, hresults, ?_⟩
  have hcast : results.details.map (fun detail => (detail.em : ℚ)) =
      (results.details.map fun detail => detail.em).map Nat.cast := (List.map_map ..).symm
  rw [hcast, hdetails, hem]
  decide

end SearchR1.ConvertAndEval
