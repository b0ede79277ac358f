import SearchR1.Model.EvalEmF1

/-! # Evaluating dumped generations -/

namespace SearchR1.ConvertAndEval

open PyText PyJson BuildSftData EvalEmF1

variable {F : Type} (py : Python F)

/-- The text behind `Question:` up to the end of its line, or else the last line that is not
blank. -/
def extractQuestionFromInput (inputText : Text) : Text :=
  match cut (lit "Question:") inputText with
  | some (_, rest) => strip ((rest.dropWhile isSpace).takeWhile (· ≠ ch '\n'))
  | none =>
      let lines := ((inputText.splitOnP (· = ch '\n')).map strip).filter fun l => !l.isEmpty
      lines.getLast?.getD (inputText.take 200)

def extractGroundTruth : Json F → List Text
  | .null => []
  | .obj gtsEntry =>
      match (Dict.get? gtsEntry (lit "target")).getD (.arr []) with
      | .arr targets => targets.map py.text
      | targets => [py.text targets]
  | .arr gtsEntry => gtsEntry.map py.text
  | gtsEntry => [py.text gtsEntry]

/-- The converted record; `none` when the dumped one is no object, or its texts are none. -/
def convert : Json F → Option (Json F)
  | .obj example_ => do
      let outputText ← readText [] (Dict.get? example_ (lit "output"))
      let prediction := extractAnswerFromText outputText
      let gts := (Dict.get? example_ (lit "gts")).getD .null
      let answers := extractGroundTruth py gts
      let input ← readText [] (Dict.get? example_ (lit "input"))
      let question := extractQuestionFromInput input
      return .obj
        [(lit "question", .str question),
          (lit "output", .str outputText),
          (lit "prediction", .str prediction),
          (lit "answer", .arr (answers.map .str)),
          (lit "score", (Dict.get? example_ (lit "score")).getD (.int 0))]
  | _ => none

/-- `convert_and_evaluate` on the lines of the dumped file. The converted file is both the
predictions and the ground truth. -/
def convertAndEvaluate (dumped : List Text) : Option Evaluation := do
  let examples ← readRecords py dumped
  let converted ← examples.mapM (convert py)
  let lines := converted.map (dumps py.json)
  evaluateFile py lines lines

end SearchR1.ConvertAndEval
