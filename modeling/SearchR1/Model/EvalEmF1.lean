import SearchR1.Model.BuildSftData
import Mathlib.Algebra.Order.Ring.Rat

/-! # The offline evaluation -/

namespace SearchR1.EvalEmF1

open PyText PyJson BuildSftData

variable {F : Type} (py : Python F)

/-! ## Scores -/

def emScore (prediction groundTruth : Text) : ℕ :=
  if normalizeAnswer py prediction = normalizeAnswer py groundTruth then 1 else 0

/-- `text.split()`. -/
def split (text : Text) : List Text := (text.splitOnP isSpace).filter fun w => !w.isEmpty

/-- The number of common tokens, each as often as in both texts. -/
def numSame (predTokens gtTokens : List Text) : ℕ := (predTokens.bagInter gtTokens).length

def f1Score (prediction groundTruth : Text) : ℚ :=
  let predTokens := split (normalizeAnswer py prediction)
  let gtTokens := split (normalizeAnswer py groundTruth)
  let numSame := numSame predTokens gtTokens
  if numSame = 0 then 0
  else
    let precision : ℚ := numSame / max predTokens.length 1
    let recall' : ℚ := numSame / max gtTokens.length 1
    (2 * precision * recall') / (precision + recall')

def extractAnswerFromText (text : Text) : Text :=
  match (blocks answerOpen answerClose text).getLast? with
  | none => []
  | some body => strip body

/-! ## Records -/

structure Detail where
  question : Text
  prediction : Text
  groundTruth : List Text
  em : ℕ
  f1 : ℚ

structure Evaluation where
  total : ℕ
  em : ℚ
  f1 : ℚ
  correct : ℕ
  details : List Detail

/-- The answer of the last assistant message that has one. -/
def predictionOfTrajectory (trajectory : List Message) : Text :=
  (((assistantContents trajectory).reverse.map extractAnswerFromText).find?
    fun prediction => !prediction.isEmpty).getD []

/-- The prediction of a record. As below, `none` when the source raises, or when a field has a
type that is not modelled. -/
def readPrediction (example_ : Dict Text (Json F)) : Option Text :=
  match Dict.get? example_ (lit "prediction") with
  | some prediction => readText [] (some prediction)
  | none =>
      match Dict.get? example_ (lit "trajectory") with
      | some trajectory => (readTrajectory py (some trajectory)).map predictionOfTrajectory
      | none =>
          match Dict.get? example_ (lit "output") with
          | some output => (readText [] (some output)).map extractAnswerFromText
          | none => some []

/-- The best scores over the answers; a blank prediction scores nothing. -/
def scorePrediction (question prediction : Text) (gtAnswers : List Text) : Detail where
  question := question
  prediction := prediction
  groundTruth := gtAnswers
  em := if prediction.isEmpty then 0
    else gtAnswers.foldl (fun best gt => max best (emScore py prediction gt)) 0
  f1 := if prediction.isEmpty then 0
    else gtAnswers.foldl (fun best gt => max best (f1Score py prediction gt)) 0

def evaluateExample (gtData : Dict Text (List Text)) : Json F → Option Detail
  | .obj example_ => do
      let question ← readText [] (Dict.get? example_ (lit "question"))
      let prediction ← readPrediction py example_
      let gtAnswers ← match Dict.get? example_ (lit "answer") with
        | some answer => readAnswer (some answer)
        | none => some ((Dict.get? gtData question).getD [])
      return scorePrediction py question prediction gtAnswers
  | _ => none

/-- The question and the answers of a line of the ground truth file. -/
def readGroundTruth : Json F → Option (Text × List Text)
  | .obj example_ => do
      let question ← readText [] (Dict.get? example_ (lit "question"))
      let answers ← readAnswer (Dict.get? example_ (lit "answer"))
      return (question, answers)
  | _ => none

/-- The records of a file: its lines that are not blank. -/
def readRecords (lines : List Text) : Option (List (Json F)) :=
  ((lines.map strip).filter fun line => !line.isEmpty).mapM (loads py.json)

def evaluation (details : List Detail) : Evaluation :=
  let total := details.length
  let emScores := details.map Detail.em
  let f1Scores := details.map Detail.f1
  { total := total
    em := (emScores.sum : ℚ) / max total 1 * 100
    f1 := f1Scores.sum / max total 1 * 100
    correct := emScores.sum
    details := details }

/-- `evaluate_file` on the lines of the two files. -/
def evaluateFile (predictions groundTruth : List Text) : Option Evaluation := do
  let gtRecords ← readRecords py groundTruth
  let gtItems ← gtRecords.mapM readGroundTruth
  let gtData := Dict.update [] gtItems
  let records ← readRecords py predictions
  let details ← records.mapM (evaluateExample py gtData)
  return evaluation details

end SearchR1.EvalEmF1
