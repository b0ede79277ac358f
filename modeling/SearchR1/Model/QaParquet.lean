import SearchR1.Model.BuildSftData

/-! # Rows of the question answering data sets -/

namespace SearchR1.QaParquet

open PyText BuildSftData

/-- A row of a parquet file; `target` is the ground truth of its reward model. -/
structure Row where
  dataSource : Text
  prompt : List Message
  target : List Text

def nqSystemPrompt : Text :=
  lit "You are a factual question answering agent. You MUST search for evidence " ++
  lit "before answering every question, even if you think you know the answer.\n" ++
  lit "\n" ++
  lit "To search, use the following exact format:\n" ++
  lit "<search>your search query here</search>\n" ++
  lit "\n" ++
  lit "After searching, you will receive information between <information> and " ++
  lit "</information>. Use that evidence to formulate your answer.\n" ++
  lit "\n" ++
  lit "Finally, output the answer using:\n" ++
  lit "<answer>final answer</answer>\n" ++
  lit "\n" ++
  lit "Keep the answer concise. Do NOT answer without searching first."

def hotpotSystemPrompt : Text :=
  lit "You are a retrieval-augmented question answering agent. This question " ++
  lit "REQUIRES multi-hop reasoning. You MUST search for evidence before " ++
  lit "answering.\n" ++
  lit "\n" ++
  lit "To search, use the following exact format:\n" ++
  lit "<search>your search query here</search>\n" ++
  lit "\n" ++
  lit "You may search multiple times when necessary. After each search, you " ++
  lit "will receive information between <information> and </information>.\n" ++
  lit "\n" ++
  lit "After gathering enough evidence, output the final answer using exactly:\n" ++
  lit "<answer>final answer</answer>\n" ++
  lit "\n" ++
  lit "Keep the content inside <answer> concise. Do NOT answer without " ++
  lit "searching first."

/-- The row for a question with its answers; examples without either are skipped. -/
def makeRow (dataSource systemPrompt question : Text) (answers : List Text) : Option Row :=
  if question = [] then none
  else if answers = [] then none
  else some
    { dataSource := dataSource
      prompt := [{ role := .system, content := systemPrompt },
        { role := .user, content := question }]
      target := answers }

/-- A round of the loop of `convert_nq_to_parquet.py`. -/
def nqRow (question : Text) (answers : List Text) : Option Row :=
  makeRow (lit "nq") nqSystemPrompt question answers

/-- A round of the loop of `convert_hotpotqa_to_parquet.py`. -/
def hotpotRow (question : Text) (answers : List Text) : Option Row :=
  makeRow (lit "hotpotqa") hotpotSystemPrompt question answers

end SearchR1.QaParquet
