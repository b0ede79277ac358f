import SearchR1.Model.ToolAgentLoop

/-! # The interpreter on ASCII texts

A runtime whose floats are kept as the text they are written in, and a rollout worker whose
tokens are code points. They evaluate the model on concrete inputs. -/

namespace SearchR1

open PyText PyJson

inductive LiteralFloat where
  | nan
  | posInf
  | negInf
  | number (t : Text) (h : scanNumber t = some (t, true, []))

def literalCodec : FloatCodec LiteralFloat where
  ofText t := if h : scanNumber t = some (t, true, []) then .number t h else .nan
  nan := .nan
  posInf := .posInf
  negInf := .negInf
  repr x := match x with
    | .nan => lit "NaN"
    | .posInf => lit "Infinity"
    | .negInf => lit "-Infinity"
    | .number t _ => t
  repr_spec x := by
    cases x with
    | nan => simp
    | posInf => simp
    | negInf => simp
    | number t h => simp [h]

def asciiLower (c : CodePoint) : CodePoint :=
  if 65 ≤ c.val ∧ c.val ≤ 90 then Fin.ofNat _ (c.val + 32) else c

def asciiWord (c : CodePoint) : Bool :=
  isDigit c || (65 ≤ c.val && c.val ≤ 90) || (97 ≤ c.val && c.val ≤ 122) || c == ch '_'

def constantText : Json LiteralFloat → Text
  | .null => lit "None"
  | .bool true => lit "True"
  | .bool false => lit "False"
  | v => dumps literalCodec v

/-- The integer part of a float literal without an exponent. -/
def truncateLiteral : LiteralFloat → Option ℤ
  | .number t _ => some (intValue (t.takeWhile fun c => isDigit c || c == ch '-'))
  | _ => none

/-- A literal is zero when no digit of its mantissa is another one. -/
def literalTruthy : LiteralFloat → Bool
  | .number t _ =>
      (t.takeWhile fun c => c != ch 'e' && c != ch 'E').any fun c => isDigit c && c != ch '0'
  | _ => true

def asciiPython : Python LiteralFloat where
  json := literalCodec
  lower := List.map asciiLower
  isWord := asciiWord
  str := constantText
  decodeError _ := lit "Expecting value: line 1 column 1 (char 0)"
  floatTruthy := literalTruthy
  floatToInt := truncateLiteral
  intOfStr t := match scanNumber (strip t) with
    | some (n, false, []) => some (intValue n)
    | _ => none

open ToolAgentLoop in
/-- A tokenizer without special tokens, whose template adds a line break between turns. -/
def codePointTokenizer : Tokenizer where
  decode ids := ids.map (Fin.ofNat 0x110000)
  decodeVisible ids := ids.map (Fin.ofNat 0x110000)
  toolTurn messages := messages.flatten.map Fin.val
  turnSeparator := [10]
  decode_nil := rfl

open ToolAgentLoop in
/-- A worker with the search tool. -/
def asciiWorker (config : Config) : Worker LiteralFloat where
  py := asciiPython
  raisedText _ := lit "unsupported operand"
  tokenizer := codePointTokenizer
  searchTool := {}
  activeTools := [lit "search"]
  config := config

open ToolAgentLoop in
/-- The generation of a text at the first training step. -/
def generationOf (t : Text) : TokenOutput where
  tokenIds := t.map Fin.val
  extraFields :=
    { fields := [(lit "global_steps", .num 1)]
      not_tool := by decide +kernel }

/-- A search call in the Hermes format. -/
def searchCallText (query : String) : Text :=
  lit "<tool_call>\x7b\"name\": \"search\", \"arguments\": \x7b\"query\": \"" ++ lit query ++
    lit "\"\x7d\x7d</tool_call>"

end SearchR1
