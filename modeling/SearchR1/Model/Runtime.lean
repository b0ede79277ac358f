import SearchR1.Library.Json
import SearchR1.Library.Blocks

/-! # What the code takes from its interpreter -/

namespace SearchR1

open PyText PyJson

/-- The parts of Python whose tables are not spelled out here, over its floats `F`. -/
structure Python (F : Type) where
  json : FloatCodec F
  lower : Text → Text
  isWord : CodePoint → Bool
  str : Json F → Text
  decodeError : Text → Text
  floatTruthy : F → Bool
  floatToInt : F → Option ℤ
  intOfStr : Text → Option ℤ

variable {F : Type}

/-- `str(value)`. -/
def Python.text (py : Python F) : Json F → Text
  | .str t => t
  | v => py.str v

/-- `bool(value)`. -/
def Python.truthy (py : Python F) : Json F → Bool
  | .null => false
  | .bool b => b
  | .int i => i ≠ 0
  | .float x => py.floatTruthy x
  | .str t => !t.isEmpty
  | .arr vs => !vs.isEmpty
  | .obj ms => !ms.isEmpty

/-- `isinstance(value, int)`; a `bool` is an `int`. -/
def asInt : Json F → Option ℤ
  | .bool b => some (if b then 1 else 0)
  | .int i => some i
  | _ => none

def typeName : Json F → Text
  | .null => lit "NoneType"
  | .bool _ => lit "bool"
  | .int _ => lit "int"
  | .float _ => lit "float"
  | .str _ => lit "str"
  | .arr _ => lit "list"
  | .obj _ => lit "dict"

/-! ## Tags -/

def toolCallOpen : Text := lit "<tool_call>"

def toolCallClose : Text := lit "</tool_call>"

def searchOpen : Text := lit "<search>"

def searchClose : Text := lit "</search>"

def answerOpen : Text := lit "<answer>"

def answerClose : Text := lit "</answer>"

def informationOpen : Text := lit "<information>"

def informationClose : Text := lit "</information>"

end SearchR1
