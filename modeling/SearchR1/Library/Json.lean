import SearchR1.Library.Text
import SearchR1.Library.Dict
import Mathlib.Data.Nat.Notation

/-! # JSON as `json.loads` and `json.dumps` treat it

The scanner accepts what CPython's accepts: the three float constants, duplicate keys
(the last value wins) and escaped lone surrogates. The interpreter's limits on the digits of an
integer and on the depth of nesting are left out. -/

namespace PyJson

open PyText

/-- JSON values over a type `F` of floats. -/
inductive Json (F : Type) where
  | null
  | bool (b : Bool)
  | int (i : ℤ)
  | float (x : F)
  | str (t : Text)
  | arr (vs : List (Json F))
  | obj (ms : List (Text × Json F))

/-! ## Numbers -/

def isDigit (c : CodePoint) : Bool := 48 ≤ c.val && c.val ≤ 57

/-- The code points a number text is made of. -/
def isNumberChar (c : CodePoint) : Bool :=
  isDigit c || c == ch '.' || c == ch 'e' || c == ch 'E' || c == ch '+' || c == ch '-'

def takeSign : Text → Text × Text
  | [] => ([], [])
  | c :: s => if c = ch '-' then ([c], s) else ([], c :: s)

def takeInteger : Text → Option (Text × Text)
  | [] => none
  | c :: s =>
      if c = ch '0' then some ([c], s)
      else if isDigit c then some (c :: s.takeWhile isDigit, s.dropWhile isDigit)
      else none

def takeFraction : Text → Text × Text
  | c :: d :: s =>
      if c = ch '.' ∧ isDigit d then (c :: d :: s.takeWhile isDigit, s.dropWhile isDigit)
      else ([], c :: d :: s)
  | s => ([], s)

def takeExponentSign : Text → Text × Text
  | [] => ([], [])
  | c :: s => if c = ch '+' ∨ c = ch '-' then ([c], s) else ([], c :: s)

def takeExponent : Text → Text × Text
  | [] => ([], [])
  | c :: s =>
      if c = ch 'e' ∨ c = ch 'E' then
        match (takeExponentSign s).2.takeWhile isDigit with
        | [] => ([], c :: s)
        | ds => (c :: (takeExponentSign s).1 ++ ds, (takeExponentSign s).2.dropWhile isDigit)
      else ([], c :: s)

/-- The longest number text at the head, whether it is a float, and what follows. -/
def scanNumber (s : Text) : Option (Text × Bool × Text) :=
  (takeInteger (takeSign s).2).map fun r =>
    let fraction := takeFraction r.2
    let exponent := takeExponent fraction.2
    ((takeSign s).1 ++ r.1 ++ fraction.1 ++ exponent.1,
      !(fraction.1.isEmpty && exponent.1.isEmpty), exponent.2)

def digitsValue (t : Text) : ℕ := t.foldl (fun n c => 10 * n + (c.val - 48)) 0

def intValue : Text → ℤ
  | [] => 0
  | c :: s => if c = ch '-' then -(digitsValue s : ℤ) else digitsValue (c :: s)

def natText (n : ℕ) : Text := (Nat.toDigits 10 n).map ch

def intText : ℤ → Text
  | .ofNat n => natText n
  | .negSucc n => ch '-' :: natText (n + 1)

/-- The conversions between floats and their texts. A float's `repr` is one of the three
constants or a float text that reads back to it. -/
structure FloatCodec (F : Type) where
  ofText : Text → F
  nan : F
  posInf : F
  negInf : F
  repr : F → Text
  repr_spec : ∀ x, (x = nan ∧ repr x = lit "NaN") ∨ (x = posInf ∧ repr x = lit "Infinity") ∨
    (x = negInf ∧ repr x = lit "-Infinity") ∨
    (ofText (repr x) = x ∧ scanNumber (repr x) = some (repr x, true, []))

/-! ## Strings -/

instance instNeZeroCodeUnit : NeZero 0x10000 := ⟨by decide⟩

/-- A unit of a string body: a code point, or a code unit written as `\uXXXX`. -/
inductive StrUnit where
  | plain (c : CodePoint)
  | escaped (n : Fin 0x10000)

def hexValue (c : CodePoint) : Option (Fin 16) :=
  if 48 ≤ c.val ∧ c.val ≤ 57 then some (Fin.ofNat 16 (c.val - 48))
  else if 97 ≤ c.val ∧ c.val ≤ 102 then some (Fin.ofNat 16 (c.val - 87))
  else if 65 ≤ c.val ∧ c.val ≤ 70 then some (Fin.ofNat 16 (c.val - 55))
  else none

def hexUnit (a b c d : CodePoint) : Option (Fin 0x10000) := do
  let a ← hexValue a
  let b ← hexValue b
  let c ← hexValue c
  let d ← hexValue d
  return Fin.ofNat 0x10000 (((a.val * 16 + b.val) * 16 + c.val) * 16 + d.val)

def simpleEscape (c : CodePoint) : Option CodePoint :=
  if c = ch '"' then some (ch '"')
  else if c = ch '\\' then some (ch '\\')
  else if c = ch '/' then some (ch '/')
  else if c = ch 'b' then some 8
  else if c = ch 'f' then some 12
  else if c = ch 'n' then some 10
  else if c = ch 'r' then some 13
  else if c = ch 't' then some 9
  else none

/-- The units up to the closing quote, and the text behind it. -/
def scanUnits : Text → Option (List StrUnit × Text)
  | [] => none
  | c :: s =>
      if c = ch '"' then some ([], s)
      else if c = ch '\\' then
        match s with
        | [] => none
        | e :: s' =>
            if e = ch 'u' then
              match s' with
              | h₁ :: h₂ :: h₃ :: h₄ :: s'' =>
                  match hexUnit h₁ h₂ h₃ h₄ with
                  | some n => (scanUnits s'').map fun r => (.escaped n :: r.1, r.2)
                  | none => none
              | _ => none
            else
              match simpleEscape e with
              | some x => (scanUnits s').map fun r => (.plain x :: r.1, r.2)
              | none => none
      else if c.val < 0x20 then none
      else (scanUnits s).map fun r => (.plain c :: r.1, r.2)

def isHighSurrogate (n : Fin 0x10000) : Bool := 0xD800 ≤ n.val && n.val ≤ 0xDBFF

def isLowSurrogate (n : Fin 0x10000) : Bool := 0xDC00 ≤ n.val && n.val ≤ 0xDFFF

def codeUnit (n : Fin 0x10000) : CodePoint := Fin.ofNat 0x110000 n.val

def surrogatePair (n m : Fin 0x10000) : CodePoint :=
  Fin.ofNat 0x110000 (0x10000 + (n.val - 0xD800) * 0x400 + (m.val - 0xDC00))

/-- Joins the units of a body. Only a low surrogate escape right behind a high one forms a
pair with it; `pending` is a high one whose successor has not been seen. -/
def joinUnits (pending : Option (Fin 0x10000)) : List StrUnit → Text
  | [] => (pending.map codeUnit).toList
  | .plain c :: us => (pending.map codeUnit).toList ++ c :: joinUnits none us
  | .escaped n :: us =>
      match pending with
      | some h =>
          if isLowSurrogate n then surrogatePair h n :: joinUnits none us
          else if isHighSurrogate n then codeUnit h :: joinUnits (some n) us
          else codeUnit h :: codeUnit n :: joinUnits none us
      | none =>
          if isHighSurrogate n then joinUnits (some n) us
          else codeUnit n :: joinUnits none us

def scanString (s : Text) : Option (Text × Text) :=
  (scanUnits s).map fun r => (joinUnits none r.1, r.2)

def hexDigit (n : ℕ) : CodePoint := if n < 10 then Fin.ofNat _ (48 + n) else Fin.ofNat _ (87 + n)

/-- `ensure_ascii=False`: only the quote, the backslash and control characters are escaped. -/
def escape (c : CodePoint) : Text :=
  if c = ch '"' then lit "\\\""
  else if c = ch '\\' then lit "\\\\"
  else if c = 10 then lit "\\n"
  else if c = 13 then lit "\\r"
  else if c = 9 then lit "\\t"
  else if c = 12 then lit "\\f"
  else if c = 8 then lit "\\b"
  else if c.val < 0x20 then lit "\\u00" ++ [hexDigit (c.val / 16), hexDigit (c.val % 16)]
  else [c]

def quote (t : Text) : Text := ch '"' :: t.flatMap escape ++ [ch '"']

/-! ## Scanning values -/

def isJsonSpace (c : CodePoint) : Bool := c.val == 32 || c.val == 9 || c.val == 10 || c.val == 13

def skipWs (s : Text) : Text := s.dropWhile isJsonSpace

/-- A reader of one `α` at the head of a text. -/
abbrev Scanner (α : Type) := Text → Option (α × Text)

/-- One or more items separated by commas, up to the closing delimiter. -/
def scanItems {α : Type} (item : Scanner α) (close : CodePoint) : ℕ → Scanner (List α)
  | 0, _ => none
  | fuel + 1, s =>
      match item s with
      | none => none
      | some (a, r) =>
          match skipWs r with
          | [] => none
          | c :: r' =>
              if c = close then some ([a], r')
              else if c = ch ',' then
                (scanItems item close fuel (skipWs r')).map fun x => (a :: x.1, x.2)
              else none

def scanMember {F : Type} (value : Scanner (Json F)) : Scanner (Text × Json F)
  | [] => none
  | c :: s =>
      if c = ch '"' then
        match scanString s with
        | none => none
        | some (k, r) =>
            match skipWs r with
            | [] => none
            | c' :: r' =>
                if c' = ch ':' then (value (skipWs r')).map fun x => ((k, x.1), x.2) else none
      else none

variable {F : Type} (fc : FloatCodec F)

/-- The words that stand for a value. -/
def constants : List (Text × Json F) :=
  [(lit "null", .null), (lit "true", .bool true), (lit "false", .bool false),
    (lit "NaN", .float fc.nan), (lit "Infinity", .float fc.posInf),
    (lit "-Infinity", .float fc.negInf)]

def scanConstant (s : Text) : Option (Json F × Text) :=
  ((constants fc).find? fun e => e.1.isPrefixOf s).map fun e => (e.2, s.drop e.1.length)

def numberValue (t : Text) (isFloat : Bool) : Json F :=
  if isFloat then .float (fc.ofText t) else .int (intValue t)

/-- A constant, or else a number. -/
def scanAtom (s : Text) : Option (Json F × Text) :=
  match scanConstant fc s with
  | some r => some r
  | none => (scanNumber s).map fun r => (numberValue fc r.1 r.2.1, r.2.2)

/-- Every nested value starts behind at least one code point, so the length of the text
bounds the fuel. -/
def scanOnce : ℕ → Scanner (Json F)
  | 0, _ => none
  | _ + 1, [] => none
  | fuel + 1, c :: s =>
      if c = ch '"' then (scanString s).map fun r => (.str r.1, r.2)
      else if c = ch '{' then
        match skipWs s with
        | [] => none
        | d :: s' =>
            if d = ch '}' then some (.obj [], s')
            else (scanItems (scanMember (scanOnce fuel)) (ch '}') (fuel + 1) (d :: s')).map
              fun r => (.obj (Dict.update [] r.1), r.2)
      else if c = ch '[' then
        match skipWs s with
        | [] => none
        | d :: s' =>
            if d = ch ']' then some (.arr [], s')
            else (scanItems (scanOnce fuel) (ch ']') (fuel + 1) (d :: s')).map
              fun r => (.arr r.1, r.2)
      else scanAtom fc (c :: s)

/-- `json.loads` on a string; `none` is the `JSONDecodeError`. -/
def loads (s : Text) : Option (Json F) :=
  if s.head? = some 0xFEFF then none
  else
    match scanOnce fc (s.length + 1) (skipWs s) with
    | none => none
    | some (v, r) => if skipWs r = [] then some v else none

/-! ## Printing -/

mutual

/-- `json.dumps` with `ensure_ascii=False` and the default separators. -/
def dumps : Json F → Text
  | .null => lit "null"
  | .bool b => if b then lit "true" else lit "false"
  | .int i => intText i
  | .float x => fc.repr x
  | .str t => quote t
  | .arr [] => lit "[]"
  | .arr (v :: vs) => ch '[' :: dumps v ++ dumpsElems vs
  | .obj [] => lit "\x7b\x7d"
  | .obj ((k, v) :: ms) => ch '{' :: quote k ++ lit ": " ++ dumps v ++ dumpsMembers ms

def dumpsElems : List (Json F) → Text
  | [] => [ch ']']
  | v :: vs => lit ", " ++ dumps v ++ dumpsElems vs

def dumpsMembers : List (Text × Json F) → Text
  | [] => [ch '}']
  | (k, v) :: ms => lit ", " ++ quote k ++ lit ": " ++ dumps v ++ dumpsMembers ms

end

mutual

/-- The values a dictionary can hold: the keys of every object are distinct. -/
def Json.Wf : Json F → Prop
  | .arr vs => WfElems vs
  | .obj ms => (Dict.keys ms).Nodup ∧ WfMembers ms
  | _ => True

def WfElems : List (Json F) → Prop
  | [] => True
  | v :: vs => v.Wf ∧ WfElems vs

def WfMembers : List (Text × Json F) → Prop
  | [] => True
  | (_, v) :: ms => v.Wf ∧ WfMembers ms

end

end PyJson
