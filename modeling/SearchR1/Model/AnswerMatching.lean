import SearchR1.Model.Runtime

/-! # Normalised answers

`normalize_answer` and `em_check` stand word for word in several files of the source. -/

namespace SearchR1

open PyText

def punctuation : Text := lit "!\"#$%&'()*+,-./:;<=>?@[\\]^_\x60\x7b|\x7d~"

def articles : List Text := [lit "a", lit "an", lit "the"]

variable {F : Type} (py : Python F)

def headIsWord (s : Text) : Bool := s.head?.any py.isWord

/-- The length of the first article that stands between word boundaries at the head. -/
def articleLength (previous : Bool) (s : Text) : Option ℕ :=
  if previous = headIsWord py s then none
  else (articles.find? fun w => w.isPrefixOf s &&
    (w.getLast?.any py.isWord != headIsWord py (s.drop w.length))).map List.length

/-- `re.sub(r"\b(a|an|the)\b", " ", text)`; `skip` code points belong to the article that
was replaced last. -/
def removeArticlesAux (previous : Bool) (skip : ℕ) : Text → Text
  | [] => []
  | c :: s =>
      match skip with
      | skip + 1 => removeArticlesAux (py.isWord c) skip s
      | 0 =>
          match articleLength py previous (c :: s) with
          | some n => ch ' ' :: removeArticlesAux (py.isWord c) (n - 1) s
          | none => c :: removeArticlesAux (py.isWord c) 0 s

def removeArticles (s : Text) : Text := removeArticlesAux py false 0 s

def removePunc (s : Text) : Text := s.filter fun c => !punctuation.contains c

/-- `" ".join(text.split())`. -/
def whiteSpaceFix (s : Text) : Text :=
  [ch ' '].intercalate ((s.splitOnP isSpace).filter fun w => !w.isEmpty)

def normalizeAnswer (s : Text) : Text :=
  whiteSpaceFix (removeArticles py (removePunc (py.lower s)))

def emCheck (prediction : Text) (goldenAnswers : List Text) : Bool :=
  goldenAnswers.any fun answer => normalizeAnswer py answer = normalizeAnswer py prediction

end SearchR1
