import SearchR1.Library.Json
import Mathlib.Data.List.Find

/-! # What the JSON scanners consume

A scanner that succeeds has read a nonempty piece of text with no space at either end, and
reads the same piece when more text follows. -/

namespace PyJson

open PyText

/-! ## Solid pieces of text -/

/-- A nonempty text without a space at either end. -/
structure Solid (t : Text) : Prop where
  ne_nil : t ≠ []
  head : ∀ c ∈ t.head?, isSpace c = false
  last : ∀ c ∈ t.getLast?, isSpace c = false

theorem solid_of_forall {t : Text} (hne : t ≠ []) (h : ∀ c ∈ t, isSpace c = false) :
    Solid t :=
  ⟨hne, fun c hc => h c (List.mem_of_mem_head? hc), fun c hc => h c (List.mem_of_getLast? hc)⟩

theorem solid_singleton {c : CodePoint} (h : isSpace c = false) : Solid [c] :=
  solid_of_forall (by simp) (by simpa using h)

theorem Solid.join {a b : Text} (ha : Solid a) (m : Text) (hb : Solid b) :
    Solid (a ++ m ++ b) := by
  refine ⟨by simp [ha.ne_nil], ?_, ?_⟩
  · intro c hc
    apply ha.head c
    cases a with
    | nil => exact absurd rfl ha.ne_nil
    | cons x a => simpa using hc
  · intro c hc
    apply hb.last c
    rwa [List.getLast?_append_of_ne_nil _ hb.ne_nil] at hc

theorem Solid.append_closed {a : Text} (ha : Solid a) (m : Text) {c : CodePoint}
    (hc : isSpace c = false) : Solid (a ++ m ++ [c]) :=
  ha.join m (solid_singleton hc)

/-! ## Scanners -/

/-- What a scanner read whose item goes through a constructor. -/
theorem map_item_eq_some {α β : Type} (f : α → β) {o : Option (α × Text)} {b : β} {r : Text}
    (h : (o.map fun x => (f x.1, x.2)) = some (b, r)) : ∃ a, o = some (a, r) ∧ b = f a := by
  rcases Option.map_eq_some_iff.mp h with ⟨⟨a, r'⟩, ho, heq⟩
  simp only [Prod.mk.injEq] at heq
  exact ⟨a, by rw [ho, heq.2], heq.1.symm⟩

/-- A scanner that has read a solid piece whenever it succeeds. -/
def Consumes {α : Type} (p : Scanner α) : Prop :=
  ∀ s a r, p s = some (a, r) → ∃ t, s = t ++ r ∧ Solid t

theorem Consumes.length_lt {α : Type} {p : Scanner α} (hp : Consumes p) {s : Text} {a : α}
    {r : Text} (h : p s = some (a, r)) : r.length < s.length := by
  obtain ⟨t, rfl, ht⟩ := hp s a r h
  have := List.length_pos_of_ne_nil ht.ne_nil
  rw [List.length_append]
  omega

/-! ## Following text -/

/-- The text does not continue a number. -/
def Stop (t : Text) : Prop := ∀ c ∈ t.head?, isNumberChar c = false

@[simp] theorem stop_nil : Stop [] := by simp [Stop]

theorem stop_cons {c : CodePoint} {t : Text} (h : isNumberChar c = false) : Stop (c :: t) := by
  simpa [Stop] using h

/-- A scanner that reads the same piece when `t` follows, unless it may run on into `t`. -/
def Extends {α : Type} (p : Scanner α) : Prop :=
  ∀ s a r t, p s = some (a, r) → Stop (r ++ t) → p (s ++ t) = some (a, r ++ t)

def ExtendsFreely {α : Type} (p : Scanner α) : Prop :=
  ∀ s a r t, p s = some (a, r) → p (s ++ t) = some (a, r ++ t)

/-! ## White space -/

theorem isSpace_of_isJsonSpace {c : CodePoint} (h : isJsonSpace c) : isSpace c := by
  simp only [isJsonSpace, Bool.or_eq_true, beq_iff_eq] at h
  rcases h with ((h | h) | h) | h <;> simp [isSpace, h]

theorem isNumberChar_false_of_isJsonSpace {c : CodePoint} (h : isJsonSpace c) :
    isNumberChar c = false := by
  simp only [isJsonSpace, Bool.or_eq_true, beq_iff_eq] at h
  rcases h with ((h | h) | h) | h
  · obtain rfl : c = 32 := Fin.ext h
    decide
  · obtain rfl : c = 9 := Fin.ext h
    decide
  · obtain rfl : c = 10 := Fin.ext h
    decide
  · obtain rfl : c = 13 := Fin.ext h
    decide

theorem skipWs_append_of_cons {s r : Text} {c : CodePoint} (h : skipWs s = c :: r) (t : Text) :
    skipWs (s ++ t) = c :: (r ++ t) := by
  induction s with
  | nil => cases h
  | cons d s ih =>
      simp only [skipWs, List.cons_append] at h ih ⊢
      by_cases hd : isJsonSpace d
      · rw [List.dropWhile_cons_of_pos hd] at h ⊢
        exact ih h
      · rw [List.dropWhile_cons_of_neg hd] at h ⊢
        obtain ⟨rfl, rfl⟩ := List.cons.inj h
        rfl

/-- White space before something that was read ends where that begins. -/
theorem Consumes.skipWs_append {α : Type} {p : Scanner α} (hp : Consumes p) {s r : Text} {a : α}
    (h : p (skipWs s) = some (a, r)) (t : Text) : skipWs (s ++ t) = skipWs s ++ t := by
  cases hs : skipWs s with
  | nil =>
      have hlt := hp.length_lt h
      simp [hs] at hlt
  | cons d s' => rw [skipWs_append_of_cons hs t, List.cons_append]

theorem skipWs_decompose (s : Text) : ∃ w, s = w ++ skipWs s ∧ ∀ c ∈ w, isJsonSpace c :=
  ⟨s.takeWhile isJsonSpace, (List.takeWhile_append_dropWhile).symm,
    fun _ hc => List.mem_takeWhile_imp hc⟩

theorem skipWs_length_le (s : Text) : (skipWs s).length ≤ s.length :=
  (List.dropWhile_suffix _).length_le

theorem skipWs_of_head {c : CodePoint} {s : Text} (h : isJsonSpace c = false) :
    skipWs (c :: s) = c :: s := by
  simp [skipWs, h]

/-- What follows an item that is followed by a delimiter does not continue a number. -/
theorem stop_of_skipWs_cons {r r' : Text} {c : CodePoint} (h : skipWs r = c :: r')
    (hc : isNumberChar c = false) (t : Text) : Stop (r ++ t) := by
  cases r with
  | nil => cases h
  | cons d r =>
      apply stop_cons
      by_cases hd : isJsonSpace d
      · exact isNumberChar_false_of_isJsonSpace hd
      · simp only [skipWs, List.dropWhile_cons_of_neg hd, List.cons.injEq] at h
        rw [h.1]
        exact hc

/-! ## Strings -/

theorem scanUnits_quote (s : Text) : scanUnits (ch '"' :: s) = some ([], s) := by
  rw [scanUnits.eq_def]
  rfl

theorem scanUnits_hex {a b c d : CodePoint} {n : Fin 0x10000} (h : hexUnit a b c d = some n)
    (s : Text) : scanUnits (ch '\\' :: ch 'u' :: a :: b :: c :: d :: s) =
      (scanUnits s).map fun r => (.escaped n :: r.1, r.2) := by
  have hq : ch '\\' ≠ ch '"' := by decide
  rw [scanUnits.eq_def]
  simp [h, hq]

theorem scanUnits_escape {e x : CodePoint} (he : e ≠ ch 'u') (h : simpleEscape e = some x)
    (s : Text) : scanUnits (ch '\\' :: e :: s) =
      (scanUnits s).map fun r => (.plain x :: r.1, r.2) := by
  have hq : ch '\\' ≠ ch '"' := by decide
  rw [scanUnits.eq_def]
  simp [h, he, hq]

theorem scanUnits_plain {c : CodePoint} (hq : c ≠ ch '"') (hb : c ≠ ch '\\')
    (hc : ¬ c.val < 0x20) (s : Text) : scanUnits (c :: s) =
      (scanUnits s).map fun r => (.plain c :: r.1, r.2) := by
  rw [scanUnits.eq_def]
  simp only [hq, hb, hc, ite_false]

/-- How a successful scan of a string body goes on. -/
inductive UnitsDerivation : Text → List StrUnit → Text → Prop where
  | stop (s) : UnitsDerivation (ch '"' :: s) [] s
  | hex {a b c d n s us r} (h : hexUnit a b c d = some n) : UnitsDerivation s us r →
      UnitsDerivation (ch '\\' :: ch 'u' :: a :: b :: c :: d :: s) (.escaped n :: us) r
  | escape {e x s us r} (he : e ≠ ch 'u') (h : simpleEscape e = some x) :
      UnitsDerivation s us r → UnitsDerivation (ch '\\' :: e :: s) (.plain x :: us) r
  | plain {c s us r} (hq : c ≠ ch '"') (hb : c ≠ ch '\\') (hc : ¬ c.val < 0x20) :
      UnitsDerivation s us r → UnitsDerivation (c :: s) (.plain c :: us) r

theorem scanUnits_derivation {s : Text} {us : List StrUnit} {r : Text}
    (h : scanUnits s = some (us, r)) : UnitsDerivation s us r := by
  fun_induction scanUnits s generalizing us r with
  | case1 => cases h
  | case2 s =>
      obtain ⟨rfl, rfl⟩ : [] = us ∧ s = r := by simpa using h
      exact .stop s
  | case3 => cases h
  | case4 h₁ h₂ h₃ h₄ s n hn hc ih =>
      rcases map_item_eq_some (StrUnit.escaped n :: ·) h with ⟨us', hs, rfl⟩
      exact .hex hn (ih hs)
  | case5 => cases h
  | case6 => cases h
  | case7 e s he x hx hc ih =>
      rcases map_item_eq_some (StrUnit.plain x :: ·) h with ⟨us', hs, rfl⟩
      exact .escape he hx (ih hs)
  | case8 => cases h
  | case9 => cases h
  | case10 c s hq hb hc ih =>
      rcases map_item_eq_some (StrUnit.plain c :: ·) h with ⟨us', hs, rfl⟩
      exact .plain hq hb hc (ih hs)

theorem UnitsDerivation.append {s r : Text} {us : List StrUnit}
    (h : UnitsDerivation s us r) : ∃ t, s = t ++ ch '"' :: r := by
  induction h with
  | stop s => exact ⟨[], rfl⟩
  | @hex a b c d n s us r h _ ih =>
      obtain ⟨t, rfl⟩ := ih
      exact ⟨ch '\\' :: ch 'u' :: a :: b :: c :: d :: t, rfl⟩
  | @escape e x s us r he h _ ih =>
      obtain ⟨t, rfl⟩ := ih
      exact ⟨ch '\\' :: e :: t, rfl⟩
  | @plain c s us r hq hb hc _ ih =>
      obtain ⟨t, rfl⟩ := ih
      exact ⟨c :: t, rfl⟩

theorem UnitsDerivation.scan_append {s r : Text} {us : List StrUnit}
    (h : UnitsDerivation s us r) (t : Text) : scanUnits (s ++ t) = some (us, r ++ t) := by
  induction h with
  | stop s => exact scanUnits_quote (s ++ t)
  | hex h _ ih =>
      simp only [List.cons_append]
      rw [scanUnits_hex h, ih]
      rfl
  | escape he h _ ih =>
      simp only [List.cons_append]
      rw [scanUnits_escape he h, ih]
      rfl
  | plain hq hb hc _ ih =>
      rw [List.cons_append, scanUnits_plain hq hb hc, ih]
      rfl

theorem scanUnits_extendsFreely : ExtendsFreely scanUnits :=
  fun _ _ _ t h => (scanUnits_derivation h).scan_append t

theorem scanString_append {s k r : Text} (h : scanString s = some (k, r)) :
    ∃ t, s = t ++ ch '"' :: r := by
  rcases map_item_eq_some (joinUnits none) h with ⟨us, hs, -⟩
  exact (scanUnits_derivation hs).append

theorem scanString_extendsFreely : ExtendsFreely scanString := by
  intro s k r t h
  rcases map_item_eq_some (joinUnits none) h with ⟨us, hs, rfl⟩
  rw [scanString, scanUnits_extendsFreely s us r t hs]
  rfl

/-! ## Numbers -/

theorem isSpace_false_of_isNumberChar {c : CodePoint} (h : isNumberChar c) :
    isSpace c = false := by
  simp only [isNumberChar, isDigit, Bool.or_eq_true, Bool.and_eq_true, decide_eq_true_eq,
    beq_iff_eq] at h
  rcases h with ((((h | rfl) | rfl) | rfl) | rfl) | rfl
  · simp only [isSpace, Bool.or_eq_false_iff, Bool.and_eq_false_iff, decide_eq_false_iff_not,
      beq_eq_false_iff_ne]
    omega
  all_goals decide

theorem isNumberChar_of_isDigit {c : CodePoint} (h : isDigit c) : isNumberChar c := by
  simp [isNumberChar, h]

theorem span_digits_append (s t : Text) (h : s.dropWhile isDigit = [] → Stop t) :
    (s ++ t).takeWhile isDigit = s.takeWhile isDigit ∧
      (s ++ t).dropWhile isDigit = s.dropWhile isDigit ++ t := by
  induction s with
  | nil =>
      cases t with
      | nil => simp
      | cons c t =>
          have hc : isDigit c = false := by
            by_contra hd
            have hn := h rfl c rfl
            rw [isNumberChar_of_isDigit (by simpa using hd)] at hn
            cases hn
          simp [hc]
  | cons c s ih =>
      by_cases hc : isDigit c
      · have h' : s.dropWhile isDigit = [] → Stop t := by
          intro hs
          apply h
          rw [List.dropWhile_cons_of_pos hc, hs]
        simp [hc, (ih h').1, (ih h').2]
      · simp [hc]

theorem takeSign_eq (s : Text) :
    s = (takeSign s).1 ++ (takeSign s).2 ∧ ∀ c ∈ (takeSign s).1, isNumberChar c := by
  cases s with
  | nil => simp [takeSign]
  | cons c s =>
      by_cases hc : c = ch '-'
      · subst hc
        refine ⟨by simp [takeSign], ?_⟩
        intro d hd
        simp only [takeSign, ite_true, List.mem_singleton] at hd
        subst hd
        decide
      · simp [takeSign, hc]

theorem takeInteger_eq {s t r : Text} (h : takeInteger s = some (t, r)) :
    s = t ++ r ∧ t ≠ [] ∧ ∀ c ∈ t, isDigit c := by
  cases s with
  | nil => cases h
  | cons c s =>
      simp only [takeInteger] at h
      split at h
      · rename_i hc
        obtain ⟨rfl, rfl⟩ : [c] = t ∧ s = r := by simpa using h
        refine ⟨rfl, by simp, ?_⟩
        intro d hd
        simp only [List.mem_singleton] at hd
        subst hd
        subst hc
        decide
      · split at h
        · rename_i hc
          obtain ⟨rfl, rfl⟩ : _ ∧ s.dropWhile isDigit = r := by simpa using h
          refine ⟨by simp, by simp, ?_⟩
          intro d hd
          rcases List.mem_cons.mp hd with rfl | hd
          · exact hc
          · exact List.mem_takeWhile_imp hd
        · cases h

theorem takeFraction_eq (s : Text) :
    s = (takeFraction s).1 ++ (takeFraction s).2 ∧
      ∀ c ∈ (takeFraction s).1, isNumberChar c := by
  fun_cases takeFraction s with
  | case1 c d s h =>
      refine ⟨by simp [h], ?_⟩
      intro x hx
      simp only [List.mem_cons] at hx
      rcases hx with rfl | rfl | hx
      · rw [h.1]
        decide
      · exact isNumberChar_of_isDigit h.2
      · exact isNumberChar_of_isDigit (List.mem_takeWhile_imp hx)
  | case2 => simp
  | case3 => simp

theorem takeExponentSign_eq (s : Text) :
    s = (takeExponentSign s).1 ++ (takeExponentSign s).2 ∧
      ∀ c ∈ (takeExponentSign s).1, isNumberChar c := by
  cases s with
  | nil => simp [takeExponentSign]
  | cons c s =>
      by_cases hc : c = ch '+' ∨ c = ch '-'
      · refine ⟨by simp [takeExponentSign, hc], ?_⟩
        intro d hd
        simp only [takeExponentSign, hc, ite_true, List.mem_singleton] at hd
        subst hd
        rcases hc with rfl | rfl <;> decide
      · simp [takeExponentSign, hc]

theorem takeExponent_eq (s : Text) :
    s = (takeExponent s).1 ++ (takeExponent s).2 ∧
      ∀ c ∈ (takeExponent s).1, isNumberChar c := by
  fun_cases takeExponent s with
  | case1 => simp
  | case2 => simp
  | case3 c s hc hds =>
      have hs := takeExponentSign_eq s
      have hspan := List.takeWhile_append_dropWhile (p := isDigit)
        (l := (takeExponentSign s).2)
      refine ⟨?_, ?_⟩
      · simp only [List.cons_append, List.append_assoc]
        rw [hspan, ← hs.1]
      · intro x hx
        simp only [List.cons_append, List.mem_cons, List.mem_append] at hx
        rcases hx with rfl | hx | hx
        · rcases hc with rfl | rfl <;> decide
        · exact hs.2 x hx
        · exact isNumberChar_of_isDigit (List.mem_takeWhile_imp hx)
  | case4 => simp

theorem takeSign_append {s : Text} (hs : s ≠ []) (t : Text) :
    takeSign (s ++ t) = ((takeSign s).1, (takeSign s).2 ++ t) := by
  cases s with
  | nil => exact absurd rfl hs
  | cons c s =>
      by_cases hc : c = ch '-' <;> simp [takeSign, hc]

theorem takeInteger_append {s a r : Text} (h : takeInteger s = some (a, r)) (t : Text)
    (hstop : r = [] → Stop t) : takeInteger (s ++ t) = some (a, r ++ t) := by
  cases s with
  | nil => cases h
  | cons c s =>
      simp only [takeInteger, List.cons_append] at h ⊢
      split at h
      · rename_i hc
        obtain ⟨rfl, rfl⟩ : [c] = a ∧ s = r := by simpa using h
        simp [hc]
      · rename_i hc
        split at h
        · rename_i hd
          obtain ⟨rfl, rfl⟩ : _ ∧ s.dropWhile isDigit = r := by simpa using h
          have hspan := span_digits_append s t hstop
          simp [hc, hd, hspan.1, hspan.2]
        · cases h

theorem takeFraction_append (s t : Text) (hstop : (takeFraction s).2 = [] → Stop t)
    (hdot : ∀ u, (takeFraction s).2 ≠ ch '.' :: u) :
    takeFraction (s ++ t) = ((takeFraction s).1, (takeFraction s).2 ++ t) := by
  fun_cases takeFraction s with
  | case1 c d s h =>
      have hspan := span_digits_append s t (by simpa [takeFraction, h] using hstop)
      simp [takeFraction, h, hspan.1, hspan.2]
  | case2 c d s h => simp [takeFraction, h]
  | case3 s hs =>
      -- at most one code point is left, and it is not the point of a fraction
      match s, hs with
      | [], _ =>
          have ht : Stop t := hstop rfl
          match t with
          | [] => rfl
          | [c] => rfl
          | c :: d :: t =>
              have hc : c ≠ ch '.' := by
                rintro rfl
                have hn := ht (ch '.') rfl
                revert hn
                decide
              simp [takeFraction, hc]
      | [c], _ =>
          have hc : c ≠ ch '.' := fun hc => hdot [] (by simp [takeFraction, hc])
          match t with
          | [] => rfl
          | d :: t => simp [takeFraction, hc]
      | c :: d :: s, hs => exact absurd rfl (hs c d s)

theorem takeExponent_append (s t : Text) (hstop : Stop ((takeExponent s).2 ++ t)) :
    takeExponent (s ++ t) = ((takeExponent s).1, (takeExponent s).2 ++ t) := by
  cases s with
  | nil =>
      cases t with
      | nil => rfl
      | cons c t =>
          have hc : ¬ (c = ch 'e' ∨ c = ch 'E') := by
            have hn := hstop c rfl
            rintro (rfl | rfl) <;> revert hn <;> decide
          simp [takeExponent, hc]
  | cons c s =>
      by_cases hc : c = ch 'e' ∨ c = ch 'E'
      · cases hds : (takeExponentSign s).2.takeWhile isDigit with
        | nil =>
            -- an exponent mark without digits would be left to continue the number
            exfalso
            have hn := hstop c (by simp [takeExponent, hc, hds])
            revert hn
            rcases hc with rfl | rfl <;> decide
        | cons d ds =>
            have hne : s ≠ [] := by
              rintro rfl
              simp [takeExponentSign] at hds
            have hsign : takeExponentSign (s ++ t) =
                ((takeExponentSign s).1, (takeExponentSign s).2 ++ t) := by
              cases s with
              | nil => exact absurd rfl hne
              | cons e s => by_cases he : e = ch '+' ∨ e = ch '-' <;> simp [takeExponentSign, he]
            have hspan := span_digits_append (takeExponentSign s).2 t (by
              intro hr
              simpa [takeExponent, hc, hds, hr] using hstop)
            simp [takeExponent, hc, hds, hsign, hspan.1, hspan.2]
      · simp [takeExponent, hc]

theorem scanNumber_cases {s t r : Text} {b : Bool} (h : scanNumber s = some (t, b, r)) :
    ∃ n r₁, takeInteger (takeSign s).2 = some (n, r₁) ∧
      t = (takeSign s).1 ++ n ++ (takeFraction r₁).1 ++ (takeExponent (takeFraction r₁).2).1 ∧
      b = !((takeFraction r₁).1.isEmpty && (takeExponent (takeFraction r₁).2).1.isEmpty) ∧
      r = (takeExponent (takeFraction r₁).2).2 := by
  simp only [scanNumber, Option.map_eq_some_iff] at h
  obtain ⟨⟨n, r₁⟩, hint, heq⟩ := h
  simp only [Prod.mk.injEq] at heq
  exact ⟨n, r₁, hint, heq.1.symm, heq.2.1.symm, heq.2.2.symm⟩

theorem scanNumber_eq {s t r : Text} {b : Bool} (h : scanNumber s = some (t, b, r)) :
    s = t ++ r ∧ t ≠ [] ∧ ∀ c ∈ t, isNumberChar c := by
  obtain ⟨n, r₁, hint, rfl, -, rfl⟩ := scanNumber_cases h
  obtain ⟨hn, hne, hdigits⟩ := takeInteger_eq hint
  have hsign := takeSign_eq s
  have hfrac := takeFraction_eq r₁
  have hexp := takeExponent_eq (takeFraction r₁).2
  refine ⟨?_, by simp [hne], ?_⟩
  · simp only [List.append_assoc]
    rw [← hexp.1, ← hfrac.1, ← hn]
    exact hsign.1
  · intro c hc
    simp only [List.mem_append] at hc
    rcases hc with ((hc | hc) | hc) | hc
    · exact hsign.2 c hc
    · exact isNumberChar_of_isDigit (hdigits c hc)
    · exact hfrac.2 c hc
    · exact hexp.2 c hc

theorem scanNumber_append {s t r : Text} {b : Bool} (h : scanNumber s = some (t, b, r))
    (u : Text) (hstop : Stop (r ++ u)) : scanNumber (s ++ u) = some (t, b, r ++ u) := by
  have hs : s ≠ [] := by
    rintro rfl
    cases h
  obtain ⟨n, r₁, hint, rfl, rfl, rfl⟩ := scanNumber_cases h
  have hexp := takeExponent_append _ u hstop
  have hend : (takeFraction r₁).2 = [] → Stop u := by
    intro hr
    simpa [hr, takeExponent] using hstop
  have hdot : ∀ v, (takeFraction r₁).2 ≠ ch '.' :: v := by
    intro v hv
    have hne : ¬ (ch '.' = ch 'e' ∨ ch '.' = ch 'E') := by decide
    have hn := hstop (ch '.') (by simp [hv, takeExponent, hne])
    revert hn
    decide
  have hfrac := takeFraction_append r₁ u hend hdot
  have hrest : r₁ = [] → Stop u := by
    rintro rfl
    exact hend rfl
  have hint' := takeInteger_append hint u hrest
  simp [scanNumber, takeSign_append hs u, hint', hfrac, hexp]

/-! ## Items between delimiters -/

section Items

variable {α : Type} {item : Scanner α} {close : CodePoint}

/-- The ways a list of items goes on, once for all proofs about it. -/
theorem scanItems_cases {fuel : ℕ} {s : Text} {as : List α} {r : Text}
    (h : scanItems item close (fuel + 1) s = some (as, r)) :
    ∃ a r₁ c r₂, item s = some (a, r₁) ∧ skipWs r₁ = c :: r₂ ∧
      ((c = close ∧ as = [a] ∧ r = r₂) ∨
        (c ≠ close ∧ c = ch ',' ∧ ∃ as', as = a :: as' ∧
          scanItems item close fuel (skipWs r₂) = some (as', r))) := by
  simp only [scanItems] at h
  cases hitem : item s with
  | none => simp [hitem] at h
  | some x =>
      obtain ⟨a, r₁⟩ := x
      simp only [hitem] at h
      cases hws : skipWs r₁ with
      | nil => simp [hws] at h
      | cons c r₂ =>
          simp only [hws] at h
          refine ⟨a, r₁, c, r₂, rfl, hws, ?_⟩
          by_cases hc : c = close
          · simp only [hc, ite_true, Option.some.injEq, Prod.mk.injEq] at h
            exact .inl ⟨hc, h.1.symm, h.2.symm⟩
          · simp only [hc, ite_false] at h
            by_cases hcomma : c = ch ','
            · simp only [hcomma, ite_true] at h
              rcases map_item_eq_some (a :: ·) h with ⟨as', hrest, rfl⟩
              exact .inr ⟨hc, hcomma, as', rfl, hrest⟩
            · simp [hcomma] at h

theorem scanItems_consumes (hitem : Consumes item) (hclose : isSpace close = false)
    (fuel : ℕ) : Consumes (scanItems item close fuel) := by
  induction fuel with
  | zero =>
      intro s as r h
      cases h
  | succ fuel ih =>
      intro s as r h
      obtain ⟨a, r₁, c, r₂, ha, hws, hcase⟩ := scanItems_cases h
      obtain ⟨t₁, rfl, ht₁⟩ := hitem s a r₁ ha
      obtain ⟨w, hw, -⟩ := skipWs_decompose r₁
      rw [hws] at hw
      rcases hcase with ⟨rfl, -, rfl⟩ | ⟨-, -, as', -, hrest⟩
      · refine ⟨t₁ ++ w ++ [c], ?_, ht₁.append_closed w hclose⟩
        rw [hw]
        simp
      · obtain ⟨t₂, ht₂, hsolid⟩ := ih _ _ _ hrest
        obtain ⟨w', hw', -⟩ := skipWs_decompose r₂
        refine ⟨t₁ ++ (w ++ c :: w') ++ t₂, ?_, ht₁.join _ hsolid⟩
        rw [hw, hw', ht₂]
        simp

theorem scanItems_extendsFreely (hcons : Consumes item) (hitem : Extends item)
    (hspace : isSpace close = false) (hclose : isNumberChar close = false)
    (fuel : ℕ) : ExtendsFreely (scanItems item close fuel) := by
  induction fuel with
  | zero =>
      intro s as r t h
      cases h
  | succ fuel ih =>
      intro s as r t h
      obtain ⟨a, r₁, c, r₂, ha, hws, hcase⟩ := scanItems_cases h
      have hc : isNumberChar c = false := by
        rcases hcase with ⟨rfl, -⟩ | ⟨-, rfl, -⟩
        · exact hclose
        · decide
      have ha' := hitem s a r₁ t ha (stop_of_skipWs_cons hws hc t)
      have hws' := skipWs_append_of_cons hws t
      rcases hcase with ⟨rfl, rfl, rfl⟩ | ⟨hne, rfl, as', rfl, hrest⟩
      · simp [scanItems, ha', hws']
      · have hrest' := ih _ _ _ t hrest
        have hskip := (scanItems_consumes hcons hspace fuel).skipWs_append hrest t
        simp [scanItems, ha', hws', hne, hskip, hrest']

end Items

/-! ## Constants, members and values -/

section Values

variable {F : Type} (fc : FloatCodec F)

theorem isSpace_false_of_mem_constants {e : Text × Json F} (he : e ∈ constants fc) :
    e.1 ≠ [] ∧ ∀ c ∈ e.1, isSpace c = false := by
  have hall : (constants fc).all fun e => !e.1.isEmpty && e.1.all fun c => !isSpace c := rfl
  have h := List.all_eq_true.mp hall e he
  simpa using h

theorem scanConstant_cases {s r : Text} {v : Json F} (h : scanConstant fc s = some (v, r)) :
    ∃ w, (w, v) ∈ constants fc ∧ s = w ++ r := by
  simp only [scanConstant, Option.map_eq_some_iff] at h
  obtain ⟨⟨w, v'⟩, hfind, heq⟩ := h
  obtain ⟨rfl, rfl⟩ : v' = v ∧ s.drop w.length = r := by simpa using heq
  have hpre := List.find?_some hfind
  obtain ⟨t, rfl⟩ := List.isPrefixOf_iff_prefix.mp hpre
  exact ⟨w, List.mem_of_find?_eq_some hfind, by simp⟩

theorem scanConstant_consumes : Consumes (scanConstant fc) := by
  intro s v r h
  obtain ⟨w, hw, rfl⟩ := scanConstant_cases fc h
  obtain ⟨hne, hall⟩ := isSpace_false_of_mem_constants fc hw
  exact ⟨w, rfl, solid_of_forall hne hall⟩

theorem scanAtom_consumes : Consumes (scanAtom fc) := by
  intro s v r h
  simp only [scanAtom] at h
  cases hc : scanConstant fc s with
  | some x =>
      simp only [hc, Option.some.injEq] at h
      exact scanConstant_consumes fc s v r (hc.trans (congrArg some h))
  | none =>
      simp only [hc, Option.map_eq_some_iff] at h
      obtain ⟨⟨t, b, r'⟩, hn, heq⟩ := h
      obtain ⟨-, rfl⟩ : _ ∧ r' = r := by simpa using heq
      obtain ⟨rfl, hne, hall⟩ := scanNumber_eq hn
      exact ⟨t, rfl, solid_of_forall hne fun c hc => isSpace_false_of_isNumberChar (hall c hc)⟩

/-- No constant begins another one. -/
theorem eq_of_isPrefix_of_mem_constants {e e' : Text × Json F} (he : e ∈ constants fc)
    (he' : e' ∈ constants fc) (h : e.1 <+: e'.1) : e.1 = e'.1 := by
  have hall : ∀ w ∈ (constants fc).map Prod.fst, ∀ w' ∈ (constants fc).map Prod.fst,
      w.isPrefixOf w' → w = w' := by
    simp only [constants, List.map_cons, List.map_nil]
    decide
  exact hall _ (List.mem_map_of_mem he) _ (List.mem_map_of_mem he')
    (List.isPrefixOf_iff_prefix.mpr h)

theorem scanConstant_extendsFreely : ExtendsFreely (scanConstant fc) := by
  intro s v r t h
  simp only [scanConstant, Option.map_eq_some_iff] at h ⊢
  obtain ⟨e, hfind, heq⟩ := h
  simp only [Prod.mk.injEq] at heq
  obtain ⟨rfl, rfl⟩ := heq
  have hpre : e.1 <+: s := by
    have h := List.find?_some hfind
    exact List.isPrefixOf_iff_prefix.mp h
  have hmem := List.mem_of_find?_eq_some hfind
  refine ⟨e, ?_, by rw [List.drop_append_of_le_length hpre.length_le]⟩
  rw [← hfind]
  apply List.find?_congr
  intro e' he'
  rw [Bool.eq_iff_iff, List.isPrefixOf_iff_prefix, List.isPrefixOf_iff_prefix]
  constructor
  · intro h'
    -- both constants begin the longer text, so one begins the other
    rcases List.prefix_or_prefix_of_prefix h' (hpre.trans (List.prefix_append s t)) with h | h
    · exact (eq_of_isPrefix_of_mem_constants fc he' hmem h) ▸ hpre
    · exact (eq_of_isPrefix_of_mem_constants fc hmem he' h) ▸ hpre
  · intro h'
    exact h'.trans (List.prefix_append s t)

theorem scanConstant_of_scanNumber {s t r : Text} {b : Bool}
    (h : scanNumber s = some (t, b, r)) : scanConstant fc s = none := by
  cases hc : scanConstant fc s with
  | none => rfl
  | some x =>
      obtain ⟨v, r'⟩ := x
      obtain ⟨w, hw, rfl⟩ := scanConstant_cases fc hc
      obtain ⟨n, r₁, hint, -⟩ := scanNumber_cases h
      have hall : ∀ e ∈ constants fc, takeInteger (takeSign (e.1 ++ r')).2 = none := by
        simp only [constants, List.forall_mem_cons]
        refine ⟨rfl, rfl, rfl, rfl, rfl, rfl, by simp⟩
      rw [hall _ hw] at hint
      cases hint

theorem scanAtom_extends : Extends (scanAtom fc) := by
  intro s v r t h hstop
  simp only [scanAtom] at h ⊢
  cases hc : scanConstant fc s with
  | some x =>
      simp only [hc, Option.some.injEq] at h
      rw [scanConstant_extendsFreely fc s v r t (hc.trans (congrArg some h))]
  | none =>
      simp only [hc, Option.map_eq_some_iff] at h
      obtain ⟨⟨n, b, r'⟩, hn, heq⟩ := h
      obtain ⟨rfl, rfl⟩ : numberValue fc n b = v ∧ r' = r := by simpa using heq
      have hn' := scanNumber_append hn t hstop
      rw [scanConstant_of_scanNumber fc hn', hn']
      rfl

variable {value : Scanner (Json F)}

theorem scanMember_cases {s : Text} {m : Text × Json F} {r : Text}
    (h : scanMember value s = some (m, r)) :
    ∃ s' r₁ r₂, s = ch '"' :: s' ∧ scanString s' = some (m.1, r₁) ∧
      skipWs r₁ = ch ':' :: r₂ ∧ value (skipWs r₂) = some (m.2, r) := by
  cases s with
  | nil => cases h
  | cons c s =>
      simp only [scanMember] at h
      by_cases hc : c = ch '"'
      · cases hs : scanString s with
        | none => simp [hc, hs] at h
        | some x =>
            obtain ⟨k, r₁⟩ := x
            cases hws : skipWs r₁ with
            | nil => simp [hc, hs, hws] at h
            | cons c' r₂ =>
                by_cases hc' : c' = ch ':'
                · simp only [hc, hs, hws, hc', ite_true] at h
                  rcases map_item_eq_some (Prod.mk k) h with ⟨v, hv, rfl⟩
                  exact ⟨s, r₁, r₂, by rw [hc], hs, by rw [hws, hc'], hv⟩
                · simp [hc, hs, hws, hc'] at h
      · simp [hc] at h

theorem scanMember_consumes (hvalue : Consumes value) : Consumes (scanMember value) := by
  intro s m r h
  obtain ⟨s', r₁, r₂, rfl, hs, hws, hv⟩ := scanMember_cases h
  obtain ⟨t₁, rfl⟩ := scanString_append hs
  obtain ⟨w₁, hw₁, -⟩ := skipWs_decompose r₁
  obtain ⟨w₂, hw₂, -⟩ := skipWs_decompose r₂
  obtain ⟨t₂, ht₂, hsolid⟩ := hvalue _ _ _ hv
  have hquote : Solid [ch '"'] := solid_singleton (by decide)
  refine ⟨[ch '"'] ++ (t₁ ++ ch '"' :: (w₁ ++ ch ':' :: w₂)) ++ t₂, ?_, hquote.join _ hsolid⟩
  rw [hw₁, hws, hw₂, ht₂]
  simp

theorem scanMember_extends (hcons : Consumes value) (hvalue : Extends value) :
    Extends (scanMember value) := by
  intro s m r t h hstop
  obtain ⟨s', r₁, r₂, rfl, hs, hws, hv⟩ := scanMember_cases h
  have hskip := hcons.skipWs_append hv t
  simp [scanMember, scanString_extendsFreely _ _ _ t hs, skipWs_append_of_cons hws t, hskip,
    hvalue _ _ _ t hv hstop]

/-- The ways a value is read, one for each kind of first code point. -/
theorem scanOnce_cases {fuel : ℕ} {s : Text} {v : Json F} {r : Text}
    (h : scanOnce fc (fuel + 1) s = some (v, r)) :
    (∃ s' t, s = ch '"' :: s' ∧ scanString s' = some (t, r) ∧ v = .str t) ∨
    (∃ s' d s₁, s = ch '{' :: s' ∧ skipWs s' = d :: s₁ ∧
      ((d = ch '}' ∧ v = .obj [] ∧ r = s₁) ∨
        (d ≠ ch '}' ∧ ∃ ms, v = .obj (Dict.update [] ms) ∧
          scanItems (scanMember (scanOnce fc fuel)) (ch '}') (fuel + 1) (d :: s₁) =
            some (ms, r)))) ∨
    (∃ s' d s₁, s = ch '[' :: s' ∧ skipWs s' = d :: s₁ ∧
      ((d = ch ']' ∧ v = .arr [] ∧ r = s₁) ∨
        (d ≠ ch ']' ∧ ∃ vs, v = .arr vs ∧
          scanItems (scanOnce fc fuel) (ch ']') (fuel + 1) (d :: s₁) = some (vs, r)))) ∨
    (∃ c s', s = c :: s' ∧ c ≠ ch '"' ∧ c ≠ ch '{' ∧ c ≠ ch '[' ∧
      scanAtom fc s = some (v, r)) := by
  cases s with
  | nil => cases h
  | cons c s =>
      simp only [scanOnce] at h
      split at h
      · rename_i hc
        rcases map_item_eq_some Json.str h with ⟨t, hs, rfl⟩
        exact .inl ⟨s, t, by rw [hc], hs, rfl⟩
      rename_i hquote
      split at h
      · rename_i hc
        right; left
        cases hws : skipWs s with
        | nil => simp [hws] at h
        | cons d s₁ =>
            simp only [hws] at h
            refine ⟨s, d, s₁, by rw [hc], hws, ?_⟩
            split at h
            · rename_i hd
              obtain ⟨rfl, rfl⟩ : Json.obj [] = v ∧ s₁ = r := by simpa using h
              exact .inl ⟨hd, rfl, rfl⟩
            · rename_i hd
              rcases map_item_eq_some (fun ms => Json.obj (Dict.update [] ms)) h with
                ⟨ms, hms, rfl⟩
              exact .inr ⟨hd, ms, rfl, hms⟩
      rename_i hbrace
      split at h
      · rename_i hc
        right; right; left
        cases hws : skipWs s with
        | nil => simp [hws] at h
        | cons d s₁ =>
            simp only [hws] at h
            refine ⟨s, d, s₁, by rw [hc], hws, ?_⟩
            split at h
            · rename_i hd
              obtain ⟨rfl, rfl⟩ : Json.arr [] = v ∧ s₁ = r := by simpa using h
              exact .inl ⟨hd, rfl, rfl⟩
            · rename_i hd
              rcases map_item_eq_some Json.arr h with ⟨vs, hvs, rfl⟩
              exact .inr ⟨hd, vs, rfl, hvs⟩
      · rename_i hbracket
        exact .inr (.inr (.inr ⟨c, s, rfl, hquote, hbrace, hbracket, h⟩))

/-- A value between an opening and a closing delimiter. -/
theorem solid_of_closed {o : CodePoint} (ho : isSpace o = false) {s s₁ t r : Text}
    {d : CodePoint} (hws : skipWs s = d :: s₁) (ht : d :: s₁ = t ++ r) (hsolid : Solid t) :
    ∃ u, o :: s = u ++ r ∧ Solid u := by
  obtain ⟨w, hw, -⟩ := skipWs_decompose s
  have hopen : Solid [o] := solid_singleton ho
  refine ⟨[o] ++ w ++ t, ?_, hopen.join w hsolid⟩
  rw [hw, hws, ht]
  simp

theorem scanOnce_consumes (fuel : ℕ) : Consumes (scanOnce fc fuel) := by
  induction fuel with
  | zero =>
      intro s v r h
      cases h
  | succ fuel ih =>
      intro s v r h
      rcases scanOnce_cases fc h with ⟨s', t, rfl, hs, -⟩ | ⟨s', d, s₁, rfl, hws, hcase⟩ |
        ⟨s', d, s₁, rfl, hws, hcase⟩ | ⟨c, s', rfl, -, -, -, ha⟩
      · obtain ⟨t', rfl⟩ := scanString_append hs
        have hquote : Solid [ch '"'] := solid_singleton (by decide)
        exact ⟨[ch '"'] ++ t' ++ [ch '"'], by simp, hquote.append_closed t' (by decide)⟩
      · rcases hcase with ⟨rfl, -, rfl⟩ | ⟨-, ms, -, hms⟩
        · exact solid_of_closed (by decide) hws (t := [_]) rfl (solid_singleton (by decide))
        · obtain ⟨t, ht, hsolid⟩ :=
            scanItems_consumes (scanMember_consumes ih) (by decide) _ _ _ _ hms
          exact solid_of_closed (by decide) hws ht hsolid
      · rcases hcase with ⟨rfl, -, rfl⟩ | ⟨-, vs, -, hvs⟩
        · exact solid_of_closed (by decide) hws (t := [_]) rfl (solid_singleton (by decide))
        · obtain ⟨t, ht, hsolid⟩ := scanItems_consumes ih (by decide) _ _ _ _ hvs
          exact solid_of_closed (by decide) hws ht hsolid
      · exact scanAtom_consumes fc _ _ _ ha

theorem scanOnce_extends (fuel : ℕ) : Extends (scanOnce fc fuel) := by
  induction fuel with
  | zero =>
      intro s v r t h
      cases h
  | succ fuel ih =>
      intro s v r t h hstop
      have hcons := scanOnce_consumes fc fuel
      rcases scanOnce_cases fc h with ⟨s', k, rfl, hs, rfl⟩ | ⟨s', d, s₁, rfl, hws, hcase⟩ |
        ⟨s', d, s₁, rfl, hws, hcase⟩ | ⟨c, s', rfl, hq, hb, hk, ha⟩
      · simp [scanOnce, scanString_extendsFreely _ _ _ t hs]
      · have hne : ch '{' ≠ ch '"' := by decide
        rcases hcase with ⟨rfl, rfl, rfl⟩ | ⟨hd, ms, rfl, hms⟩
        · simp [scanOnce, hne, skipWs_append_of_cons hws t]
        · have hms' := scanItems_extendsFreely (scanMember_consumes hcons)
            (scanMember_extends hcons ih) (by decide) (by decide) _ _ _ _ t hms
          rw [List.cons_append] at hms'
          simp [scanOnce, hne, skipWs_append_of_cons hws t, hd, hms']
      · have hne : ch '[' ≠ ch '"' ∧ ch '[' ≠ ch '{' := by decide
        rcases hcase with ⟨rfl, rfl, rfl⟩ | ⟨hd, vs, rfl, hvs⟩
        · simp [scanOnce, hne, skipWs_append_of_cons hws t]
        · have hvs' := scanItems_extendsFreely hcons ih (by decide) (by decide) _ _ _ _ t hvs
          rw [List.cons_append] at hvs'
          simp [scanOnce, hne, skipWs_append_of_cons hws t, hd, hvs']
      · have ha' := scanAtom_extends fc _ _ _ t ha hstop
        rw [List.cons_append] at ha' ⊢
        simp [scanOnce, hq, hb, hk, ha']

end Values

end PyJson
