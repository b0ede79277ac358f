import Mathlib.Algebra.GroupWithZero.Nat
import Mathlib.Data.List.Basic
import Mathlib.Data.List.DropRight
import Mathlib.Data.List.Infix

/-! # Texts as sequences of code points -/

namespace PyText

/-- A code point of a Python string. Lone surrogates are code points as well. -/
abbrev CodePoint := Fin 0x110000

instance instNeZeroCodePoint : NeZero 0x110000 := ⟨by decide⟩

abbrev Text := List CodePoint

def ch (c : Char) : CodePoint := Fin.ofNat 0x110000 c.toNat

def lit (s : String) : Text := s.toList.map ch

/-- `str.isspace` on one code point; the regex class `\s` and `str.strip` use the
same set. -/
def isSpace (c : CodePoint) : Bool :=
  (9 ≤ c.val && c.val ≤ 13) || (28 ≤ c.val && c.val ≤ 32) || c.val == 0x85 ||
    c.val == 0xA0 || c.val == 0x1680 || (0x2000 ≤ c.val && c.val ≤ 0x200A) ||
    c.val == 0x2028 || c.val == 0x2029 || c.val == 0x202F || c.val == 0x205F ||
    c.val == 0x3000

/-! ## Trimming -/

/-- Removes the leading and the trailing code points that satisfy `p`. -/
def trim (p : CodePoint → Bool) (s : Text) : Text := (s.dropWhile p).rdropWhile p

/-- `str.strip()`. -/
def strip (s : Text) : Text := trim isSpace s

variable (p : CodePoint → Bool)

theorem rdropWhile_append_of_all (s t : Text) (ht : ∀ c ∈ t, p c) :
    (s ++ t).rdropWhile p = s.rdropWhile p := by
  induction t using List.reverseRecOn with
  | nil => simp
  | append_singleton t c ih =>
      have hc : p c := ht c (by simp)
      rw [← List.append_assoc, List.rdropWhile_concat_pos p _ _ hc]
      exact ih (fun d hd => ht d (by simp [hd]))

/-- The text is its trimmed part between two runs of trimmed code points. -/
theorem trim_decompose (s : Text) :
    ∃ w t, s = w ++ trim p s ++ t ∧ (∀ c ∈ w, p c) ∧ ∀ c ∈ t, p c := by
  refine ⟨s.takeWhile p, (s.dropWhile p).rtakeWhile p, ?_, ?_, ?_⟩
  · rw [trim, List.append_assoc, List.rdropWhile_append_rtakeWhile,
      List.takeWhile_append_dropWhile]
  · intro c hc
    exact List.mem_takeWhile_imp hc
  · intro c hc
    exact List.mem_rtakeWhile_imp hc

theorem trim_eq_of_decompose {s w m t : Text} (hs : s = w ++ m ++ t)
    (hw : ∀ c ∈ w, p c) (ht : ∀ c ∈ t, p c)
    (hhead : ∀ c ∈ m.head?, ¬ p c) (hlast : ∀ c ∈ m.getLast?, ¬ p c) :
    trim p s = m := by
  subst hs
  cases m with
  | nil =>
      have h : (w ++ t).dropWhile p = [] := by
        apply List.dropWhile_eq_nil_iff.mpr
        intro c hc
        exact (List.mem_append.mp hc).elim (hw c) (ht c)
      simp [trim, h]
  | cons a m =>
      have ha : ¬ p a := hhead a (by simp)
      have hdrop : (w ++ (a :: m) ++ t).dropWhile p = a :: m ++ t := by
        rw [List.append_assoc, List.dropWhile_append_of_pos hw]
        simp [ha]
      rw [trim, hdrop, rdropWhile_append_of_all p _ _ ht]
      apply List.rdropWhile_eq_self_iff.mpr
      intro hne
      exact hlast _ (by rw [List.getLast?_eq_some_getLast hne]; rfl)

theorem trim_head (s : Text) : ∀ c ∈ (trim p s).head?, ¬ p c := by
  intro c hc
  have hpre : trim p s <+: s.dropWhile p := List.rdropWhile_prefix _ _
  obtain ⟨r, hr⟩ := hpre
  have hd : (s.dropWhile p).head? = some c := by
    rw [← hr]
    cases h : trim p s with
    | nil => simp [h] at hc
    | cons a m =>
        simp only [h, List.head?_cons, Option.mem_def, Option.some.injEq] at hc
        simp [hc]
  have hne : s.dropWhile p ≠ [] := by
    intro h
    simp [h] at hd
  have h := List.head_dropWhile_not p hne
  rw [List.head?_eq_some_head hne, Option.some.injEq] at hd
  rw [hd] at h
  simp [h]

theorem trim_last (s : Text) : ∀ c ∈ (trim p s).getLast?, ¬ p c := by
  intro c hc
  have hne : trim p s ≠ [] := by
    intro h
    simp [h] at hc
  rw [List.getLast?_eq_some_getLast hne, Option.mem_def, Option.some.injEq] at hc
  have h := List.rdropWhile_last_not p (s.dropWhile p) hne
  rw [← hc]
  exact h

/-- What is trimmed around a text does not matter. -/
theorem trim_append {w t : Text} (hw : ∀ c ∈ w, p c) (ht : ∀ c ∈ t, p c) (s : Text) :
    trim p (w ++ s ++ t) = trim p s := by
  rcases trim_decompose p s with ⟨w', t', hs, hw', ht'⟩
  have hsplit : w ++ s ++ t = (w ++ w') ++ trim p s ++ (t' ++ t) := by
    nth_rewrite 1 [hs]
    simp only [List.append_assoc]
  apply trim_eq_of_decompose p hsplit _ _ (trim_head p s) (trim_last p s)
  · intro c hc
    exact (List.mem_append.mp hc).elim (hw c) (hw' c)
  · intro c hc
    exact (List.mem_append.mp hc).elim (ht' c) (ht c)

theorem trim_trim (s : Text) : trim p (trim p s) = trim p s :=
  trim_eq_of_decompose p (w := []) (t := []) (by simp) (by simp) (by simp)
    (trim_head p s) (trim_last p s)

theorem trim_eq_nil_iff (s : Text) : trim p s = [] ↔ ∀ c ∈ s, p c := by
  constructor
  · intro h
    obtain ⟨w, t, hs, hw, ht⟩ := trim_decompose p s
    rw [h] at hs
    intro c hc
    rw [hs] at hc
    simp only [List.append_nil, List.mem_append] at hc
    exact hc.elim (hw c) (ht c)
  · intro h
    exact trim_eq_of_decompose p (w := s) (m := []) (t := []) (by simp) h (by simp)
      (by simp) (by simp)

theorem strip_strip (s : Text) : strip (strip s) = strip s := trim_trim isSpace s

/-! ## First occurrence of a pattern -/

/-- Splits a text around the first occurrence of `pat`. -/
def cut (pat : Text) : Text → Option (Text × Text)
  | [] => if pat = [] then some ([], []) else none
  | c :: cs =>
      if pat.isPrefixOf (c :: cs) then some ([], (c :: cs).drop pat.length)
      else (cut pat cs).map fun r => (c :: r.1, r.2)

/-- Python's `pat in s`. -/
def contains (pat s : Text) : Bool := (cut pat s).isSome

variable {pat s a b : Text}

theorem cut_append (h : cut pat s = some (a, b)) : s = a ++ pat ++ b := by
  induction s generalizing a with
  | nil =>
      simp only [cut] at h
      split at h
      · rename_i hp
        obtain ⟨rfl, rfl⟩ : [] = a ∧ [] = b := by simpa using h
        simp [hp]
      · cases h
  | cons c cs ih =>
      simp only [cut] at h
      split at h
      · rename_i hp
        obtain ⟨rfl, rfl⟩ : [] = a ∧ (c :: cs).drop pat.length = b := by simpa using h
        obtain ⟨r, hr⟩ := List.isPrefixOf_iff_prefix.mp hp
        simp [← hr]
      · simp only [Option.map_eq_some_iff] at h
        obtain ⟨⟨a', b'⟩, hcut, heq⟩ := h
        obtain ⟨rfl, rfl⟩ : c :: a' = a ∧ b' = b := by simpa using heq
        rw [ih hcut]
        simp

theorem cut_isSome_of_append (x y : Text) : (cut pat (x ++ pat ++ y)).isSome := by
  induction x with
  | nil =>
      rw [List.nil_append]
      cases hs : pat ++ y with
      | nil =>
          have hp : pat = [] := (List.append_eq_nil_iff.mp hs).1
          simp [cut, hp]
      | cons c cs =>
          have hp : pat.isPrefixOf (c :: cs) := by
            rw [← hs]
            exact List.isPrefixOf_iff_prefix.mpr (List.prefix_append pat y)
          simp [cut, hp]
  | cons c x ih =>
      simp only [List.cons_append, cut]
      split
      · simp
      · simpa using ih

theorem contains_iff : contains pat s ↔ pat <:+: s := by
  constructor
  · intro h
    obtain ⟨⟨a, b⟩, hab⟩ := Option.isSome_iff_exists.mp h
    exact ⟨a, b, (cut_append hab).symm⟩
  · rintro ⟨a, b, rfl⟩
    exact cut_isSome_of_append a b

theorem cut_length (h : cut pat s = some (a, b)) :
    s.length = a.length + pat.length + b.length := by
  rw [cut_append h, List.length_append, List.length_append]

/-- There is no occurrence in front of the first one. -/
theorem not_contains_of_cut (hp : pat ≠ []) (h : cut pat s = some (a, b)) : ¬ contains pat a := by
  induction s generalizing a with
  | nil =>
      simp only [cut, hp, ite_false] at h
      cases h
  | cons c cs ih =>
      simp only [cut] at h
      split at h
      · cases h
        rw [contains_iff, List.infix_nil]
        exact hp
      · rename_i hpre
        rcases Option.map_eq_some_iff.mp h with ⟨⟨a', b'⟩, hcut, heq⟩
        cases heq
        rw [contains_iff, List.infix_cons_iff]
        intro hinfix
        rcases hinfix with hprefix | hinfix
        · apply hpre
          apply List.isPrefixOf_iff_prefix.mpr
          rw [cut_append hcut, List.append_assoc]
          exact hprefix.trans (List.prefix_append (c :: a') _)
        · exact ih hcut (contains_iff.mpr hinfix)

/-- Behind the first occurrence stands what is behind any other one. -/
theorem suffix_of_cut {x y : Text} (h : cut pat (x ++ pat ++ y) = some (a, b)) : y <:+ b := by
  have hsuffix : b <:+ x ++ pat ++ y := ⟨a ++ pat, (cut_append h).symm⟩
  apply List.suffix_of_suffix_length_le (List.suffix_append _ y) hsuffix
  induction x generalizing a with
  | nil =>
      cases hs : pat ++ y with
      | nil => simp [(List.append_eq_nil_iff.mp hs).2]
      | cons c cs =>
          have hpre : pat.isPrefixOf (c :: cs) :=
            List.isPrefixOf_iff_prefix.mpr (hs ▸ List.prefix_append pat y)
          rw [List.nil_append, hs, cut, if_pos hpre, ← hs, List.drop_left] at h
          cases h
          exact le_rfl
  | cons c x ih =>
      simp only [List.cons_append, cut] at h
      split at h
      · cases h
        simp only [List.length_drop, List.length_cons, List.length_append]
        omega
      · obtain ⟨⟨a', b'⟩, hcut, heq⟩ := Option.map_eq_some_iff.mp h
        cases heq
        exact ih hcut ⟨a' ++ pat, (cut_append hcut).symm⟩

/-! ## Patterns in an append -/

theorem contains_append_left (h : contains pat a) (b : Text) : contains pat (a ++ b) := by
  rw [contains_iff] at h ⊢
  exact h.trans (List.prefix_append a b).isInfix

theorem infix_append_iff_of_not_mem {c : CodePoint} {pat a : Text} (h : c ∉ a) (s : Text) :
    c :: pat <:+: a ++ s ↔ c :: pat <:+: s := by
  induction a with
  | nil => rfl
  | cons d a ih =>
      rw [List.mem_cons, not_or] at h
      rw [List.cons_append, List.infix_cons_iff, ih h.2, List.cons_prefix_cons, or_iff_right]
      exact fun hprefix => h.1 hprefix.1

/-- No occurrence begins in a text without the first code point of the pattern. -/
theorem contains_append_of_head_not_mem {c : CodePoint} {pat a : Text} (h : c ∉ a) (s : Text) :
    contains (c :: pat) (a ++ s) = contains (c :: pat) s := by
  rw [Bool.eq_iff_iff, contains_iff, contains_iff]
  exact infix_append_iff_of_not_mem h s

/-- No occurrence ends in a text without the last code point of the pattern. -/
theorem contains_append_of_last_not_mem {c : CodePoint} {pat b : Text} (h : c ∉ b) (s : Text) :
    contains (pat ++ [c]) (s ++ b) = contains (pat ++ [c]) s := by
  rw [Bool.eq_iff_iff, contains_iff, contains_iff, ← List.reverse_infix, List.reverse_append,
    List.reverse_append, List.reverse_singleton, List.singleton_append]
  refine (infix_append_iff_of_not_mem (by simpa using h) s.reverse).trans ?_
  rw [← List.reverse_infix, List.reverse_reverse, List.reverse_cons, List.reverse_reverse]

end PyText
