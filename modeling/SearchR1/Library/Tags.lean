import SearchR1.Library.Blocks

/-! # Tags

Delimiters of the form `<...>`. Neither of two pieces of text that meet before a `<` or behind a
`>` can lend a code point to a tag of the other. -/

namespace PyText

/-! ## Occurrences in a text in parts -/

section Infix

variable {p a x y : Text} {d : CodePoint}

/-- A pattern does not start in text without its first code point. -/
theorem infix_of_append_head (hp : p.head? = some d) (ha : d ∉ a) (h : p <:+: a ++ x) :
    p <:+: x := by
  induction a with
  | nil => exact h
  | cons e a ih =>
      rw [List.mem_cons, not_or] at ha
      rw [List.cons_append, List.infix_cons_iff] at h
      rcases h with ⟨r, hr⟩ | h
      · exfalso
        apply ha.1
        have hhead := congrArg List.head? hr
        rw [List.head?_append, hp] at hhead
        exact Option.some.inj hhead
      · exact ih ha.2 h

/-- A pattern does not end in text without its last code point. -/
theorem infix_of_append_last (hp : p.getLast? = some d) (hx : d ∉ x) (h : p <:+: a ++ x) :
    p <:+: a := by
  rw [← List.reverse_infix, List.reverse_append] at h
  rw [← List.reverse_infix]
  apply infix_of_append_head (d := d) _ _ h
  · rw [List.head?_reverse, hp]
  · rwa [List.mem_reverse]

/-- A first occurrence is not in text without the first code point of the pattern. -/
theorem cut_append_of_head (hp : p.head? = some d) (ha : d ∉ a) :
    cut p (a ++ x) = (cut p x).map fun r => (a ++ r.1, r.2) := by
  induction a with
  | nil => simp
  | cons e a ih =>
      rw [List.mem_cons, not_or] at ha
      have hpre : ¬ p.isPrefixOf (e :: (a ++ x)) := by
        intro h
        apply ha.1
        obtain ⟨r, hr⟩ := List.isPrefixOf_iff_prefix.mp h
        have hhead := congrArg List.head? hr
        rw [List.head?_append, hp] at hhead
        exact Option.some.inj hhead
      rw [List.cons_append, cut, if_neg hpre, ih ha.2, Option.map_map]
      rfl

/-- A pattern does not lie across a code point that it does not have. -/
theorem split_append_cons {u v : Text} (hd : d ∉ p) (h : u ++ p ++ v = a ++ d :: x) :
    (∃ w, a = u ++ p ++ w ∧ v = w ++ d :: x) ∨ ∃ w, u = a ++ d :: w ∧ x = w ++ p ++ v := by
  rcases List.append_eq_append_iff.mp h with ⟨w, ha, hv⟩ | ⟨w, hup, hx⟩
  · exact .inl ⟨w, ha, hv⟩
  · cases w with
    | nil =>
        rw [List.append_nil] at hup
        exact .inl ⟨[], by rw [List.append_nil, hup], hx.symm⟩
    | cons e w =>
        obtain ⟨rfl, rfl⟩ := List.cons.inj hx
        rcases List.append_eq_append_iff.mp hup with ⟨z, -, hz⟩ | ⟨z, hu, hz⟩
        · rw [hz] at hd
          exact absurd (List.mem_append_right z List.mem_cons_self) hd
        · cases z with
          | nil =>
              rw [List.nil_append] at hz
              rw [← hz] at hd
              exact absurd List.mem_cons_self hd
          | cons e z =>
              obtain ⟨rfl, rfl⟩ := List.cons.inj hz
              exact .inr ⟨z, hu, rfl⟩

theorem infix_append_cons (hd : d ∉ p) (h : p <:+: a ++ d :: x) : p <:+: a ∨ p <:+: x := by
  rcases h with ⟨u, v, huv⟩
  rcases split_append_cons hd huv with ⟨w, ha, -⟩ | ⟨w, -, hx⟩
  · exact .inl ⟨u, w, ha.symm⟩
  · exact .inr ⟨w, v, hx.symm⟩

theorem contains_append_cons_iff (hd : d ∉ p) :
    contains p (a ++ d :: x) ↔ contains p a ∨ contains p x := by
  simp only [contains_iff]
  constructor
  · exact infix_append_cons hd
  · intro h
    rcases h with h | h
    · exact h.trans (List.prefix_append _ _).isInfix
    · exact h.trans ((List.suffix_cons d x).trans (List.suffix_append _ _)).isInfix

/-! ### In a text that is cut -/

theorem contains_take_append_of_head (hp : p.head? = some d) (ha : d ∉ a) (n : ℕ) :
    contains p ((a ++ x).take n) ↔ contains p (x.take (n - a.length)) := by
  rw [List.take_append, contains_iff, contains_iff]
  constructor
  · exact infix_of_append_head hp fun hmem => ha (List.mem_of_mem_take hmem)
  · intro h
    exact h.trans (List.suffix_append _ _).isInfix

theorem contains_take_append_cons (hd : d ∉ p) (n : ℕ) :
    contains p ((a ++ d :: x).take n) ↔
      contains p (a.take n) ∨ contains p (x.take (n - a.length - 1)) := by
  rw [List.take_append]
  cases hn : n - a.length with
  | zero =>
      have hnil : contains p (x.take (0 - 1)) → contains p (a.take n) := by
        simp only [contains_iff]
        intro h
        exact h.trans (List.nil_infix)
      rw [List.take_zero, List.append_nil]
      exact ⟨.inl, fun h => h.elim id hnil⟩
  | succ k => rw [List.take_succ_cons, contains_append_cons_iff hd, Nat.add_sub_cancel]

/-- Stripping keeps a pattern without white space at its ends. -/
theorem infix_strip (hhead : ∀ c ∈ p.head?, ¬ isSpace c) (hlast : ∀ c ∈ p.getLast?, ¬ isSpace c)
    (h : p <:+: x) : p <:+: strip x := by
  obtain ⟨w, t, hx, hw, ht⟩ := trim_decompose isSpace x
  cases hp : p.head? with
  | none =>
      rw [List.head?_eq_none_iff] at hp
      rw [hp]
      exact List.nil_infix
  | some c =>
      have hne : p ≠ [] := by
        rintro rfl
        cases hp
      have hc : c ∉ w := fun hmem => hhead c hp (hw c hmem)
      have hd : p.getLast hne ∉ t := fun hmem =>
        hlast _ (List.getLast?_eq_some_getLast hne) (ht _ hmem)
      rw [hx, List.append_assoc] at h
      exact infix_of_append_last (List.getLast?_eq_some_getLast hne) hd
        (infix_of_append_head hp hc h)

theorem contains_strip_iff (hhead : ∀ c ∈ p.head?, ¬ isSpace c)
    (hlast : ∀ c ∈ p.getLast?, ¬ isSpace c) : contains p (strip x) ↔ contains p x := by
  rw [contains_iff, contains_iff]
  constructor
  · intro h
    rcases trim_decompose isSpace x with ⟨w, t, hx, _⟩
    have hstrip : strip x <:+: x := ⟨w, t, hx.symm⟩
    exact h.trans hstrip
  · exact infix_strip hhead hlast

/-- No occurrence of the pattern starts in the text, whatever follows it. -/
def startsNowhere (p : Text) : Text → Bool
  | [] => true
  | c :: a => !p.isPrefixOf (c :: a) && !(c :: a).isPrefixOf p && startsNowhere p a

theorem contains_append_of_startsNowhere (ha : startsNowhere p a) :
    contains p (a ++ x) ↔ contains p x := by
  induction a with
  | nil => exact Iff.rfl
  | cons c a ih =>
      simp only [startsNowhere, Bool.and_eq_true, Bool.not_eq_true'] at ha
      rw [← ih ha.2, contains_iff, contains_iff, List.cons_append, List.infix_cons_iff]
      apply or_iff_right
      intro h
      rcases List.prefix_or_prefix_of_prefix h (List.prefix_append (c :: a) x) with hp | hp
      · rw [← List.isPrefixOf_iff_prefix, ha.1.1] at hp
        cases hp
      · rw [← List.isPrefixOf_iff_prefix, ha.1.2] at hp
        cases hp

/-- A pattern that does not reach over a separator stands in one of the texts it separates. -/
theorem contains_intercalate_iff {sep : Text} (hp : p ≠ []) (hd : d ∉ p)
    (hsep : startsNowhere p sep) (ts : List Text) :
    contains p ((d :: sep).intercalate ts) ↔ ∃ t ∈ ts, contains p t := by
  induction ts with
  | nil => simp [contains_iff, hp]
  | cons t ts ih =>
      cases ts with
      | nil => simp
      | cons t' ts =>
          have hcons : (d :: sep).intercalate (t :: t' :: ts) =
              t ++ d :: (sep ++ (d :: sep).intercalate (t' :: ts)) := by
            simp [List.intercalate]
          rw [hcons, contains_append_cons_iff hd, contains_append_of_startsNowhere hsep, ih]
          simp

theorem infix_intercalate {sep : Text} {ts : List Text} {t : Text} (h : t ∈ ts) :
    t <:+: sep.intercalate ts := by
  induction ts with
  | nil => cases h
  | cons t' ts ih =>
      cases ts with
      | nil =>
          rw [List.mem_singleton] at h
          simp [h]
      | cons t'' ts =>
          have hcons : sep.intercalate (t' :: t'' :: ts) =
              t' ++ (sep ++ sep.intercalate (t'' :: ts)) := by
            simp [List.intercalate]
          rw [hcons]
          rcases List.mem_cons.mp h with rfl | h
          · exact (List.prefix_append _ _).isInfix
          · rw [← List.append_assoc]
            exact (ih h).trans (List.suffix_append _ _).isInfix

end Infix

/-! ## Tags -/

/-- A tag: `<` and `>` stand at its ends only. -/
def IsTag (p : Text) : Prop := ∃ m, p = ch '<' :: m ++ [ch '>'] ∧ ch '<' ∉ m ∧ ch '>' ∉ m

variable {p o c : Text}

theorem IsTag.ne_nil (hp : IsTag p) : p ≠ [] := by
  rcases hp with ⟨m, rfl, -⟩
  simp

theorem IsTag.not_mem_tail (hp : IsTag p) {x : CodePoint} {q : Text} (h : p = x :: q) :
    ch '<' ∉ q := by
  rcases hp with ⟨m, rfl, hm, -⟩
  have hne : ch '<' ≠ ch '>' := by decide
  rw [List.cons_append, List.cons.injEq] at h
  rw [← h.2, List.mem_append, List.mem_singleton, not_or]
  exact ⟨hm, hne⟩

theorem IsTag.not_mem_front (hp : IsTag p) {x : CodePoint} {q : Text} (h : p = q ++ [x]) :
    ch '>' ∉ q := by
  rcases hp with ⟨m, rfl, -, hm⟩
  have hne : ch '>' ≠ ch '<' := by decide
  have hq := (List.append_inj' h rfl).1
  rw [← hq, List.mem_cons, not_or]
  exact ⟨hne, hm⟩

theorem IsTag.head? (hp : IsTag p) : p.head? = some (ch '<') := by
  rcases hp with ⟨m, rfl, -⟩
  rfl

theorem IsTag.getLast? (hp : IsTag p) : p.getLast? = some (ch '>') := by
  rcases hp with ⟨m, rfl, -⟩
  rw [List.getLast?_concat]

theorem IsTag.contains_strip_iff (hp : IsTag p) {s : Text} :
    contains p (strip s) ↔ contains p s := by
  apply PyText.contains_strip_iff
  · intro d hd
    rw [hp.head?] at hd
    cases hd
    decide
  · intro d hd
    rw [hp.getLast?] at hd
    cases hd
    decide

/-- A later suffix of a tag does not start with the tag. -/
theorem IsTag.eq_of_suffix (hp : IsTag p) (ho : IsTag o) (h : p <:+ o) : p = o := by
  rcases h with ⟨u, rfl⟩
  cases u with
  | nil => rfl
  | cons x u =>
      have hmem : ch '<' ∈ u ++ p :=
        List.mem_append_right _ (List.mem_of_mem_head? hp.head?)
      exact absurd hmem (ho.not_mem_tail rfl)

/-- A tag holds no other tag. -/
theorem IsTag.eq_of_infix (hp : IsTag p) (ho : IsTag o) (h : p <:+: o) : p = o := by
  rcases h with ⟨u, v, huv⟩
  cases v using List.reverseRecOn with
  | nil =>
      rw [List.append_nil] at huv
      exact hp.eq_of_suffix ho ⟨u, huv⟩
  | append_singleton v d =>
      rw [← List.append_assoc] at huv
      have hfront := ho.not_mem_front huv.symm
      have hmem : ch '>' ∈ p := List.mem_of_mem_getLast? hp.getLast?
      exact absurd (List.mem_append_left v (List.mem_append_right u hmem)) hfront

theorem IsTag.mem (hp : IsTag p) : ch '<' ∈ p := List.mem_of_mem_head? hp.head?

/-! ## Seams -/

/-- No tag crosses from `a` into `x`. -/
def Seam (a x : Text) : Prop :=
  (∀ d ∈ x.head?, d = ch '<') ∨ ∀ d ∈ a.getLast?, d = ch '>'

theorem seam_of_head {a x : Text} (h : x.head? = some (ch '<')) : Seam a x := by
  left
  intro d hd
  rw [h] at hd
  exact (Option.some.inj hd).symm

theorem seam_of_last {a x : Text} (h : a.getLast? = some (ch '>')) : Seam a x := by
  right
  intro d hd
  rw [h] at hd
  exact (Option.some.inj hd).symm

theorem Seam.tail {d : CodePoint} {a x : Text} (h : Seam (d :: a) x) : Seam a x := by
  rcases h with h | h
  · exact .inl h
  · right
    intro e he
    apply h
    cases a with
    | nil => cases he
    | cons f a => rwa [List.getLast?_cons_cons]

theorem IsTag.prefix_of_seam (hp : IsTag p) {b x : Text} (hb : b ≠ []) (hs : Seam b x)
    (h : p <+: b ++ x) : p <+: b := by
  rcases List.prefix_or_prefix_of_prefix h (List.prefix_append b x) with hpb | ⟨x', hx'⟩
  · exact hpb
  · subst hx'
    cases x' with
    | nil => exact (List.append_nil b).symm ▸ List.prefix_rfl
    | cons d x' =>
        obtain ⟨y, rfl⟩ := (List.prefix_append_right_inj b).mp h
        exfalso
        rcases hs with hs | hs
        · have hd : d = ch '<' := hs d rfl
          obtain ⟨e, b', rfl⟩ := List.exists_cons_of_ne_nil hb
          apply hp.not_mem_tail (List.cons_append ..)
          rw [hd]
          exact List.mem_append_right _ List.mem_cons_self
        · have hlast : b.getLast hb = ch '>' := hs _ (List.getLast?_eq_some_getLast hb)
          have hsplit := List.dropLast_append_getLast (List.cons_ne_nil d x')
          apply hp.not_mem_front (q := b ++ (d :: x').dropLast)
            (x := (d :: x').getLast (List.cons_ne_nil d x'))
          · rw [List.append_assoc, hsplit]
          · rw [← hlast]
            exact List.mem_append_left _ (List.getLast_mem hb)

/-- A tag that is not in the front part is looked for behind it. -/
theorem IsTag.cut_append_of_seam (hp : IsTag p) {a x : Text} (hs : Seam a x)
    (ha : cut p a = none) : cut p (a ++ x) = (cut p x).map fun r => (a ++ r.1, r.2) := by
  induction a with
  | nil => simp
  | cons d a ih =>
      simp only [cut] at ha
      split at ha
      · cases ha
      · rename_i hd
        rw [Option.map_eq_none_iff] at ha
        have hpre : ¬ p.isPrefixOf (d :: (a ++ x)) := by
          intro h
          apply hd
          rw [List.isPrefixOf_iff_prefix] at h ⊢
          exact hp.prefix_of_seam (List.cons_ne_nil d a) hs h
        simp only [List.cons_append, cut]
        rw [if_neg hpre, ih hs.tail ha, Option.map_map]
        rfl

/-- A first occurrence is the same with more text behind it. -/
theorem cut_append_of_some {a u v : Text} (h : cut p a = some (u, v)) (x : Text) :
    cut p (a ++ x) = some (u, v ++ x) := by
  induction a generalizing u with
  | nil =>
      have hp : p = [] := by
        by_contra hne
        simp [cut, hne] at h
      subst hp
      obtain ⟨rfl, rfl⟩ : [] = u ∧ [] = v := by simpa [cut] using h
      cases x with
      | nil => rfl
      | cons d x => rfl
  | cons d a ih =>
      simp only [cut] at h
      simp only [List.cons_append, cut]
      split at h
      · rename_i hpre
        obtain ⟨rfl, rfl⟩ : [] = u ∧ (d :: a).drop p.length = v := by simpa using h
        rw [List.isPrefixOf_iff_prefix] at hpre
        have hlong : p <+: d :: (a ++ x) := hpre.trans (List.prefix_append (d :: a) x)
        rw [if_pos (List.isPrefixOf_iff_prefix.mpr hlong), ← List.cons_append,
          List.drop_append_of_le_length hpre.length_le]
      · rename_i hpre
        rw [Option.map_eq_some_iff] at h
        obtain ⟨⟨u', v'⟩, hcut, heq⟩ := h
        obtain ⟨rfl, rfl⟩ : d :: u' = u ∧ v' = v := by simpa using heq
        have hlong : ¬ p.isPrefixOf (d :: (a ++ x)) := by
          intro hlong
          apply hpre
          rw [List.isPrefixOf_iff_prefix] at hlong ⊢
          apply List.prefix_of_prefix_length_le hlong (List.prefix_append (d :: a) x)
          have hlen := cut_length hcut
          rw [List.length_cons]
          omega
        rw [if_neg hlong, ih hcut]
        rfl

theorem IsTag.suffix_of_append (hp : IsTag p) {t r : Text} (ht : t.getLast? = some (ch '>'))
    (hr : r ≠ []) (h : p <:+ t ++ r) : p <:+ r := by
  rcases List.suffix_or_suffix_of_suffix h (List.suffix_append t r) with hpr | ⟨t', ht'⟩
  · exact hpr
  · subst ht'
    obtain ⟨hsuf, -⟩ := (List.suffix_append_inj_of_length_eq rfl).mp h
    cases t' using List.reverseRecOn with
    | nil => exact List.suffix_rfl
    | append_singleton t' d =>
        exfalso
        obtain ⟨u, rfl⟩ := hsuf
        rw [← List.append_assoc, List.getLast?_concat, Option.some.injEq] at ht
        apply hp.not_mem_front (q := t' ++ [d] ++ r.dropLast) (x := r.getLast hr)
        · rw [List.append_assoc (t' ++ [d]), List.dropLast_append_getLast]
        · rw [ht]
          exact List.mem_append_left _ (List.mem_append_right _ List.mem_cons_self)

/-- A closing tag at the end of a text stands behind every opening one. -/
theorem IsTag.suffix_of_open (hc : IsTag c) (ho : IsTag o) (hne : c ≠ o) {a rest : Text}
    (h : c <:+ a ++ o ++ rest) : c <:+ rest := by
  cases rest with
  | nil =>
      rw [List.append_nil] at h
      rcases List.suffix_or_suffix_of_suffix h (List.suffix_append a o) with h | h
      · exact absurd (hc.eq_of_suffix ho h) hne
      · exact absurd (ho.eq_of_suffix hc h).symm hne
  | cons d rest =>
      apply hc.suffix_of_append _ (List.cons_ne_nil d rest) h
      rw [List.getLast?_append, ho.getLast?]
      rfl

/-- A tag does not lie across the end of another one. -/
theorem IsTag.split_append (ho : IsTag o) {t r u v : Text} (ht : t.getLast? = some (ch '>'))
    (h : u ++ o ++ v = t ++ r) :
    (∃ w, t = u ++ o ++ w ∧ v = w ++ r) ∨ ∃ w, u = t ++ w ∧ r = w ++ o ++ v := by
  rcases List.append_eq_append_iff.mp h with ⟨w, hfront, hv⟩ | ⟨w, hopen, hr⟩
  · exact .inl ⟨w, hfront, hv⟩
  · by_cases hw : w = []
    · rw [hw, List.append_nil] at hopen
      exact .inl ⟨[], by rw [List.append_nil, hopen], by rw [hr, hw]; rfl⟩
    · obtain ⟨z, rfl⟩ := ho.suffix_of_append ht hw (hopen ▸ List.suffix_append u o)
      rw [← List.append_assoc] at hopen
      exact .inr ⟨z, List.append_cancel_right hopen, hr⟩

/-! ## Blocks of a text in parts -/

theorem not_contains_of_infix {a s : Text} (h : a <:+: s) (hs : ¬ contains p s) :
    ¬ contains p a := by
  intro ha
  exact hs (contains_iff.mpr ((contains_iff.mp ha).trans h))

theorem cut_eq_none {s : Text} (h : ¬ contains p s) : cut p s = none := by
  rwa [contains, Option.not_isSome_iff_eq_none] at h

/-- Text without an opening tag in front adds no block. -/
theorem blocks_append_of_seam (ho : IsTag o) {g y : Text} (hs : Seam g y)
    (hg : ¬ contains o g) : blocks o c (g ++ y) = blocks o c y := by
  have hcut := ho.cut_append_of_seam hs (cut_eq_none hg)
  cases hy : cut o y with
  | none =>
      rw [hy, Option.map_none] at hcut
      rw [blocks_of_open_none hcut, blocks_of_open_none hy]
  | some r =>
      obtain ⟨a, rest⟩ := r
      rw [hy, Option.map_some] at hcut
      cases hrest : cut c rest with
      | none => rw [blocks_of_close_none hcut hrest, blocks_of_close_none hy hrest]
      | some r' =>
          obtain ⟨body, rest'⟩ := r'
          rw [blocks_of_close_some ho.ne_nil hcut hrest, blocks_of_close_some ho.ne_nil hy hrest]

/-- Behind a closing tag the scan starts afresh. -/
theorem blocks_append_of_closed (ho : IsTag o) (hc : IsTag c) (hne : c ≠ o) {t : Text}
    (ht : t = [] ∨ c <:+ t) (y : Text) : blocks o c (t ++ y) = blocks o c t ++ blocks o c y := by
  induction t using blocks_induction (c := c) ho.ne_nil with
  | stop t hb =>
      rw [hb, List.nil_append]
      rcases ht with rfl | ht
      · rfl
      · cases hcut : cut o t with
        | none =>
            have hlast : t.getLast? = some (ch '>') := by
              obtain ⟨u, rfl⟩ := ht
              rw [List.getLast?_append, hc.getLast?]
              rfl
            apply blocks_append_of_seam ho (seam_of_last hlast)
            simp [contains, hcut]
        | some r =>
            obtain ⟨a, rest⟩ := r
            exfalso
            have hrest : c <:+ rest := hc.suffix_of_open ho hne (cut_append hcut ▸ ht)
            have hcontains : contains c rest := contains_iff.mpr hrest.isInfix
            obtain ⟨r', hr'⟩ := Option.isSome_iff_exists.mp hcontains
            rw [blocks_of_close_some ho.ne_nil hcut hr'] at hb
            cases hb
  | block t a rest body rest' hcut hcut' hb ih =>
      have hopen := cut_append_of_some hcut y
      have hclose := cut_append_of_some hcut' y
      have hrest' : rest' = [] ∨ c <:+ rest' := by
        rcases ht with rfl | ht
        · have hlen := cut_length hcut
          have hpos := List.length_pos_of_ne_nil ho.ne_nil
          rw [List.length_nil] at hlen
          omega
        · have hrest : c <:+ rest := hc.suffix_of_open ho hne (cut_append hcut ▸ ht)
          rw [cut_append hcut'] at hrest
          by_cases hnil : rest' = []
          · exact .inl hnil
          · right
            apply hc.suffix_of_append _ hnil hrest
            rw [List.getLast?_append, hc.getLast?]
            rfl
      rw [blocks_of_close_some ho.ne_nil hopen hclose, ih hrest', hb, List.cons_append]

theorem cut_self_append (hp : p ≠ []) (x : Text) : cut p (p ++ x) = some ([], x) := by
  cases hs : p ++ x with
  | nil => exact absurd (List.append_eq_nil_iff.mp hs).1 hp
  | cons d y =>
      have hpre : p.isPrefixOf (d :: y) := by
        rw [← hs]
        exact List.isPrefixOf_iff_prefix.mpr (List.prefix_append p x)
      rw [cut, if_pos hpre, ← hs, List.drop_left]

theorem IsTag.cut_append_self (hc : IsTag c) {body : Text} (hbody : ¬ contains c body) :
    cut c (body ++ c) = some (body, []) := by
  have hclose := hc.cut_append_of_seam (seam_of_head hc.head?) (cut_eq_none hbody)
  have hself := cut_self_append hc.ne_nil []
  rw [List.append_nil] at hself
  rwa [hself, Option.map_some, List.append_nil] at hclose

/-- A pair of tags around a body without a closing tag is one block. -/
theorem blocks_delimited (ho : IsTag o) (hc : IsTag c) {body : Text}
    (hbody : ¬ contains c body) : blocks o c (o ++ body ++ c) = [body] := by
  have hopen := cut_self_append ho.ne_nil (body ++ c)
  have hclose := hc.cut_append_self hbody
  rw [List.append_assoc, blocks_of_close_some ho.ne_nil hopen hclose]
  have hnil : blocks o c [] = [] := rfl
  rw [hnil]

/-- The blocks of a text between a pair of tags: a first one, and others when a tag opens behind
it. -/
theorem blocks_framed (ho : IsTag o) (hc : IsTag c) (hne : c ≠ o) (inner : Text) :
    ∃ body rest, cut c (inner ++ c) = some (body, rest) ∧
      blocks o c (o ++ inner ++ c) = body :: blocks o c rest ∧
      (blocks o c rest = [] ↔ ¬ contains o rest) := by
  have hcontains : contains c (inner ++ c) :=
    contains_iff.mpr (List.suffix_append inner c).isInfix
  obtain ⟨⟨body, rest⟩, hcut⟩ := Option.isSome_iff_exists.mp hcontains
  have hopen := cut_self_append ho.ne_nil (inner ++ c)
  refine ⟨body, rest, hcut, ?_, ?_, ?_⟩
  · rw [List.append_assoc, blocks_of_close_some ho.ne_nil hopen hcut]
  · intro hnil hmem
    obtain ⟨⟨a, rest'⟩, hcut'⟩ := Option.isSome_iff_exists.mp hmem
    have hlast : (body ++ c).getLast? = some (ch '>') := by
      rw [List.getLast?_append, hc.getLast?]
      rfl
    have hrest : rest ≠ [] := by
      rintro rfl
      rw [cut_eq_none] at hcut'
      · cases hcut'
      · rw [contains_iff, List.infix_nil]
        exact ho.ne_nil
    have hsuffix : c <:+ rest := by
      apply hc.suffix_of_append hlast hrest
      rw [← cut_append hcut]
      exact List.suffix_append inner c
    rw [cut_append hcut'] at hsuffix
    have hclose : contains c rest' :=
      contains_iff.mpr (hc.suffix_of_open ho hne hsuffix).isInfix
    obtain ⟨r, hr⟩ := Option.isSome_iff_exists.mp hclose
    rw [blocks_of_close_some ho.ne_nil hcut' hr] at hnil
    cases hnil
  · intro hmem
    exact blocks_of_open_none (cut_eq_none hmem)

/-- Framed texts with text between them have their own blocks only. -/
theorem blocks_flatMap (ho : IsTag o) (hc : IsTag c) (hne : c ≠ o) {front : Text}
    {pieces : List (Text × Text)} (hfront : ¬ contains o front)
    (hframed : ∀ p ∈ pieces, ∃ inner, p.1 = o ++ inner ++ c)
    (hgap : ∀ p ∈ pieces, ¬ contains o p.2) :
    blocks o c (front ++ pieces.flatMap fun p => p.1 ++ p.2) =
      pieces.flatMap fun p => blocks o c p.1 := by
  induction pieces generalizing front with
  | nil =>
      rw [List.flatMap_nil, List.flatMap_nil, List.append_nil]
      exact blocks_of_open_none (cut_eq_none hfront)
  | cons p pieces ih =>
      obtain ⟨inner, hp⟩ := hframed p List.mem_cons_self
      have hrest := ih (hgap p List.mem_cons_self)
        (fun q hq => hframed q (List.mem_cons_of_mem p hq))
        fun q hq => hgap q (List.mem_cons_of_mem p hq)
      have hclosed : p.1 = [] ∨ c <:+ p.1 := .inr (hp ▸ List.suffix_append _ c)
      have hhead : (p.1 ++ (p.2 ++ pieces.flatMap fun p => p.1 ++ p.2)).head? =
          some (ch '<') := by
        rw [hp, List.append_assoc, List.append_assoc, List.head?_append, ho.head?]
        rfl
      rw [List.flatMap_cons, List.flatMap_cons, List.append_assoc p.1,
        blocks_append_of_seam ho (seam_of_head hhead) hfront,
        blocks_append_of_closed ho hc hne hclosed, hrest]

/-- The blocks of one kind, put in the place of those of another kind. -/
theorem blocks_replaceBlocks {o' c' : Text} (ho : o ≠ []) (ho' : IsTag o') (hc' : IsTag c')
    (hne : c' ≠ o') {f : Text → Text} (hf : ∀ b, ∃ m, f b = o' ++ m ++ c') {s : Text}
    (hs : ¬ contains o' s) : blocks o' c' (replaceBlocks o c f s) =
      (blocks o c s).flatMap fun b => blocks o' c' (f b) := by
  induction s using blocks_induction (c := c) ho with
  | stop s hb =>
      rw [replaceBlocks_eq_self ho f hb, hb, List.flatMap_nil]
      exact blocks_of_open_none (cut_eq_none hs)
  | block s a rest b rest' hcut hcut' hb ih =>
      have happ : s = a ++ (o ++ b ++ c ++ rest') := by
        rw [cut_append hcut, cut_append hcut']
        simp only [List.append_assoc]
      have ha : ¬ contains o' a :=
        not_contains_of_infix (happ ▸ List.prefix_append _ _).isInfix hs
      have hrest' : ¬ contains o' rest' := by
        apply not_contains_of_infix _ hs
        rw [happ, ← List.append_assoc]
        exact (List.suffix_append _ _).isInfix
      obtain ⟨m, hm⟩ := hf b
      have hhead : (f b ++ replaceBlocks o c f rest').head? = some (ch '<') := by
        rw [hm, List.append_assoc, List.append_assoc, List.head?_append, ho'.head?]
        rfl
      have hlast : f b = [] ∨ c' <:+ f b := .inr (hm ▸ List.suffix_append _ _)
      rw [replaceBlocks_of_close_some ho f hcut hcut', List.append_assoc,
        blocks_append_of_seam ho' (seam_of_head hhead) ha,
        blocks_append_of_closed ho' hc' hne hlast, ih hrest', hb, List.flatMap_cons]

/-! ## Tags that are left open -/

/-- Behind every opening tag there is a closing one. -/
def TagsClosed (o c s : Text) : Prop := ∀ u v, s = u ++ o ++ v → contains c v

theorem contains_of_tagsClosed {s g rest : Text} (h : TagsClosed o c s)
    (hcut : cut o s = some (g, rest)) : contains c rest :=
  h g rest (cut_append hcut)

/-- What stands in front of a closing tag leaves nothing open behind it. -/
theorem tagsClosed_append_iff (ho : IsTag o) (hc : IsTag c) (hne : c ≠ o) {t : Text}
    (ht : c <:+ t) (r : Text) : TagsClosed o c (t ++ r) ↔ TagsClosed o c r := by
  constructor
  · intro h u v hr
    apply h (t ++ u) v
    rw [hr]
    simp
  · intro h u v huv
    have hlast : t.getLast? = some (ch '>') := by
      rcases ht with ⟨w, rfl⟩
      rw [List.getLast?_append, hc.getLast?]
      rfl
    rcases ho.split_append hlast huv.symm with ⟨m, hfront, hv⟩ | ⟨m, -, hr⟩
    · rw [hfront] at ht
      rw [contains_iff, hv]
      exact (hc.suffix_of_open ho hne ht).isInfix.trans (List.prefix_append m r).isInfix
    · exact h m v hr

/-- A pair of tags behind closed ones is the last block. -/
theorem getLast?_blocks_of_tagsClosed (ho : IsTag o) (hc : IsTag c) {x a y : Text}
    (hx : TagsClosed o c x) (ha : ¬ contains c a) (hy : ¬ contains o y) :
    (blocks o c (x ++ (o ++ (a ++ c ++ y)))).getLast? = some a := by
  have hpair : blocks o c (o ++ (a ++ c ++ y)) = [a] := by
    have hopen := cut_self_append ho.ne_nil (a ++ c ++ y)
    have hclose := cut_append_of_some (hc.cut_append_self ha) y
    rw [blocks_of_close_some ho.ne_nil hopen hclose, List.nil_append,
      blocks_of_open_none (cut_eq_none hy)]
  induction x using blocks_induction (c := c) ho.ne_nil with
  | stop x hb =>
      have hnone : ¬ contains o x := by
        intro hmem
        obtain ⟨⟨g, rest⟩, hcut⟩ := Option.isSome_iff_exists.mp hmem
        have hclosed := contains_of_tagsClosed hx hcut
        obtain ⟨⟨body, rest'⟩, hcut'⟩ := Option.isSome_iff_exists.mp hclosed
        rw [blocks_of_close_some ho.ne_nil hcut hcut'] at hb
        cases hb
      have hseam : Seam x (o ++ (a ++ c ++ y)) := by
        apply seam_of_head
        rw [List.head?_append, ho.head?]
        rfl
      rw [blocks_append_of_seam ho hseam hnone, hpair]
      rfl
  | block x g rest body rest' hopen hclose _ ih =>
      have hsplit : x = (g ++ o ++ body ++ c) ++ rest' := by
        rw [cut_append hopen, cut_append hclose]
        simp
      have hrest : TagsClosed o c rest' := by
        intro u v huv
        apply hx (g ++ o ++ body ++ c ++ u) v
        rw [hsplit, huv]
        simp
      have hlast := ih hrest
      rw [blocks_of_close_some ho.ne_nil (cut_append_of_some hopen _)
        (cut_append_of_some hclose _), List.getLast?_cons, hlast]
      rfl

/-- An opening tag that is left open swallows a pair of tags behind it. -/
theorem getLast?_blocks_of_not_tagsClosed (ho : IsTag o) (hc : IsTag c) (hne : c ≠ o)
    {x a y : Text} (hx : ¬ TagsClosed o c x) (ha : ¬ contains c a) (hy : ¬ contains o y) :
    ∃ v, (blocks o c (x ++ (o ++ (a ++ c ++ y)))).getLast? = some (v ++ o ++ a) := by
  induction x using blocks_induction (c := c) ho.ne_nil with
  | stop x hb =>
      cases hopen : cut o x with
      | none =>
          exfalso
          apply hx
          intro u v huv
          rw [huv] at hopen
          have hsome : (cut o (u ++ o ++ v)).isSome := cut_isSome_of_append u v
          rw [hopen] at hsome
          cases hsome
      | some r =>
          obtain ⟨g, rest⟩ := r
          have hnone : cut c rest = none := by
            cases hclose : cut c rest with
            | none => rfl
            | some r' =>
                rw [blocks_of_close_some ho.ne_nil hopen hclose] at hb
                cases hb
          have hseam : Seam rest (o ++ (a ++ c ++ y)) := by
            apply seam_of_head
            rw [List.head?_append, ho.head?]
            rfl
          have hcutOpen : cut c o = none :=
            cut_eq_none fun h => hne (hc.eq_of_infix ho (contains_iff.mp h))
          have hbody : cut c (rest ++ (o ++ (a ++ c ++ y))) = some (rest ++ (o ++ a), y) := by
            rw [hc.cut_append_of_seam hseam hnone,
              hc.cut_append_of_seam (seam_of_last ho.getLast?) hcutOpen,
              cut_append_of_some (hc.cut_append_self ha) y]
            rfl
          refine ⟨rest, ?_⟩
          rw [blocks_of_close_some ho.ne_nil (cut_append_of_some hopen _) hbody,
            blocks_of_open_none (cut_eq_none hy), List.append_assoc]
          rfl
  | block x g rest body rest' hopen hclose _ ih =>
      have hsplit : x = (g ++ o ++ body ++ c) ++ rest' := by
        rw [cut_append hopen, cut_append hclose]
        simp
      have hrest : ¬ TagsClosed o c rest' := by
        rwa [hsplit, tagsClosed_append_iff ho hc hne (List.suffix_append _ c)] at hx
      obtain ⟨v, hlast⟩ := ih hrest
      refine ⟨v, ?_⟩
      rw [blocks_of_close_some ho.ne_nil (cut_append_of_some hopen _)
        (cut_append_of_some hclose _), List.getLast?_cons, hlast]
      rfl

end PyText
