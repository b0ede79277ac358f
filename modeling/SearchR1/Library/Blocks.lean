import SearchR1.Library.Text

/-! # Delimited blocks of a text

`blocks o c` is `re.findall` for the pattern `o(.*?)c` with `re.DOTALL`: the leftmost
opening delimiter, the shortest body up to a closing one, and again behind it. -/

namespace PyText

/-- The scan consumes at least one opening delimiter a round, so the length of the text
is enough fuel. -/
def blocksAux (o c : Text) : ℕ → Text → List Text
  | 0, _ => []
  | fuel + 1, s =>
      match cut o s with
      | none => []
      | some (_, rest) =>
          match cut c rest with
          | none => []
          | some (body, rest') => body :: blocksAux o c fuel rest'

def blocks (o c s : Text) : List Text := blocksAux o c s.length s

/-- `re.findall` for the pattern `o\s*(.*?)\s*c`. -/
def strippedBlocks (o c s : Text) : List Text := (blocks o c s).map strip

/-- `re.sub` of the pattern `o(.*?)c` by the empty text; each round consumes a block. -/
def removeBlocksAux (o c : Text) : ℕ → Text → Text
  | 0, s => s
  | fuel + 1, s =>
      match cut o s with
      | none => s
      | some (a, rest) =>
          match cut c rest with
          | none => s
          | some (_, rest') => a ++ removeBlocksAux o c fuel rest'

def removeBlocks (o c s : Text) : Text := removeBlocksAux o c s.length s

/-- `re.sub` of the pattern `o(.*?)c` by a function of the body. -/
def replaceBlocksAux (o c : Text) (f : Text → Text) : ℕ → Text → Text
  | 0, s => s
  | fuel + 1, s =>
      match cut o s with
      | none => s
      | some (a, rest) =>
          match cut c rest with
          | none => s
          | some (body, rest') => a ++ f body ++ replaceBlocksAux o c f fuel rest'

def replaceBlocks (o c : Text) (f : Text → Text) (s : Text) : Text :=
  replaceBlocksAux o c f s.length s

variable {o c : Text}

/-- A scan whose rounds leave less of the text does not depend on its fuel, once that is enough. -/
theorem scan_eq_of_le {α : Type*} {scan : ℕ → Text → α} (hnil : ∀ fuel, scan fuel [] = scan 0 [])
    (hround : ∀ fuel fuel' s, (∀ t : Text, t.length < s.length → scan fuel t = scan fuel' t) →
      scan (fuel + 1) s = scan (fuel' + 1) s) (fuel : ℕ) (s : Text) (h : s.length ≤ fuel) :
    scan fuel s = scan s.length s := by
  have hany : ∀ fuel fuel' s, s.length ≤ fuel → s.length ≤ fuel' →
      scan fuel s = scan fuel' s := by
    intro fuel
    induction fuel with
    | zero =>
        intro fuel' s h _
        obtain rfl := List.length_eq_zero_iff.mp (Nat.le_zero.mp h)
        exact (hnil fuel').symm
    | succ fuel ih =>
        intro fuel' s h h'
        cases fuel' with
        | zero =>
            obtain rfl := List.length_eq_zero_iff.mp (Nat.le_zero.mp h')
            exact hnil (fuel + 1)
        | succ fuel' =>
            apply hround
            intro t ht
            exact ih fuel' t (by omega) (by omega)
  exact hany fuel s.length s h le_rfl

theorem blocksAux_eq_of_le (ho : o ≠ []) (fuel : ℕ) (s : Text) (h : s.length ≤ fuel) :
    blocksAux o c fuel s = blocks o c s := by
  have hpos : 0 < o.length := List.length_pos_of_ne_nil ho
  refine scan_eq_of_le ?_ ?_ fuel s h
  · intro fuel
    cases fuel with
    | zero => rfl
    | succ fuel => simp [blocksAux, cut, ho]
  · intro fuel fuel' s ih
    simp only [blocksAux]
    cases hcut : cut o s with
    | none => rfl
    | some r =>
        have hlen := cut_length hcut
        simp only
        cases hcut' : cut c r.2 with
        | none => rfl
        | some r' =>
            have hlen' := cut_length hcut'
            simp only
            rw [ih r'.2 (by omega)]

theorem blocks_of_open_none {s : Text} (h : cut o s = none) : blocks o c s = [] := by
  rw [blocks]
  cases s.length with
  | zero => rfl
  | succ k => simp [blocksAux, h]

theorem blocks_of_close_none {s a rest : Text} (h : cut o s = some (a, rest))
    (hc : cut c rest = none) : blocks o c s = [] := by
  rw [blocks]
  cases s.length with
  | zero => rfl
  | succ k => simp [blocksAux, h, hc]

theorem blocks_of_close_some (ho : o ≠ []) {s a rest body rest' : Text}
    (h : cut o s = some (a, rest)) (hc : cut c rest = some (body, rest')) :
    blocks o c s = body :: blocks o c rest' := by
  have hlen := cut_length h
  have hlen' := cut_length hc
  have hpos : 0 < o.length := List.length_pos_of_ne_nil ho
  rw [blocks]
  cases hs : s.length with
  | zero => omega
  | succ k =>
      simp only [blocksAux, h, hc]
      rw [blocksAux_eq_of_le ho k rest' (by omega)]

/-- The three ways a scan goes on, as one induction rule over texts. -/
theorem blocks_induction (ho : o ≠ []) {motive : Text → Prop}
    (stop : ∀ s, blocks o c s = [] → motive s)
    (block : ∀ s a rest body rest', cut o s = some (a, rest) →
      cut c rest = some (body, rest') → blocks o c s = body :: blocks o c rest' →
      motive rest' → motive s) (s : Text) : motive s := by
  induction hn : s.length using Nat.strongRecOn generalizing s with
  | ind n ih =>
      subst hn
      cases h : cut o s with
      | none => exact stop s (blocks_of_open_none h)
      | some r =>
          obtain ⟨a, rest⟩ := r
          cases hc : cut c rest with
          | none => exact stop s (blocks_of_close_none h hc)
          | some r' =>
              obtain ⟨body, rest'⟩ := r'
              have hlen := cut_length h
              have hlen' := cut_length hc
              have hpos : 0 < o.length := List.length_pos_of_ne_nil ho
              exact block s a rest body rest' h hc (blocks_of_close_some ho h hc)
                (ih _ (by omega) rest' rfl)

/-- Every block stands in the text between its two delimiters. -/
theorem delimited_of_mem_blocks (ho : o ≠ []) {s body : Text} (h : body ∈ blocks o c s) :
    o ++ body ++ c <:+: s := by
  induction s using blocks_induction (c := c) ho with
  | stop s hs => simp [hs] at h
  | block s a rest b rest' hcut hcut' hs ih =>
      have happ : s = a ++ (o ++ b ++ c) ++ rest' := by
        rw [cut_append hcut, cut_append hcut']
        simp only [List.append_assoc]
      rw [hs] at h
      rcases List.mem_cons.mp h with rfl | h
      · exact ⟨a, rest', happ.symm⟩
      · rw [happ]
        exact (ih h).trans (List.suffix_append _ _).isInfix

theorem contains_of_mem_blocks (ho : o ≠ []) {s body : Text} (h : body ∈ blocks o c s) :
    contains o s ∧ contains c s := by
  have hd := delimited_of_mem_blocks ho h
  refine ⟨contains_iff.mpr (List.IsInfix.trans ⟨[], body ++ c, by simp⟩ hd), ?_⟩
  exact contains_iff.mpr (List.IsInfix.trans ⟨o ++ body, [], by simp⟩ hd)

/-- There is a block exactly when a closing delimiter stands behind an opening one. -/
theorem blocks_eq_nil_iff (ho : o ≠ []) {s : Text} :
    blocks o c s = [] ↔ ∀ u v, s = u ++ o ++ v → ¬ contains c v := by
  constructor
  · intro h u v hs hc
    subst hs
    obtain ⟨⟨a, rest⟩, hcut⟩ := Option.isSome_iff_exists.mp (cut_isSome_of_append u v)
    have hrest : contains c rest :=
      contains_iff.mpr ((contains_iff.mp hc).trans (suffix_of_cut hcut).isInfix)
    obtain ⟨⟨body, rest'⟩, hcut'⟩ := Option.isSome_iff_exists.mp hrest
    rw [blocks_of_close_some ho hcut hcut'] at h
    cases h
  · intro h
    cases hcut : cut o s with
    | none => exact blocks_of_open_none hcut
    | some r =>
        obtain ⟨a, rest⟩ := r
        have hclose := h a rest (cut_append hcut)
        exact blocks_of_close_none hcut (Option.not_isSome_iff_eq_none.mp hclose)

/-! ## Replacing the blocks -/

theorem replaceBlocksAux_eq_of_le (ho : o ≠ []) (f : Text → Text) (fuel : ℕ) (s : Text)
    (h : s.length ≤ fuel) : replaceBlocksAux o c f fuel s = replaceBlocks o c f s := by
  have hpos : 0 < o.length := List.length_pos_of_ne_nil ho
  refine scan_eq_of_le ?_ ?_ fuel s h
  · intro fuel
    cases fuel with
    | zero => rfl
    | succ fuel => simp [replaceBlocksAux, cut, ho]
  · intro fuel fuel' s ih
    simp only [replaceBlocksAux]
    cases hcut : cut o s with
    | none => rfl
    | some r =>
        have hlen := cut_length hcut
        simp only
        cases hcut' : cut c r.2 with
        | none => rfl
        | some r' =>
            have hlen' := cut_length hcut'
            simp only
            rw [ih r'.2 (by omega)]

/-- A text without a block is left as it is. -/
theorem replaceBlocks_eq_self (ho : o ≠ []) (f : Text → Text) {s : Text}
    (h : blocks o c s = []) : replaceBlocks o c f s = s := by
  rw [replaceBlocks]
  cases s.length with
  | zero => rfl
  | succ k =>
      simp only [replaceBlocksAux]
      cases hcut : cut o s with
      | none => rfl
      | some r =>
          simp only
          cases hcut' : cut c r.2 with
          | none => rfl
          | some r' =>
              rw [blocks_of_close_some ho hcut hcut'] at h
              cases h

theorem replaceBlocks_of_close_some (ho : o ≠ []) (f : Text → Text)
    {s a rest body rest' : Text} (h : cut o s = some (a, rest))
    (hc : cut c rest = some (body, rest')) :
    replaceBlocks o c f s = a ++ f body ++ replaceBlocks o c f rest' := by
  have hlen := cut_length h
  have hlen' := cut_length hc
  have hpos : 0 < o.length := List.length_pos_of_ne_nil ho
  rw [replaceBlocks]
  cases hs : s.length with
  | zero => omega
  | succ k =>
      simp only [replaceBlocksAux, h, hc]
      rw [replaceBlocksAux_eq_of_le ho f k rest' (by omega)]

/-- What stands for a block is part of the result. -/
theorem infix_replaceBlocks (ho : o ≠ []) (f : Text → Text) {s body : Text}
    (h : body ∈ blocks o c s) : f body <:+: replaceBlocks o c f s := by
  induction s using blocks_induction (c := c) ho with
  | stop s hs => simp [hs] at h
  | block s a rest b rest' hcut hcut' hs ih =>
      rw [replaceBlocks_of_close_some ho f hcut hcut']
      rw [hs] at h
      rcases List.mem_cons.mp h with rfl | h
      · exact ⟨a, replaceBlocks o c f rest', rfl⟩
      · exact (ih h).trans (List.suffix_append _ _).isInfix

/-! ## Counting occurrences -/

/-- The number of positions at which `pat` stands in the text. -/
def occurrences (pat : Text) : Text → ℕ
  | [] => if pat.isPrefixOf [] then 1 else 0
  | c :: cs => (if pat.isPrefixOf (c :: cs) then 1 else 0) + occurrences pat cs

theorem occurrences_le_append (pat a b : Text) :
    occurrences pat b ≤ occurrences pat (a ++ b) := by
  induction a with
  | nil => simp
  | cons x a ih =>
      simp only [List.cons_append, occurrences]
      omega

theorem occurrences_cut {pat s a b : Text} (hp : pat ≠ []) (h : cut pat s = some (a, b)) :
    1 + occurrences pat b ≤ occurrences pat s := by
  rw [cut_append h, List.append_assoc]
  refine le_trans ?_ (occurrences_le_append pat a (pat ++ b))
  cases pat with
  | nil => exact absurd rfl hp
  | cons p ps =>
      have hpre : (p :: ps).isPrefixOf (p :: (ps ++ b)) :=
        List.isPrefixOf_iff_prefix.mpr (by simp)
      simp only [List.cons_append, occurrences, hpre, ite_true]
      have := occurrences_le_append (p :: ps) ps b
      omega

theorem occurrences_pos_iff {pat : Text} (hp : pat ≠ []) (s : Text) :
    0 < occurrences pat s ↔ contains pat s := by
  induction s with
  | nil =>
      have h : pat.isPrefixOf [] = false := by
        cases pat with
        | nil => exact absurd rfl hp
        | cons p ps => rfl
      simp [occurrences, contains, cut, h, hp]
  | cons x s ih =>
      by_cases h : pat.isPrefixOf (x :: s)
      · have hcontains : contains pat (x :: s) = true := by simp [contains, cut, h]
        rw [occurrences, if_pos h]
        exact iff_of_true (by omega) hcontains
      · have hcut : contains pat (x :: s) = contains pat s := by
          simp [contains, cut, h]
        rw [hcut, ← ih]
        simp [occurrences, h]

/-- Every block has an opening delimiter of its own. -/
theorem length_blocks_le_occurrences (ho : o ≠ []) (s : Text) :
    (blocks o c s).length ≤ occurrences o s := by
  induction s using blocks_induction (c := c) ho with
  | stop s hs => simp [hs]
  | block s a rest b rest' hcut hcut' hs ih =>
      have h1 := occurrences_cut ho hcut
      have h2 := occurrences_le_append o (b ++ c) rest'
      rw [← cut_append hcut'] at h2
      rw [hs, List.length_cons]
      omega

end PyText
