import SearchR1.Verification.Advantage.TokenReturns
import Mathlib.Data.List.GetD

/-! # Token baselines of multi-turn trajectories -/

namespace SearchR1.CoreAlgos

open Masked IndexLoop List

variable {K U : Type*} {n : ℕ}

/-! ## The longest trajectory of a group -/

section ZeroTail

/-- The last entry of a sorted list is its largest. -/
theorem getD_insertionSort_last {l : List ℕ} (h : l ≠ []) :
    (l.insertionSort (· ≤ ·)).getD (l.length - 1) 0 ∈ l ∧
      ∀ x ∈ l, x ≤ (l.insertionSort (· ≤ ·)).getD (l.length - 1) 0 := by
  have hperm := perm_insertionSort (· ≤ ·) l
  have hlength : (l.insertionSort (· ≤ ·)).length = l.length := hperm.length_eq
  have hpos := length_pos_iff.mpr h
  have hlt : l.length - 1 < (l.insertionSort (· ≤ ·)).length := by omega
  have hsorted : (l.insertionSort (· ≤ ·)).Pairwise (· ≤ ·) := pairwise_insertionSort _ l
  rw [getD_eq_getElem _ _ hlt]
  refine ⟨hperm.subset (getElem_mem hlt), ?_⟩
  intro x hx
  rcases getElem_of_mem (hperm.symm.subset hx) with ⟨k, hk, rfl⟩
  rcases Nat.lt_or_ge k (l.length - 1) with hlt' | hge
  · exact pairwise_iff_getElem.mp hsorted k (l.length - 1) hk hlt hlt'
  · have he : k = l.length - 1 := by omega
    simp [he]

/-- The second largest entry, when the largest one is `m` and stands once. -/
theorem insertionSort_cons_of_lt {m : ℕ} {l : List ℕ} (h : ∀ x ∈ l, x < m) {l' : List ℕ}
    (hperm : l' ~ m :: l) :
    l'.insertionSort (· ≤ ·) = l.insertionSort (· ≤ ·) ++ [m] := by
  have hsorted : (l.insertionSort (· ≤ ·) ++ [m]).Pairwise (· ≤ ·) := by
    rw [pairwise_append]
    refine ⟨pairwise_insertionSort _ l, pairwise_singleton _ _, ?_⟩
    intro x hx y hy
    rw [mem_singleton.mp hy]
    exact (h x ((perm_insertionSort (· ≤ ·) l).subset hx)).le
  refine Perm.eq_of_pairwise ?_ (pairwise_insertionSort _ l') hsorted ?_
  · intro a b _ _ hab hba
    exact Nat.le_antisymm hab hba
  · calc l'.insertionSort (· ≤ ·) ~ l' := perm_insertionSort _ _
      _ ~ m :: l := hperm
      _ ~ m :: l.insertionSort (· ≤ ·) := (perm_insertionSort _ l).symm.cons m
      _ ~ l.insertionSort (· ≤ ·) ++ [m] := (perm_append_singleton m _).symm

theorem filter_eq_singleton {group : List (Fin n)} (hnodup : group.Nodup) {i : Fin n}
    (hi : i ∈ group) {p : Fin n → Bool} (h : ∀ j ∈ group, p j = true ↔ j = i) :
    group.filter p = [i] := by
  have hcongr : group.filter p = group.filter fun j => j = i := by
    apply filter_congr
    intro j hj
    rw [Bool.eq_iff_iff, h j hj, decide_eq_true_eq]
  rw [hcongr, filter_eq, count_eq_one_of_mem hnodup hi, replicate_one]

variable {lengths : Fin n → ℕ} {group : List (Fin n)} {i : Fin n}

theorem length_sortedOthers (hi : i ∈ group) :
    (((group.erase i).map lengths).insertionSort (· ≤ ·)).length = group.length - 1 := by
  rw [length_insertionSort, length_map, length_erase_of_mem hi]

section Longest

variable (hnodup : group.Nodup) (hi : i ∈ group)
  (hlong : ∀ j ∈ group, j ≠ i → lengths j < lengths i)

include hnodup hi hlong

theorem sortedLengths_of_longest : (group.map lengths).insertionSort (· ≤ ·) =
    ((group.erase i).map lengths).insertionSort (· ≤ ·) ++ [lengths i] := by
  apply insertionSort_cons_of_lt
  · rw [forall_mem_map]
    intro j hj
    exact hlong j (mem_of_mem_erase hj) (hnodup.mem_erase_iff.mp hj).1
  · exact (perm_cons_erase hi).map lengths

theorem maxLength_of_longest :
    ((group.map lengths).insertionSort (· ≤ ·)).getD (group.length - 1) 0 = lengths i := by
  have hlength : (((group.erase i).map lengths).insertionSort (· ≤ ·)).length =
      group.length - 1 := length_sortedOthers hi
  rw [sortedLengths_of_longest hnodup hi hlong, getD_append_right _ _ _ _ hlength.le, hlength,
    Nat.sub_self]
  rfl

/-- The last but one entry is the largest of the other rows. -/
theorem secondMaxLength_of_longest (htwo : 2 ≤ group.length) :
    ((group.map lengths).insertionSort (· ≤ ·)).getD (group.length - 2) 0 < lengths i ∧
      ∀ t, ((group.map lengths).insertionSort (· ≤ ·)).getD (group.length - 2) 0 ≤ t ↔
        ∀ j ∈ group, j ≠ i → lengths j ≤ t := by
  have hlength : (((group.erase i).map lengths).insertionSort (· ≤ ·)).length =
      group.length - 1 := length_sortedOthers hi
  have hothers : ((group.erase i).map lengths).length = group.length - 1 := by
    rw [length_map, length_erase_of_mem hi]
  have hne : (group.erase i).map lengths ≠ [] := by
    rw [← length_pos_iff, hothers]
    omega
  have hsup := getD_insertionSort_last hne
  have hindex : group.length - 2 = ((group.erase i).map lengths).length - 1 := by omega
  rw [sortedLengths_of_longest hnodup hi hlong, getD_append _ _ _ _ (by omega), hindex]
  constructor
  · rcases mem_map.mp hsup.1 with ⟨j, hj, he⟩
    rw [← he]
    exact hlong j (mem_of_mem_erase hj) (hnodup.mem_erase_iff.mp hj).1
  · intro t
    constructor
    · intro hle j hj hji
      have hmem : lengths j ∈ (group.erase i).map lengths :=
        mem_map_of_mem (hnodup.mem_erase_iff.mpr ⟨hji, hj⟩)
      exact (hsup.2 _ hmem).trans hle
    · intro h
      rcases mem_map.mp hsup.1 with ⟨j, hj, he⟩
      rw [← he]
      exact h j (mem_of_mem_erase hj) (hnodup.mem_erase_iff.mp hj).1

theorem filter_maxLength_of_longest : group.filter (fun j => lengths j =
    ((group.map lengths).insertionSort (· ≤ ·)).getD (group.length - 1) 0) = [i] := by
  apply filter_eq_singleton hnodup hi
  intro j hj
  rw [decide_eq_true_eq, maxLength_of_longest hnodup hi hlong]
  constructor
  · intro he
    by_contra hji
    exact (hlong j hj hji).ne he
  · rintro rfl
    rfl

end Longest

/-- A row that is the only one of the largest length is longer than all others. -/
theorem longest_of_filter (hi : i ∈ group) (h : group.filter (fun j => lengths j =
    ((group.map lengths).insertionSort (· ≤ ·)).getD (group.length - 1) 0) = [i]) :
    ∀ j ∈ group, j ≠ i → lengths j < lengths i := by
  intro j hj hji
  have hne : group.map lengths ≠ [] := fun hnil => by
    rw [map_eq_nil_iff] at hnil
    exact not_mem_nil (hnil ▸ hi)
  have hmax := (getD_insertionSort_last hne).2 (lengths j) (mem_map_of_mem hj)
  rw [length_map] at hmax
  have hself := mem_filter.mp (h ▸ mem_singleton_self i)
  have hlast : lengths i =
    ((group.map lengths).insertionSort (· ≤ ·)).getD (group.length - 1) 0 :=
      of_decide_eq_true hself.2
  refine lt_of_le_of_ne (hmax.trans hlast.ge) fun he => hji ?_
  have hmem : j ∈ group.filter fun j => lengths j =
      ((group.map lengths).insertionSort (· ≤ ·)).getD (group.length - 1) 0 :=
    mem_filter.mpr ⟨hj, decide_eq_true (he.trans hlast)⟩
  rw [h] at hmem
  exact mem_singleton.mp hmem

variable [Field K]

/-- The tail of a row is cut where every other row of the group has ended, and only when they all
are shorter. -/
theorem zeroTail_apply (hnodup : group.Nodup) (htwo : 2 ≤ group.length) (hi : i ∈ group)
    (baselines : Fin n → ℕ → K) (t : ℕ) :
    zeroTail lengths group baselines i t =
      if ∀ j ∈ group, j ≠ i → lengths j < lengths i ∧ lengths j ≤ t then 0 else baselines i t := by
  by_cases hlong : ∀ j ∈ group, j ≠ i → lengths j < lengths i
  · have hsecond := secondMaxLength_of_longest hnodup hi hlong htwo
    have hiff : ((group.map lengths).insertionSort (· ≤ ·)).getD (group.length - 2) 0 ≤ t ↔
        ∀ j ∈ group, j ≠ i → lengths j < lengths i ∧ lengths j ≤ t := by
      rw [hsecond.2]
      exact ⟨fun h j hj hji => ⟨hlong j hj hji, h j hj hji⟩, fun h j hj hji => (h j hj hji).2⟩
    simp only [zeroTail]
    rw [filter_maxLength_of_longest hnodup hi hlong, maxLength_of_longest hnodup hi hlong]
    simp only [if_pos hsecond.1, Function.update_self, hiff]
  · have hnot : ¬∀ j ∈ group, j ≠ i → lengths j < lengths i ∧ lengths j ≤ t :=
      fun h => hlong fun j hj hji => (h j hj hji).1
    rw [if_neg hnot]
    simp only [zeroTail]
    rcases hfilter : group.filter fun j => lengths j =
      ((group.map lengths).insertionSort (· ≤ ·)).getD (group.length - 1) 0 with _ | ⟨k, _ | _⟩
    · rfl
    · have hki : i ≠ k := by
        rintro rfl
        exact hlong (longest_of_filter hi hfilter)
      simp only []
      split
      · rw [Function.update_of_ne hki]
      · rfl
    · rfl

end ZeroTail

/-! ## The rows of a prompt -/

section Prompts

variable [DecidableEq U] (batch : Fin n → List (Token K)) (index : Fin n → U) (i : Fin n)

/-- The rows of the prompt of a row. -/
def promptRows : List (Fin n) :=
  (finRange n).filter fun j => index j = index i

theorem mem_promptRows {index : Fin n → U} {i j : Fin n} :
    j ∈ promptRows index i ↔ index j = index i := by
  simp [promptRows]

theorem nodup_promptRows : (promptRows index i).Nodup :=
  (nodup_finRange n).filter _

/-- The rows of the prompt with a token of the model. -/
def promptTurns : List (Fin n) :=
  (promptRows index i).filter fun j => responseLength (batch j) ≠ 0

theorem mem_promptTurns {index : Fin n → U} {i j : Fin n} : j ∈ promptTurns batch index i ↔
    index j = index i ∧ responseLength (batch j) ≠ 0 := by
  rw [promptTurns, mem_filter, mem_promptRows, decide_eq_true_eq]

/-- A row without tokens of the model is no rival for the longest one. -/
theorem longest_promptRows_iff (hlength : responseLength (batch i) ≠ 0) (t : ℕ) :
    (∀ j ∈ promptRows index i, j ≠ i →
        responseLength (batch j) < responseLength (batch i) ∧ responseLength (batch j) ≤ t) ↔
      ∀ j ∈ promptTurns batch index i, j ≠ i →
        responseLength (batch j) < responseLength (batch i) ∧ responseLength (batch j) ≤ t := by
  constructor
  · intro h j hj
    exact h j (mem_filter.mp hj).1
  · intro h j hj hji
    by_cases hzero : responseLength (batch j) = 0
    · omega
    · exact h j (mem_filter.mpr ⟨hj, decide_eq_true hzero⟩) hji

end Prompts

/-! ## The loops over the prompts -/

section Groups

variable [Field K] [DecidableEq U] (cfg : BaselineConfig K)

/-- At most the tail of one row of the group changes. -/
theorem zeroTail_cases (lengths : Fin n → ℕ) (group : List (Fin n)) :
    (∃ k ∈ group, ∃ second, ∀ x : Fin n → ℕ → K, zeroTail lengths group x =
        Function.update x k fun t => if second ≤ t then 0 else x k t) ∨
      ∀ x : Fin n → ℕ → K, zeroTail lengths group x = x := by
  simp only [zeroTail]
  rcases hfilter : group.filter fun j => lengths j =
    ((group.map lengths).insertionSort (· ≤ ·)).getD (group.length - 1) 0 with _ | ⟨k, _ | _⟩
  · exact .inr fun x => rfl
  · have hk := mem_filter.mp (hfilter ▸ mem_singleton_self k)
    by_cases hlt : ((group.map lengths).insertionSort (· ≤ ·)).getD (group.length - 2) 0 <
      ((group.map lengths).insertionSort (· ≤ ·)).getD (group.length - 1) 0
    · exact .inl ⟨k, hk.1, _, fun x => if_pos hlt⟩
    · exact .inr fun x => if_neg hlt
  · exact .inr fun x => rfl

theorem zeroTail_congr (lengths : Fin n → ℕ) (group : List (Fin n)) {x y : Fin n → ℕ → K}
    {i : Fin n} (h : x i = y i) : zeroTail lengths group x i = zeroTail lengths group y i := by
  rcases zeroTail_cases (K := K) lengths group with ⟨k, _, second, htail⟩ | hsame
  · rw [htail, htail]
    by_cases hik : i = k
    · subst hik
      rw [Function.update_self, Function.update_self, h]
    · rw [Function.update_of_ne hik, Function.update_of_ne hik, h]
  · rw [hsame, hsame, h]

theorem zeroTail_of_not_mem (lengths : Fin n → ℕ) {group : List (Fin n)} (x : Fin n → ℕ → K)
    {i : Fin n} (hi : i ∉ group) : zeroTail lengths group x i = x i := by
  rcases zeroTail_cases (K := K) lengths group with ⟨k, hk, second, htail⟩ | hsame
  · have hik : i ≠ k := fun he => hi (he ▸ hk)
    rw [htail, Function.update_of_ne hik]
  · rw [hsame]

theorem assignBaseline_of_not_mem (lengths : Fin n → ℕ) (baseline : ℕ → K)
    (x : Fin n → ℕ → K) {group : List (Fin n)} {i : Fin n} (hi : i ∉ group) :
    assignBaseline cfg lengths baseline x group i = x i := by
  have hfill : fill x group baseline i = x i := by rw [fill_apply, if_neg hi]
  simp only [assignBaseline]
  split
  · rw [zeroTail_of_not_mem lengths _ hi, hfill]
  · exact hfill

theorem assignBaseline_congr (lengths : Fin n → ℕ) (baseline : ℕ → K) (x y : Fin n → ℕ → K)
    {group : List (Fin n)} {i : Fin n} (hi : i ∈ group) :
    assignBaseline cfg lengths baseline x group i =
      assignBaseline cfg lengths baseline y group i := by
  have hfill : fill x group baseline i = fill y group baseline i := by
    rw [fill_apply, fill_apply, if_pos hi, if_pos hi]
  simp only [assignBaseline]
  split
  · exact zeroTail_congr lengths group hfill
  · exact hfill

theorem assignBaseline_apply (lengths : Fin n → ℕ) (baseline : ℕ → K) (baselines : Fin n → ℕ → K)
    {group : List (Fin n)} (hnodup : group.Nodup) (htwo : 2 ≤ group.length) {i : Fin n}
    (hi : i ∈ group) (t : ℕ) :
    assignBaseline cfg lengths baseline baselines group i t =
      if cfg.handleZeroTail ∧ ∀ j ∈ group, j ≠ i → lengths j < lengths i ∧ lengths j ≤ t then 0
      else baseline t := by
  simp only [assignBaseline]
  cases cfg.handleZeroTail with
  | true => simp [zeroTail_apply hnodup htwo hi, fill_apply, hi]
  | false => simp [fill_apply, hi]

theorem two_le_length {group : List (Fin n)} {i : Fin n} (hi : i ∈ group)
    (h : ¬group.length = 1) : 2 ≤ group.length := by
  have hpos := length_pos_of_mem hi
  omega

variable (batch : Fin n → List (Token K)) (index : Fin n → U) (i : Fin n)

theorem tokenBaselines_apply (t : ℕ) : tokenBaselines cfg batch index i t =
    if (promptRows index i).length = 1 then 0
    else if cfg.handleZeroTail ∧ ∀ j ∈ promptRows index i, j ≠ i →
        responseLength (batch j) < responseLength (batch i) ∧ responseLength (batch j) ≤ t then 0
    else baselinePerStep cfg batch (promptRows index i) t := by
  have hi : i ∈ promptRows index i := mem_promptRows.mpr rfl
  rw [tokenBaselines, Dict.foldl_groupRows index, if_pos (mem_finRange i), ← promptRows,
    groupBaselines]
  · split
    · rfl
    · rw [assignBaseline_apply cfg _ _ _ (nodup_promptRows index i)
        (two_le_length hi ‹_›) hi]
  · intro x group i hi
    rw [groupBaselines]
    split
    · rfl
    · exact assignBaseline_of_not_mem cfg _ _ x hi
  · intro x y group hxy i hi
    rw [groupBaselines, groupBaselines]
    split
    · exact hxy i hi
    · exact assignBaseline_congr cfg _ _ x y hi

theorem multiTurnBaselines_apply (hlength : responseLength (batch i) ≠ 0) (t : ℕ) :
    multiTurnBaselines cfg batch index i t =
      if (promptTurns batch index i).length = 1 then 0
      else if cfg.handleZeroTail ∧ ∀ j ∈ promptTurns batch index i, j ≠ i →
          responseLength (batch j) < responseLength (batch i) ∧ responseLength (batch j) ≤ t then 0
      else bStar cfg batch (promptTurns batch index i) t := by
  have hgroup : ((finRange n).filter fun j => responseLength (batch j) ≠ 0).filter
      (fun j => index j = index i) = promptTurns batch index i := by
    rw [promptTurns, promptRows, filter_filter, filter_filter]
    simp only [Bool.and_comm]
  have hrow : i ∈ (finRange n).filter fun j => responseLength (batch j) ≠ 0 := by
    simpa using hlength
  have hi : i ∈ promptTurns batch index i := by
    rw [← hgroup, mem_filter]
    exact ⟨hrow, by simp⟩
  rw [multiTurnBaselines, Dict.foldl_groupRows index, if_pos hrow, hgroup,
    multiTurnGroupBaselines]
  · split
    · rw [fill_apply, if_pos hi]
    · have hnodup : (promptTurns batch index i).Nodup := (nodup_promptRows index i).filter _
      rw [assignBaseline_apply cfg _ _ _ hnodup (two_le_length hi ‹_›) hi]
  · intro x group i hi
    rw [multiTurnGroupBaselines]
    split
    · rw [fill_apply, if_neg hi]
    · exact assignBaseline_of_not_mem cfg _ _ x hi
  · intro x y group hxy i hi
    rw [multiTurnGroupBaselines, multiTurnGroupBaselines]
    split
    · rw [fill_apply, fill_apply, if_pos hi, if_pos hi]
    · exact assignBaseline_congr cfg _ _ x y hi

end Groups

/-! ## Packed trajectories -/

section Packed

variable [Field K] (cfg : BaselineConfig K)

theorem select_wCumulative (row : List (Token K)) :
    select Token.responseMask row (wCumulative cfg row) =
      wCumulative cfg (row.filter Token.responseMask) := by
  apply select_scanFront
  intro tok earlier h
  rw [Token.maskValue_of_not_mask h, mul_zero, add_zero]

@[simp] theorem length_wCumulative (row : List (Token K)) :
    (wCumulative cfg row).length = row.length := length_scanFront _ _ _

variable (batch : Fin n → List (Token K)) (i : Fin n)

theorem responseLength_packed : responseLength (packed batch i) = responseLength (batch i) := by
  rw [responseLength_eq, responseLength_eq, packed, filter_pack _ (by rfl)]

theorem select_packed {values : List K} (h : values.length = (batch i).length) :
    select Token.responseMask (packed batch i) values =
      values.take (responseLength (batch i)) := by
  rw [packed, select_pack _ (by rfl) h, responseLength_eq]

/-- The first entries of a packed row are those at the tokens of the model. -/
theorem take_packed {f : List (Token K) → List K}
    (hf : ∀ row, select Token.responseMask row (f row) = f (row.filter Token.responseMask))
    (hlength : ∀ row, (f row).length = row.length) :
    (f (packed batch i)).take (responseLength (batch i)) =
      select Token.responseMask (batch i) (f (batch i)) := by
  have h := congrFun (modelEntries_packed hf batch) i
  rwa [modelEntries, modelEntries, select_packed batch i (by rw [hlength, length_packed])] at h

theorem getD_maskValue_packed (t : ℕ) :
    ((packed batch i).map Token.maskValue).getD t 0 =
      if t < responseLength (batch i) then 1 else 0 := by
  rw [packed, pack, map_append, map_replicate, responseLength_eq]
  split
  · rename_i hlt
    rw [getD_append _ _ _ _ (by rwa [length_map]), getD_eq_getElem _ _ (by rwa [length_map]),
      getElem_map]
    exact Token.maskValue_of_mask (mem_filter.mp (getElem_mem hlt)).2
  · rename_i hge
    rw [getD_append_right _ _ _ _ (by rw [length_map]; omega)]
    have hpad : (padToken : Token K).maskValue = 0 := Token.maskValue_of_not_mask rfl
    rw [hpad, getD_eq_getElem?_getD, getElem?_getD_replicate_default_eq]

/-- At every position the product with the mask of a packed row is the entry of the row's tokens
of the model, nothing after the last one. -/
theorem getD_packed_mul {f : List (Token K) → List K}
    (hf : ∀ row, select Token.responseMask row (f row) = f (row.filter Token.responseMask))
    (hlength : ∀ row, (f row).length = row.length) (t : ℕ) :
    (f (packed batch i)).getD t 0 * ((packed batch i).map Token.maskValue).getD t 0 =
      (select Token.responseMask (batch i) (f (batch i))).getD t 0 := by
  rw [getD_maskValue_packed, ← take_packed batch i hf hlength]
  split
  · rename_i hlt
    rw [mul_one, getD_eq_getElem?_getD, getD_eq_getElem?_getD, getElem?_take_of_lt hlt]
  · rename_i hge
    rw [mul_zero, getD_eq_default]
    rw [length_take]
    omega

theorem sum_map_filter {group : List (Fin n)} {p : Fin n → Bool} {f : Fin n → K}
    (h : ∀ j, p j = false → f j = 0) : ((group.filter p).map f).sum = (group.map f).sum := by
  induction group with
  | nil => rfl
  | cons j group ih =>
      cases hj : p j with
      | true => rw [filter_cons_of_pos hj, map_cons, sum_cons, ih, map_cons, sum_cons]
      | false => rw [filter_cons_of_neg (by rw [hj]; exact Bool.false_ne_true), ih, map_cons,
          sum_cons, h j hj, zero_add]

/-- A row without tokens of the model adds nothing to the sums of its prompt. -/
theorem getD_select_of_length_eq_zero {j : Fin n} (h : responseLength (batch j) = 0)
    {values : List K} (hlength : values.length = (batch j).length) (t : ℕ) :
    (select Token.responseMask (batch j) values).getD t 0 = 0 := by
  rw [getD_eq_default]
  rw [length_select _ hlength, ← responseLength_eq, h]
  exact Nat.zero_le t

variable [DecidableEq U] (index : Fin n → U)

theorem baselinePerStep_packed (t : ℕ) :
    baselinePerStep cfg (packed batch) (promptRows index i) t =
      bStar cfg batch (promptTurns batch index i) t := by
  have hw : ∀ j, (wCumulative cfg (packed batch j)).getD t 0 *
      ((packed batch j).map Token.maskValue).getD t 0 = (allWValues cfg batch j).getD t 0 :=
    fun j => getD_packed_mul batch j (select_wCumulative cfg) (length_wCumulative cfg) t
  have hproduct : ∀ j, (rewardToGo (packed batch j)).getD t 0 *
      (wCumulative cfg (packed batch j)).getD t 0 *
        ((packed batch j).map Token.maskValue).getD t 0 =
      (allReturns batch j).getD t 0 * (allWValues cfg batch j).getD t 0 := by
    intro j
    have hret := getD_packed_mul batch j (f := rewardToGo) select_rewardToGo length_rewardToGo t
    rw [allReturns, ← hret, ← hw j, getD_maskValue_packed]
    split <;> ring
  have hzero : ∀ j, decide (responseLength (batch j) ≠ 0) = false →
      (allWValues cfg batch j).getD t 0 = 0 := by
    intro j hj
    exact getD_select_of_length_eq_zero batch (by simpa using hj) (length_wCumulative cfg _) t
  simp only [baselinePerStep, bStar, hw, hproduct, promptTurns]
  rw [sum_map_filter hzero, sum_map_filter fun j hj => by rw [hzero j hj, mul_zero]]

/-- The baselines of a row with a token of the model. -/
theorem tokenBaselines_packed
    (htail : cfg.handleZeroTail = true ∨ ∀ j, responseLength (batch j) ≠ 0)
    (hlength : responseLength (batch i) ≠ 0) (t : ℕ) :
    tokenBaselines cfg (packed batch) index i t = multiTurnBaselines cfg batch index i t := by
  have hi : i ∈ promptTurns batch index i := (mem_promptTurns batch).mpr ⟨rfl, hlength⟩
  have hle : (promptTurns batch index i).length ≤ (promptRows index i).length :=
    length_filter_le _ _
  have hpos := length_pos_of_mem hi
  rw [tokenBaselines_apply, multiTurnBaselines_apply cfg batch index i hlength]
  simp only [responseLength_packed, baselinePerStep_packed, longest_promptRows_iff batch index i
    hlength]
  by_cases hone : (promptTurns batch index i).length = 1
  · -- the only row of its prompt with a token of the model is its longest row
    have honly : ∀ j ∈ promptTurns batch index i, j = i := by
      rcases length_eq_one_iff.mp hone with ⟨k, hk⟩
      rw [hk, mem_singleton] at hi
      intro j hj
      rw [hk, mem_singleton] at hj
      exact hj.trans hi.symm
    rw [if_pos hone]
    rcases htail with htail | hall
    · have hlongest : ∀ j ∈ promptTurns batch index i, j ≠ i →
          responseLength (batch j) < responseLength (batch i) ∧ responseLength (batch j) ≤ t :=
        fun j hj hji => absurd (honly j hj) hji
      split
      · rfl
      · rw [if_pos ⟨htail, hlongest⟩]
    · have hsame : promptTurns batch index i = promptRows index i := by
        rw [promptTurns, filter_eq_self]
        intro j _
        exact decide_eq_true (hall j)
      rw [← hsame, if_pos hone]
  · rw [if_neg hone, if_neg (by omega)]

theorem select_timesMask (row : List (Token K)) (values : List K) :
    select Token.responseMask row (timesMask values row) = select Token.responseMask row values := by
  induction row generalizing values with
  | nil => cases values <;> rfl
  | cons tok row ih =>
      cases values with
      | nil => rfl
      | cons v values =>
          have hrest := ih values
          rw [timesMask] at hrest
          cases h : tok.responseMask with
          | true => simp [timesMask, select, h, hrest]
          | false => simp [timesMask, select, h, hrest]

/-- The estimator for several turns computes for the tokens of the model what the estimator for a
single turn computes for the trajectories without their observations. -/
theorem computeMultiTurnOptimalTokenBaselineAdvantage_eq
    (htail : cfg.handleZeroTail = true ∨ ∀ j, responseLength (batch j) ≠ 0) :
    modelEntries batch
        (fun i => (computeMultiTurnOptimalTokenBaselineAdvantage cfg batch index i).1) =
      modelEntries (packed batch)
        (fun i => (computeOptimalTokenBaselineAdvantage cfg (packed batch) index i).1) ∧
    modelEntries batch
        (fun i => (computeMultiTurnOptimalTokenBaselineAdvantage cfg batch index i).2) =
      modelEntries (packed batch)
        (fun i => (computeOptimalTokenBaselineAdvantage cfg (packed batch) index i).2) := by
  constructor
  · funext i
    have hreturns := take_packed batch i (f := rewardToGo) select_rewardToGo length_rewardToGo
    have hlength : ((allReturns batch i).zipIdx.map fun ret =>
        ret.1 - multiTurnBaselines cfg batch index i ret.2).length =
          ((batch i).filter Token.responseMask).length := by
      rw [length_map, length_zipIdx, allReturns, length_select _ (length_rewardToGo _)]
    have hpacked : ((rewardToGo (packed batch i)).zipIdx.map fun ret =>
        ret.1 - tokenBaselines cfg (packed batch) index i ret.2).length = (batch i).length := by
      rw [length_map, length_zipIdx, length_rewardToGo, length_packed]
    simp only [modelEntries, computeMultiTurnOptimalTokenBaselineAdvantage,
      computeOptimalTokenBaselineAdvantage]
    rw [select_timesMask, select_timesMask, select_place _ _ hlength, select_packed batch i hpacked]
    apply ext_getElem?
    intro t
    rw [getElem?_take, getElem?_map, getElem?_map, getElem?_zipIdx, getElem?_zipIdx, allReturns,
      ← hreturns, getElem?_take]
    split
    · rename_i hlt
      rw [Nat.zero_add, Option.map_map, Option.map_map]
      congr 1
      funext ret
      simp only [Function.comp_apply]
      rw [tokenBaselines_packed cfg batch i index htail (by omega)]
    · rfl
  · exact (modelEntries_packed select_rewardToGo batch).symm

/-- Two trajectories of a prompt, the first one with an observation between its two turns. -/
def twoTurns : Fin 2 → List (Token ℚ) :=
  ![[⟨0, 0, 0, 1, 1, true⟩, ⟨5, 0, 0, 1, 1, false⟩, ⟨1, 0, 0, 1, 1, true⟩],
    [⟨0, 0, 0, 1, 1, true⟩, padToken, padToken]]

theorem computeMultiTurnOptimalTokenBaselineAdvantage_eq_twoTurns :
    modelEntries twoTurns (fun i => (computeMultiTurnOptimalTokenBaselineAdvantage
        ⟨fun _ => 1 / 2, false, true, 0⟩ twoTurns (fun _ => 0) i).1) =
      modelEntries (packed twoTurns) fun i => (computeOptimalTokenBaselineAdvantage
        ⟨fun _ => 1 / 2, false, true, 0⟩ (packed twoTurns) (fun _ => 0) i).1 :=
  (computeMultiTurnOptimalTokenBaselineAdvantage_eq ⟨fun _ => 1 / 2, false, true, 0⟩ twoTurns
    (fun _ => 0) (.inl rfl)).1

end Packed

end SearchR1.CoreAlgos
