import SearchR1.Model.KarmarkarKarp
import SearchR1.Library.Spread
import SearchR1.Verification.Advantage.Reordering

/-! # What the merges of the differencing method keep -/

namespace SearchR1.KarmarkarKarp

open SeqlenBalancing List

variable {m : ℕ}

/-! ## Sets -/

namespace ItemSet

@[simp] theorem items_empty : (empty : ItemSet m).items = [] := rfl

@[simp] theorem sum_empty : (empty : ItemSet m).sum = 0 := rfl

@[simp] theorem items_add (s : ItemSet m) (idx : Fin m) (val : ℕ) :
    (s.add idx val).items = s.items ++ [(idx, val)] := rfl

@[simp] theorem sum_add (s : ItemSet m) (idx : Fin m) (val : ℕ) :
    (s.add idx val).sum = s.sum + val := rfl

@[simp] theorem items_merge (s t : ItemSet m) : (s.merge t).items = s.items ++ t.items := rfl

@[simp] theorem sum_merge (s t : ItemSet m) : (s.merge t).sum = s.sum + t.sum := rfl

theorem sum_le_of_key_le {s t : ItemSet m} (h : s.key ≤ t.key) : s.sum ≤ t.sum := by
  rcases Prod.Lex.toLex_le_toLex.mp h with hlt | heq
  · exact hlt.le
  · exact heq.1.le

/-- A set below an empty one is empty, whatever its values are. -/
theorem items_eq_nil_of_key_le {s t : ItemSet m} (h : s.key ≤ t.key) (ht : t.items = []) :
    s.items = [] := by
  have hsum : t.sum = 0 := by rw [t.sum_eq, ht]; rfl
  rcases Prod.Lex.toLex_le_toLex.mp h with hlt | heq
  · exact absurd (hsum ▸ hlt) (Nat.not_lt_zero _)
  · rcases Prod.Lex.toLex_le_toLex.mp heq.2 with hlt | heq
    · exact absurd hlt (by simp [ht])
    · have hlength : s.items.length = 0 := by simpa [ht] using heq.1
      exact length_eq_zero_iff.mp hlength

theorem items_eq_of_key_eq {s t : ItemSet m} (h : s.key = t.key) : s.items = t.items := by
  have hitems : s.items.map toLex = t.items.map toLex :=
    (Prod.mk.inj (toLex.injective (Prod.mk.inj (toLex.injective h)).2)).2
  exact map_injective_iff.mpr toLex.injective hitems

end ItemSet

/-! ## States -/

namespace State

/-- The items of a state, over its sets. -/
def items (s : State m) : Multiset (Fin m × ℕ) := (s.sets.flatMap ItemSet.items : List _)

theorem sortSets_perm (sets : List (ItemSet m)) : (sortSets sets).Perm sets :=
  perm_insertionSort _ sets

theorem sortSets_pairwise (sets : List (ItemSet m)) :
    (sortSets sets).Pairwise fun s t => t.key ≤ s.key :=
  haveI : Std.Total fun s t : ItemSet m => t.key ≤ s.key := ⟨fun s t => le_total t.key s.key⟩
  haveI : IsTrans (ItemSet m) fun s t => t.key ≤ s.key := ⟨fun _ _ _ hst htu => htu.trans hst⟩
  pairwise_insertionSort _ sets

/-- What every state of the heap satisfies: `k` sets in decreasing order whose sums lie within
the bound, and as long as one of them is empty none has a second item. -/
structure Valid (k bound : ℕ) (s : State m) : Prop where
  length_sets : s.sets.length = k
  sorted : s.sets.Pairwise fun s t => t.key ≤ s.key
  within : Spread.Within bound (s.sets.map ItemSet.sum)
  filled : (∀ set ∈ s.sets, set.items ≠ []) ∨ ∀ set ∈ s.sets, set.items.length ≤ 1

theorem Valid.sums_falling {k bound : ℕ} {s : State m} (h : s.Valid k bound) :
    (s.sets.map ItemSet.sum).Pairwise (· ≥ ·) :=
  pairwise_map.mpr (h.sorted.imp ItemSet.sum_le_of_key_le)

/-- The sums of the merged sets, before they are sorted again. -/
theorem map_sum_zipWith_merge (sets others : List (ItemSet m)) :
    (zipWith ItemSet.merge sets others).map ItemSet.sum =
      zipWith (· + ·) (sets.map ItemSet.sum) (others.map ItemSet.sum) := by
  rw [map_zipWith, zipWith_map]
  rfl

theorem flatMap_items_zipWith_merge : ∀ {sets others : List (ItemSet m)},
    sets.length = others.length →
    (zipWith ItemSet.merge sets others).flatMap ItemSet.items ~
      sets.flatMap ItemSet.items ++ others.flatMap ItemSet.items
  | [], [], _ => Perm.refl _
  | s :: sets, t :: others, h => by
      have ih := flatMap_items_zipWith_merge (Nat.succ.inj h)
      rw [zipWith_cons_cons, flatMap_cons, flatMap_cons, flatMap_cons, ItemSet.items_merge,
        append_assoc, append_assoc]
      refine Perm.append_left _ ?_
      calc t.items ++ (zipWith ItemSet.merge sets others).flatMap ItemSet.items
          ~ t.items ++ (sets.flatMap ItemSet.items ++ others.flatMap ItemSet.items) :=
            ih.append_left _
        _ ~ sets.flatMap ItemSet.items ++ (t.items ++ others.flatMap ItemSet.items) := by
            rw [← append_assoc, ← append_assoc]
            exact perm_append_comm.append_right _

/-- No item is lost or doubled by a merge. -/
theorem items_merge {k bound : ℕ} {s t : State m} (hs : s.Valid k bound) (ht : t.Valid k bound) :
    (s.merge t).items = s.items + t.items := by
  have hlength : s.sets.length = t.sets.reverse.length := by
    rw [length_reverse, hs.length_sets, ht.length_sets]
  apply Multiset.coe_eq_coe.mpr
  calc (s.merge t).sets.flatMap ItemSet.items
      ~ (zipWith ItemSet.merge s.sets t.sets.reverse).flatMap ItemSet.items :=
        (sortSets_perm _).flatMap_right _
    _ ~ s.sets.flatMap ItemSet.items ++ t.sets.reverse.flatMap ItemSet.items :=
        flatMap_items_zipWith_merge hlength
    _ ~ s.sets.flatMap ItemSet.items ++ t.sets.flatMap ItemSet.items :=
        ((reverse_perm t.sets).flatMap_right _).append_left _

/-- The items fill the empty sets first: a decreasing row of sets meets an increasing one. -/
theorem filled_zipWith_merge {falling rising : List (ItemSet m)}
    (hfalling : falling.Pairwise fun s t => t.key ≤ s.key)
    (hrising : rising.Pairwise fun s t => s.key ≤ t.key)
    (hf : (∀ set ∈ falling, set.items ≠ []) ∨ ∀ set ∈ falling, set.items.length ≤ 1)
    (hr : (∀ set ∈ rising, set.items ≠ []) ∨ ∀ set ∈ rising, set.items.length ≤ 1) :
    (∀ set ∈ zipWith ItemSet.merge falling rising, set.items ≠ []) ∨
      ∀ set ∈ zipWith ItemSet.merge falling rising, set.items.length ≤ 1 := by
  by_cases hgap : ∃ (i : ℕ) (hi : i < falling.length) (hi' : i < rising.length),
      falling[i].items = [] ∧ rising[i].items = []
  · -- two empty sets meet at `i`: before it the rising row is empty, after it the falling one
    rcases hgap with ⟨i, hi, hi', hfi, hri⟩
    have hf : ∀ set ∈ falling, set.items.length ≤ 1 := by
      rcases hf with hf | hf
      · exact absurd hfi (hf _ (getElem_mem hi))
      · exact hf
    have hr : ∀ set ∈ rising, set.items.length ≤ 1 := by
      rcases hr with hr | hr
      · exact absurd hri (hr _ (getElem_mem hi'))
      · exact hr
    right
    intro set hset
    rcases mem_iff_getElem.mp hset with ⟨j, hj, rfl⟩
    rw [length_zipWith, lt_min_iff] at hj
    have hfj := hf _ (getElem_mem hj.1)
    have hrj := hr _ (getElem_mem hj.2)
    rw [getElem_zipWith, ItemSet.items_merge, length_append]
    rcases lt_trichotomy i j with hij | rfl | hij
    · have hempty := ItemSet.items_eq_nil_of_key_le
        (pairwise_iff_getElem.mp hfalling i j hi hj.1 hij) hfi
      rw [hempty, length_nil]
      omega
    · rw [hfi, hri]
      simp
    · have hempty := ItemSet.items_eq_nil_of_key_le
        (pairwise_iff_getElem.mp hrising j i hj.2 hi' hij) hri
      rw [hempty, length_nil]
      omega
  · left
    intro set hset
    rcases mem_iff_getElem.mp hset with ⟨j, hj, rfl⟩
    rw [length_zipWith, lt_min_iff] at hj
    rw [getElem_zipWith, ItemSet.items_merge]
    intro hnil
    exact hgap ⟨j, hj.1, hj.2, append_eq_nil_iff.mp hnil⟩

/-- A merge spreads the sums no further than either state did. -/
theorem Valid.merge {k bound : ℕ} {s t : State m} (hs : s.Valid k bound) (ht : t.Valid k bound) :
    (s.merge t).Valid k bound := by
  have hrising : t.sets.reverse.Pairwise fun s t => s.key ≤ t.key := pairwise_reverse.mpr ht.sorted
  have hperm := sortSets_perm (zipWith ItemSet.merge s.sets t.sets.reverse)
  constructor
  · calc (s.merge t).sets.length
        = (zipWith ItemSet.merge s.sets t.sets.reverse).length := hperm.length_eq
      _ = k := by
          rw [length_zipWith, length_reverse, hs.length_sets, ht.length_sets, min_self]
  · exact sortSets_pairwise _
  · have hwithin := hs.within.zipWith_add (ht.within.perm (reverse_perm _)) hs.sums_falling
      (pairwise_reverse.mpr ht.sums_falling)
    apply Spread.Within.perm _ (hperm.map ItemSet.sum)
    rw [map_sum_zipWith_merge, map_reverse]
    exact hwithin
  · have hfilled := filled_zipWith_merge hs.sorted hrising hs.filled
      (by simpa only [mem_reverse] using ht.filled)
    have hmem : ∀ set, set ∈ (s.merge t).sets ↔
        set ∈ zipWith ItemSet.merge s.sets t.sets.reverse := fun _ => hperm.mem_iff
    simpa only [hmem] using hfilled

/-- Sets of one size in both states make sets of one size. -/
theorem items_length_merge {s t : State m} {size size' : ℕ}
    (hs : ∀ set ∈ s.sets, set.items.length = size)
    (ht : ∀ set ∈ t.sets, set.items.length = size') :
    ∀ set ∈ (s.merge t).sets, set.items.length = size + size' := by
  intro set hset
  have hmem := (sortSets_perm (zipWith ItemSet.merge s.sets t.sets.reverse)).mem_iff.mp hset
  rcases mem_iff_getElem.mp hmem with ⟨j, hj, rfl⟩
  rw [length_zipWith, lt_min_iff] at hj
  rw [getElem_zipWith, ItemSet.items_merge, length_append, hs _ (getElem_mem hj.1),
    ht _ (mem_reverse.mp (getElem_mem hj.2))]

end State

end SearchR1.KarmarkarKarp
