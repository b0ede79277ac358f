import SearchR1.Library.Dict
import SearchR1.Library.IndexLoop

/-! # Dictionaries of lists -/

namespace Dict

variable {κ ν ι α : Type*} [DecidableEq κ]

/-- The loop that appends each value to the list of its key. -/
def collect (entries : List (κ × ν)) : Dict κ (List ν) :=
  entries.foldl (fun d e => d.set e.1 ((d.get? e.1).getD [] ++ [e.2])) []

/-- The values of a key. -/
def valuesOf (entries : List (κ × ν)) (k : κ) : List ν :=
  (entries.filter fun e => e.1 = k).map Prod.snd

theorem valuesOf_cons (e : κ × ν) (entries : List (κ × ν)) (k : κ) :
    valuesOf (e :: entries) k = if e.1 = k then e.2 :: valuesOf entries k else valuesOf entries k := by
  by_cases h : e.1 = k
  · rw [if_pos h, valuesOf, List.filter_cons_of_pos (by simpa using h)]
    rfl
  · rw [if_neg h, valuesOf, List.filter_cons_of_neg (by simpa using h)]
    rfl

theorem nodup_keys_foldl_append (entries : List (κ × ν)) {d : Dict κ (List ν)}
    (h : d.keys.Nodup) :
    (entries.foldl (fun d e => d.set e.1 ((d.get? e.1).getD [] ++ [e.2])) d).keys.Nodup := by
  induction entries generalizing d with
  | nil => exact h
  | cons e entries ih => exact ih (nodup_keys_set _ _ _ h)

theorem nodup_keys_collect (entries : List (κ × ν)) : (collect entries).keys.Nodup :=
  nodup_keys_foldl_append entries List.nodup_nil

theorem get?_foldl_append (entries : List (κ × ν)) (d : Dict κ (List ν)) (k : κ) :
    get? (entries.foldl (fun d e => d.set e.1 ((d.get? e.1).getD [] ++ [e.2])) d) k =
      if k ∈ entries.map Prod.fst then some ((d.get? k).getD [] ++ valuesOf entries k)
      else d.get? k := by
  induction entries generalizing d with
  | nil => simp
  | cons e entries ih =>
      rw [List.foldl_cons, ih, valuesOf_cons]
      by_cases he : e.1 = k
      · subst he
        simp only [get?_set_self, Option.getD_some, List.map_cons, List.mem_cons, true_or, if_true,
          List.append_assoc, List.singleton_append]
        split
        · rfl
        · rename_i hnot
          have hnone : valuesOf entries e.1 = [] := by
            rw [valuesOf, List.map_eq_nil_iff, List.filter_eq_nil_iff]
            intro e' he' heq
            exact hnot (List.mem_map.mpr ⟨e', he', by simpa using heq⟩)
          rw [hnone]
      · rw [get?_set_of_ne _ _ (Ne.symm he), if_neg he]
        simp only [List.map_cons, List.mem_cons, Ne.symm he, false_or]

theorem get?_collect (entries : List (κ × ν)) (k : κ) :
    get? (collect entries) k =
      if k ∈ entries.map Prod.fst then some (valuesOf entries k) else none := by
  rw [collect, get?_foldl_append]
  simp

theorem mem_keys_collect {entries : List (κ × ν)} {k : κ} :
    k ∈ (collect entries).keys ↔ k ∈ entries.map Prod.fst := by
  rw [← not_iff_not, ← get?_eq_none_iff, get?_collect]
  split <;> simp_all

/-- The items of a dictionary with distinct keys, looked up key by key. -/
theorem eq_map_keys {d : Dict κ ν} (default : ν) (h : d.keys.Nodup) :
    d = d.keys.map fun k => (k, (d.get? k).getD default) := by
  have hself : ∀ e ∈ d, (e.1, (d.get? e.1).getD default) = e := by
    intro e he
    rw [get?_of_mem h he]
    rfl
  rw [keys, List.map_map]
  exact (List.map_id d).symm.trans (List.map_congr_left fun e he => (hself e he).symm)

/-- Rows by their label. -/
def groupRows (index : ι → κ) (rows : List ι) : Dict κ (List ι) :=
  collect (rows.map fun i => (index i, i))

theorem valuesOf_rows (index : ι → κ) (rows : List ι) (k : κ) :
    valuesOf (rows.map fun i => (index i, i)) k = rows.filter fun i => index i = k := by
  rw [valuesOf, List.filter_map, List.map_map]
  simp [Function.comp_def]

/-- A loop over the groups whose step rewrites the rows of its group from the values at these
rows: it does to each row what one step with the row's group on the initial array does. -/
theorem foldl_groupRows [DecidableEq ι] (index : ι → κ) (rows : List ι) {step : (ι → α) → List ι → ι → α}
    (hframe : ∀ x group i, i ∉ group → step x group i = x i)
    (hlocal : ∀ x y group, (∀ j ∈ group, x j = y j) → ∀ i ∈ group, step x group i = step y group i)
    (x : ι → α) (i : ι) :
    (groupRows index rows).foldl (fun x group => step x group.2) x i =
      if i ∈ rows then step x (rows.filter fun j => index j = index i) i else x i := by
  let labelStep (x : ι → α) (u : κ) : ι → α := step x (rows.filter fun j => index j = u)
  have hnodup : (groupRows index rows).keys.Nodup := nodup_keys_collect _
  have hmem : ∀ u, u ∈ (groupRows index rows).keys ↔ u ∈ rows.map index := by
    intro u
    rw [groupRows, mem_keys_collect, List.map_map]
    rfl
  have hloop : (groupRows index rows).foldl (fun x group => step x group.2) x =
      (groupRows index rows).keys.foldl labelStep x := by
    conv_lhs => rw [eq_map_keys [] hnodup, List.foldl_map]
    apply List.foldl_ext
    intro x u hu
    simp only [groupRows] at hu ⊢
    rw [get?_collect, valuesOf_rows, if_pos (mem_keys_collect.mp hu)]
    rfl
  have houtside : ∀ x u i, i ∉ rows.filter (fun j => index j = u) → labelStep x u i = x i :=
    fun x u i hi => hframe x _ i hi
  rw [hloop, IndexLoop.foldl_labels_of_local index ?_ ?_ hnodup]
  · by_cases hi : i ∈ rows
    · rw [if_pos hi, if_pos ((hmem _).mpr (List.mem_map_of_mem hi))]
    · rw [if_neg hi]
      split
      · exact houtside x _ i fun h => hi (List.mem_filter.mp h).1
      · rfl
  · intro x u i hi
    apply houtside
    intro h
    exact hi (by simpa using (List.mem_filter.mp h).2)
  · intro x y u hxy i hi
    by_cases hrow : i ∈ rows
    · apply hlocal
      · intro j hj
        exact hxy j (by simpa using (List.mem_filter.mp hj).2)
      · exact List.mem_filter.mpr ⟨hrow, by simpa using hi⟩
    · have hnot : i ∉ rows.filter fun j => index j = u := fun h => hrow (List.mem_filter.mp h).1
      rw [houtside x u i hnot, houtside y u i hnot, hxy i hi]

end Dict
