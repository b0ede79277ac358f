import Mathlib.Data.List.Nodup
import Mathlib.Logic.Function.Basic

/-! # Loops that write an array in place -/

namespace IndexLoop

variable {ι U α : Type*}

/-- `x[indices]`. -/
def gather (x : ι → α) (indices : List ι) : List α := indices.map x

section Write

variable [DecidableEq ι]

/-- `x[indices] = values`. -/
def scatter (x : ι → α) (indices : List ι) (values : List α) : ι → α :=
  (indices.zip values).foldl (fun x p => Function.update x p.1 p.2) x

/-- `x[indices] = value`. -/
def fill (x : ι → α) (indices : List ι) (value : α) : ι → α :=
  indices.foldl (fun x i => Function.update x i value) x

/-- Values computed position by position land where they were computed. -/
theorem scatter_map (x g : ι → α) (indices : List ι) (i : ι) :
    scatter x indices (indices.map g) i = if i ∈ indices then g i else x i := by
  induction indices generalizing x with
  | nil => rfl
  | cons j indices ih =>
      have h := ih (Function.update x j (g j))
      simp only [scatter] at h
      simp only [scatter, List.map_cons, List.zip_cons_cons, List.foldl_cons, h, List.mem_cons]
      by_cases hi : i ∈ indices
      · simp [hi]
      · by_cases hij : i = j
        · subst hij
          simp [hi]
        · simp [hi, hij]

theorem fill_eq_scatter (x : ι → α) (indices : List ι) (value : α) :
    fill x indices value = scatter x indices (indices.map fun _ => value) := by
  induction indices generalizing x with
  | nil => rfl
  | cons j indices ih => exact ih (Function.update x j value)

theorem fill_apply (x : ι → α) (indices : List ι) (value : α) (i : ι) :
    fill x indices value i = if i ∈ indices then value else x i := by
  rw [fill_eq_scatter, scatter_map]

end Write

/-- A loop over distinct labels whose step rewrites the positions of its label writes every
position of these labels once, from its initial value. -/
theorem foldl_labels [DecidableEq U] (index : ι → U) (f : ι → α → α) {step : (ι → α) → U → ι → α}
    (hstep : ∀ x u i, step x u i = if index i = u then f i (x i) else x i) {labels : List U}
    (hnodup : labels.Nodup) (x : ι → α) (i : ι) :
    labels.foldl step x i = if index i ∈ labels then f i (x i) else x i := by
  induction labels generalizing x with
  | nil => rfl
  | cons u labels ih =>
      rw [List.nodup_cons] at hnodup
      rw [List.foldl_cons, ih hnodup.2, hstep]
      by_cases hu : index i = u
      · have hnot : index i ∉ labels := hu ▸ hnodup.1
        simp [hu, hu ▸ hnot]
      · simp [hu]

/-- A loop over distinct labels whose step rewrites the positions of its label from the values at
these positions: it does to each position what one step on the initial array does. -/
theorem foldl_labels_of_local [DecidableEq U] (index : ι → U) {step : (ι → α) → U → ι → α}
    (hframe : ∀ x u i, index i ≠ u → step x u i = x i)
    (hlocal : ∀ x y u, (∀ j, index j = u → x j = y j) → ∀ i, index i = u → step x u i = step y u i)
    {labels : List U} (hnodup : labels.Nodup) (x : ι → α) (i : ι) :
    labels.foldl step x i = if index i ∈ labels then step x (index i) i else x i := by
  induction labels generalizing x with
  | nil => rfl
  | cons u labels ih =>
      rw [List.nodup_cons] at hnodup
      rw [List.foldl_cons, ih hnodup.2]
      by_cases hu : index i = u
      · have hnot : index i ∉ labels := hu ▸ hnodup.1
        have hmem : index i ∈ u :: labels := hu ▸ List.mem_cons_self
        rw [if_neg hnot, if_pos hmem, hu]
      · -- the positions of another label still hold their initial values
        have hkept : ∀ j, index j = index i → step x u j = x j := by
          intro j hj
          exact hframe x u j (hj ▸ hu)
        rw [hlocal (step x u) x (index i) hkept i rfl, hframe x u i hu]
        simp [hu]

end IndexLoop
