import Mathlib.Data.List.Basic
import Mathlib.Data.List.Chain
import Mathlib.Data.List.Infix
import Mathlib.Data.List.TakeWhile

/-! # The fields of a list

`fields p` splits a list at the items that satisfy `p` and drops empty parts; it is
`str.split()` when these are the white space. -/

namespace Fields

variable {α : Type*} {p : α → Bool}

def fields (p : α → Bool) (s : List α) : List (List α) :=
  (s.splitOnP p).filter fun w => !w.isEmpty

/-- A part that is not empty and has no separator. -/
def IsField (p : α → Bool) (w : List α) : Prop := w ≠ [] ∧ ∀ c ∈ w, ¬ p c

theorem not_of_dropWhile_eq_cons {s rest : List α} {c : α} (h : s.dropWhile p = c :: rest) :
    p c = false := by
  have hne : s.dropWhile p ≠ [] := by simp [h]
  simpa [h] using List.head_dropWhile_not p hne

/-! ## Splitting -/

theorem fields_append_cons {sep : α} (hsep : p sep) (xs s : List α) :
    fields p (xs ++ sep :: s) = fields p xs ++ fields p s := by
  rw [fields, List.splitOnP_append_cons xs s hsep, List.filter_append]
  rfl

theorem fields_of_forall_not {xs : List α} (h : ∀ c ∈ xs, ¬ p c) :
    fields p xs = if xs = [] then [] else [xs] := by
  rw [fields, List.splitOnP_eq_singleton (by simpa using h)]
  by_cases hxs : xs = [] <;> simp [hxs]

/-- A list has no separator, or it goes on behind the first one. -/
theorem fields_induction {motive : List α → Prop}
    (stop : ∀ xs, (∀ c ∈ xs, ¬ p c) → motive xs)
    (sep : ∀ xs c s, (∀ d ∈ xs, ¬ p d) → p c → motive s → motive (xs ++ c :: s))
    (s : List α) : motive s := by
  induction hn : s.length using Nat.strongRecOn generalizing s with
  | ind n ih =>
      by_cases h : ∀ c ∈ s, ¬ p c
      · exact stop s h
      · simp only [not_forall, not_not] at h
        obtain ⟨c, hc, hpc⟩ := h
        have hne : s.dropWhile (fun d => !p d) ≠ [] := by
          intro hnil
          have hall := List.dropWhile_eq_nil_iff.mp hnil c hc
          simp [hpc] at hall
        obtain ⟨d, rest, hdrop⟩ := List.exists_cons_of_ne_nil hne
        have hsplit : s.takeWhile (fun d => !p d) ++ d :: rest = s := by
          rw [← hdrop, List.takeWhile_append_dropWhile]
        have hd : p d := by simpa using not_of_dropWhile_eq_cons hdrop
        rw [← hsplit]
        apply sep _ _ _ _ hd
        · apply ih rest.length _ rest rfl
          rw [← hn, ← hsplit, List.length_append, List.length_cons]
          omega
        · intro e he
          simpa using List.mem_takeWhile_imp he

theorem isField_of_mem_fields {s w : List α} (h : w ∈ fields p s) : IsField p w := by
  induction s using fields_induction (p := p) with
  | stop xs hxs =>
      rw [fields_of_forall_not hxs] at h
      split at h
      · cases h
      · rename_i hne
        rw [List.mem_singleton.mp h]
        exact ⟨hne, hxs⟩
  | sep xs c s hxs hc ih =>
      rw [fields_append_cons hc, fields_of_forall_not hxs] at h
      rcases List.mem_append.mp h with h | h
      · split at h
        · cases h
        · rename_i hne
          rw [List.mem_singleton.mp h]
          exact ⟨hne, hxs⟩
      · exact ih h

theorem mem_of_mem_fields {s w : List α} (h : w ∈ fields p s) {c : α} (hc : c ∈ w) : c ∈ s := by
  induction s using fields_induction (p := p) with
  | stop xs hxs =>
      rw [fields_of_forall_not hxs] at h
      split at h
      · cases h
      · rwa [List.mem_singleton.mp h] at hc
  | sep xs d s hxs hd ih =>
      rw [fields_append_cons hd, fields_of_forall_not hxs] at h
      rcases List.mem_append.mp h with h | h
      · split at h
        · cases h
        · rw [List.mem_singleton.mp h] at hc
          exact List.mem_append_left _ hc
      · exact List.mem_append_right _ (List.mem_cons_of_mem d (ih h))

/-! ## Joining -/

section Join

variable {sep : α} {ws : List (List α)}

theorem fields_intercalate (hsep : p sep) (hws : ∀ w ∈ ws, IsField p w) :
    fields p ([sep].intercalate ws) = ws := by
  induction ws with
  | nil => rfl
  | cons w ws ih =>
      have hw := hws w List.mem_cons_self
      have hfields : fields p w = [w] := by rw [fields_of_forall_not hw.2, if_neg hw.1]
      cases ws with
      | nil => rw [List.intercalate_singleton, hfields]
      | cons w' ws =>
          rw [List.intercalate_cons_cons, List.append_assoc, List.singleton_append,
            fields_append_cons hsep, hfields,
            ih fun v hv => hws v (List.mem_cons_of_mem w hv)]
          rfl

theorem fields_intercalate_fields (hsep : p sep) (s : List α) :
    fields p ([sep].intercalate (fields p s)) = fields p s :=
  fields_intercalate hsep fun _ => isField_of_mem_fields

theorem mem_intercalate {c : α} (h : c ∈ [sep].intercalate ws) : c = sep ∨ ∃ w ∈ ws, c ∈ w := by
  induction ws with
  | nil => cases h
  | cons w ws ih =>
      cases ws with
      | nil =>
          rw [List.intercalate_singleton] at h
          exact .inr ⟨w, List.mem_singleton_self w, h⟩
      | cons w' ws =>
          rw [List.intercalate_cons_cons, List.append_assoc, List.mem_append,
            List.singleton_append, List.mem_cons] at h
          rcases h with h | rfl | h
          · exact .inr ⟨w, List.mem_cons_self, h⟩
          · exact .inl rfl
          · rcases ih h with rfl | ⟨v, hv, hcv⟩
            · exact .inl rfl
            · exact .inr ⟨v, List.mem_cons_of_mem w hv, hcv⟩

/-- Joined fields start with the first one. -/
theorem head?_intercalate {w : List α} (hw : w ≠ []) :
    ([sep].intercalate (w :: ws)).head? = w.head? := by
  cases ws with
  | nil => rw [List.intercalate_singleton]
  | cons w' ws =>
      rw [List.intercalate_cons_cons, List.append_assoc, List.head?_append_of_ne_nil _ hw]

theorem head?_not_of_isField (hws : ∀ w ∈ ws, IsField p w) :
    ∀ c ∈ ([sep].intercalate ws).head?, ¬ p c := by
  intro c hc
  cases ws with
  | nil => cases hc
  | cons w ws =>
      have hw := hws w List.mem_cons_self
      rw [head?_intercalate hw.1] at hc
      exact hw.2 c (List.mem_of_mem_head? hc)

theorem intercalate_ne_nil {w : List α} (hw : w ≠ []) : [sep].intercalate (w :: ws) ≠ [] := by
  intro h
  have hhead : ([sep].intercalate (w :: ws)).head? = w.head? := head?_intercalate hw
  rw [h, List.head?_nil] at hhead
  exact hw (List.head?_eq_none_iff.mp hhead.symm)

theorem getLast?_not_of_isField (hws : ∀ w ∈ ws, IsField p w) :
    ∀ c ∈ ([sep].intercalate ws).getLast?, ¬ p c := by
  induction ws with
  | nil =>
      intro c hc
      cases hc
  | cons w ws ih =>
      intro c hc
      have hw := hws w List.mem_cons_self
      cases ws with
      | nil =>
          rw [List.intercalate_singleton] at hc
          exact hw.2 c (List.mem_of_mem_getLast? hc)
      | cons w' ws =>
          have hrest : ∀ v ∈ w' :: ws, IsField p v :=
            fun v hv => hws v (List.mem_cons_of_mem w hv)
          rw [List.intercalate_cons_cons, List.getLast?_append_of_ne_nil _
            (intercalate_ne_nil (hrest w' List.mem_cons_self).1)] at hc
          exact ih hrest c hc

/-- No two separators stand next to each other in joined fields. -/
theorem isChain_intercalate (hws : ∀ w ∈ ws, IsField p w) :
    List.IsChain (fun c d => ¬ (p c ∧ p d)) ([sep].intercalate ws) := by
  have hfield : ∀ w, IsField p w → List.IsChain (fun c d => ¬ (p c ∧ p d)) w := by
    intro w hw
    rw [List.isChain_iff_forall_rel_of_append_cons_cons]
    rintro c d u v rfl ⟨hc, -⟩
    exact hw.2 c (List.mem_append_right u List.mem_cons_self) hc
  induction ws with
  | nil => exact List.isChain_nil
  | cons w ws ih =>
      have hw := hws w List.mem_cons_self
      have hrest : ∀ v ∈ ws, IsField p v := fun v hv => hws v (List.mem_cons_of_mem w hv)
      cases ws with
      | nil =>
          rw [List.intercalate_singleton]
          exact hfield w hw
      | cons w' ws =>
          rw [List.intercalate_cons_cons, List.append_assoc, List.isChain_append]
          refine ⟨hfield w hw, ?_, ?_⟩
          · rw [List.isChain_append]
            refine ⟨List.isChain_singleton sep, ih hrest, ?_⟩
            intro c _ d hd hboth
            exact head?_not_of_isField hrest d hd hboth.2
          · intro c hc d _ hboth
            exact hw.2 c (List.mem_of_mem_getLast? hc) hboth.1

end Join

end Fields
