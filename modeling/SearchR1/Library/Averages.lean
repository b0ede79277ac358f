import Mathlib.Algebra.BigOperators.Group.List.Lemmas
import Mathlib.Algebra.Order.BigOperators.Group.List
import Mathlib.Algebra.Order.Field.Basic
import Mathlib.Algebra.Order.Field.Rat

/-! # Averages over measurements of which some are missing

A missing measurement makes every sum it enters missing. -/

namespace Averages

variable {α : Type} {K : Type*}

theorem exists_map_some {xs : List (Option K)} (h : none ∉ xs) :
    ∃ ys : List K, xs = ys.map some := by
  induction xs with
  | nil => exact ⟨[], rfl⟩
  | cons x xs ih =>
      rw [List.mem_cons, not_or] at h
      obtain ⟨y, rfl⟩ := Option.ne_none_iff_exists'.mp (Ne.symm h.1)
      obtain ⟨ys, rfl⟩ := ih h.2
      exact ⟨y :: ys, rfl⟩

section Sum

variable [AddCommMonoid K]

def sum : List (Option K) → Option K
  | [] => some 0
  | x :: xs => Option.map₂ (· + ·) x (sum xs)

@[simp] theorem sum_map_some (xs : List K) : sum (xs.map some) = some xs.sum := by
  induction xs with
  | nil => rfl
  | cons x xs ih => rw [List.map_cons, sum, ih, List.sum_cons, Option.map₂_some_some]

theorem exists_sum_iff {xs : List (Option K)} : (∃ q, sum xs = some q) ↔ none ∉ xs := by
  induction xs with
  | nil => exact iff_of_true ⟨0, rfl⟩ List.not_mem_nil
  | cons x xs ih =>
      rw [List.mem_cons, not_or, ← ih, sum]
      cases x with
      | none => simp
      | some q => cases sum xs <;> simp

theorem sum_perm {xs ys : List (Option K)} (h : xs.Perm ys) : sum xs = sum ys := by
  induction h with
  | nil => rfl
  | cons x _ ih => rw [sum, sum, ih]
  | swap x y zs =>
      rw [sum, sum, sum, sum]
      cases x <;> cases y <;> cases sum zs <;> simp [add_left_comm]
  | trans _ _ hxs hys => exact hxs.trans hys

end Sum

section Mean

variable [Field K]

/-- The sum over the number of measurements. -/
def mean (xs : List (Option K)) : Option K := (sum xs).map (· / xs.length)

theorem mean_map_some (xs : List K) : mean (xs.map some) = some (xs.sum / xs.length) := by
  rw [mean, sum_map_some, List.length_map, Option.map_some]

theorem not_mem_of_mean {xs : List (Option K)} {q : K} (h : mean xs = some q) : none ∉ xs := by
  obtain ⟨s, hs, -⟩ := Option.map_eq_some_iff.mp h
  exact exists_sum_iff.mp ⟨s, hs⟩

theorem mean_perm {xs ys : List (Option K)} (h : xs.Perm ys) : mean xs = mean ys := by
  rw [mean, mean, sum_perm h, h.length_eq]

end Mean

/-! ## Shares -/

section Share

variable [Field K] [LinearOrder K] [IsStrictOrderedRing K]

/-- The value is a share of a whole. -/
def IsShare (q : K) : Prop := 0 ≤ q ∧ q ≤ 1

theorem isShare_div {count total : ℕ} (h : count ≤ total) : IsShare ((count : K) / total) :=
  ⟨div_nonneg (Nat.cast_nonneg _) (Nat.cast_nonneg _),
    div_le_one_of_le₀ (Nat.cast_le.mpr h) (Nat.cast_nonneg _)⟩

theorem sum_le_length {xs : List K} (h : ∀ x ∈ xs, IsShare x) : xs.sum ≤ xs.length := by
  induction xs with
  | nil => simp
  | cons x xs ih =>
      rw [List.forall_mem_cons] at h
      have hx := h.1.2
      have hxs := ih h.2
      rw [List.sum_cons, List.length_cons, Nat.cast_add, Nat.cast_one, add_comm]
      exact add_le_add hxs hx

/-- The average of shares is a share. -/
theorem isShare_mean {xs : List K} (h : ∀ x ∈ xs, IsShare x) : IsShare (xs.sum / xs.length) :=
  ⟨div_nonneg (List.sum_nonneg fun x hx => (h x hx).1) (Nat.cast_nonneg _),
    div_le_one_of_le₀ (sum_le_length h) (Nat.cast_nonneg _)⟩

end Share

/-! ## Groups of measurements -/

/-- Counts of at least one add up to their number only when each of them is one. -/
theorem sum_map_eq_length_iff {f : α → ℕ} {xs : List α} (h : ∀ x ∈ xs, 1 ≤ f x) :
    (xs.map f).sum = xs.length ↔ ∀ x ∈ xs, f x = 1 := by
  have hle : ∀ ys : List α, (∀ y ∈ ys, 1 ≤ f y) → ys.length ≤ (ys.map f).sum := by
    intro ys hys
    simpa using List.length_le_sum_of_one_le (ys.map f) (by simpa using hys)
  induction xs with
  | nil => simp
  | cons x xs ih =>
      have hx := h x List.mem_cons_self
      have hxs := fun y hy => h y (List.mem_cons_of_mem x hy)
      have hlen := hle xs hxs
      have htail := ih hxs
      rw [List.map_cons, List.sum_cons, List.length_cons, List.forall_mem_cons]
      constructor
      · intro hsum
        exact ⟨by omega, htail.mp (by omega)⟩
      · rintro ⟨hone, hall⟩
        have hsum := htail.mpr hall
        omega

/-- The number of items with a property in groups with at most one such item each. -/
theorem countP_flatten_le_length {p : α → Bool} {groups : List (List α)}
    (h : ∀ group ∈ groups, group.countP p ≤ 1) : groups.flatten.countP p ≤ groups.length := by
  induction groups with
  | nil => simp
  | cons group groups ih =>
      rw [List.forall_mem_cons] at h
      have hgroup := h.1
      have hgroups := ih h.2
      rw [List.flatten_cons, List.countP_append, List.length_cons]
      omega

end Averages
