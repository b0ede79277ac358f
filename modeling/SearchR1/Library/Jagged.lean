import Mathlib.Data.List.Forall2
import Mathlib.Data.List.Rotate
import Mathlib.Data.List.SplitLengths
import SearchR1.Library.Chunks

/-! # Rows of several lengths in one list -/

namespace Jagged

open List

variable {α β γ δ : Type*}

/-- Rows that were put into one list come back. -/
theorem splitLengths_flatten (rows : List (List α)) :
    (rows.map length).splitLengths rows.flatten = rows := by
  induction rows with
  | nil => rfl
  | cons row rows ih =>
      rw [map_cons, flatten_cons, splitLengths_cons, take_left, drop_left, ih]

/-- What is computed entry by entry is computed row by row. -/
theorem splitLengths_zipWith (f : α → β → γ) (lengths : List ℕ) (xs : List α) (ys : List β) :
    lengths.splitLengths (zipWith f xs ys) =
      zipWith (zipWith f) (lengths.splitLengths xs) (lengths.splitLengths ys) := by
  induction lengths generalizing xs ys with
  | nil => rfl
  | cons size lengths ih =>
      rw [splitLengths_cons, splitLengths_cons, splitLengths_cons, take_zipWith, drop_zipWith, ih,
        zipWith_cons_cons]

theorem chunks_zipWith (f : α → β → γ) (size count : ℕ) (xs : List α) (ys : List β) :
    Chunks.chunks size count (zipWith f xs ys) =
      zipWith (zipWith f) (Chunks.chunks size count xs) (Chunks.chunks size count ys) := by
  rw [Chunks.chunks, Chunks.chunks, Chunks.chunks, zipWith_map, zipWith_self]
  apply map_congr_left
  intro c _
  rw [drop_zipWith, take_zipWith]

theorem dropLast_zipWith (f : α → β → γ) {xs : List α} {ys : List β}
    (h : xs.length = ys.length) : (zipWith f xs ys).dropLast = zipWith f xs.dropLast ys.dropLast := by
  rw [dropLast_eq_take, dropLast_eq_take, dropLast_eq_take, take_zipWith, length_zipWith, h,
    Nat.min_self]

theorem map_zipWith_of_forall₂ {r : α → β → Prop} {g : α → β → γ} {p : γ → δ} {q : α → δ}
    (hrow : ∀ a b, r a b → p (g a b) = q a) {as : List α} {bs : List β} (h : Forall₂ r as bs) :
    (zipWith g as bs).map p = as.map q := by
  induction h with
  | nil => rfl
  | cons hab _ ih => rw [zipWith_cons_cons, map_cons, map_cons, hrow _ _ hab, ih]

/-- The entry after each entry, over the borders of the rows: only the last one of a row is not of
that row. -/
theorem forall₂_splitLengths_next {rows : List (List α)} {next : List α}
    (hne : ∀ row ∈ rows, row ≠ []) (hlength : next.length = rows.flatten.length)
    (hnext : rows.flatten.tail <+: next) :
    Forall₂ (fun row labels => labels.length = row.length ∧ labels.dropLast = row.tail) rows
      ((rows.map length).splitLengths next) := by
  induction rows generalizing next with
  | nil => exact Forall₂.nil
  | cons row rows ih =>
      rw [forall_mem_cons] at hne
      cases row with
      | nil => exact absurd rfl hne.1
      | cons a row =>
          rw [flatten_cons, cons_append, tail_cons] at hnext
          rcases hnext with ⟨last, rfl⟩
          rw [flatten_cons, cons_append, length_append, length_cons, Nat.add_left_cancel_iff]
            at hlength
          rcases length_eq_one_iff.mp hlength with ⟨b, rfl⟩
          rw [map_cons, splitLengths_cons, length_cons, append_assoc, take_append, drop_append,
            take_of_length_le (Nat.le_succ _), drop_of_length_le (Nat.le_succ _),
            Nat.add_sub_cancel_left, nil_append]
          refine Forall₂.cons ⟨?_, ?_⟩ (ih hne.2 ?_ ?_)
          · simp
          · cases rows.flatten with
            | nil => simp
            | cons c rest => simp
          · simp
          · cases rows.flatten with
            | nil => simp
            | cons c rest => simp

/-- So does a rotation by one. -/
theorem forall₂_splitLengths_rotate {rows : List (List α)} (hne : ∀ row ∈ rows, row ≠ []) :
    Forall₂ (fun row labels => labels.length = row.length ∧ labels.dropLast = row.tail) rows
      ((rows.map length).splitLengths (rows.flatten.rotate 1)) := by
  apply forall₂_splitLengths_next hne (length_rotate ..)
  cases rows.flatten with
  | nil => exact prefix_rfl
  | cons a rest =>
      rw [tail_cons, rotate_cons_succ, rotate_zero]
      exact prefix_append rest [a]

end Jagged
