import Mathlib.Data.List.Basic
import Mathlib.Data.List.Flatten

/-! # Consecutive chunks of a list -/

namespace Chunks

open List

variable {α : Type*}

/-- The first `count` chunks of `size` entries each. -/
def chunks (size count : ℕ) (l : List α) : List (List α) :=
  (range count).map fun c => (l.drop (c * size)).take size

@[simp] theorem length_chunks (size count : ℕ) (l : List α) :
    (chunks size count l).length = count := by
  rw [chunks, length_map, length_range]

theorem flatten_chunks (size count : ℕ) (l : List α) :
    (chunks size count l).flatten = l.take (count * size) := by
  induction count with
  | zero => simp [chunks]
  | succ count ih =>
      rw [chunks, range_succ, map_append, flatten_append, Nat.succ_mul, take_add, ← ih]
      simp [chunks]

/-- A list of full chunks is the concatenation of its chunks. -/
theorem flatten_chunks_of_length {size count : ℕ} {l : List α} (h : l.length = count * size) :
    (chunks size count l).flatten = l := by
  rw [flatten_chunks, take_of_length_le (Nat.le_of_eq h)]

theorem length_of_mem_chunks {size count : ℕ} {l chunk : List α} (h : l.length = count * size)
    (hchunk : chunk ∈ chunks size count l) : chunk.length = size := by
  rcases mem_map.mp hchunk with ⟨c, hc, rfl⟩
  have hle : (c + 1) * size ≤ count * size := Nat.mul_le_mul_right _ (mem_range.mp hc)
  rw [Nat.succ_mul] at hle
  rw [length_take, length_drop]
  omega

/-- Cutting a concatenation of parts of one size gives the parts back. -/
theorem chunks_flatten {size : ℕ} {parts : List (List α)}
    (h : ∀ part ∈ parts, part.length = size) : chunks size parts.length parts.flatten = parts := by
  induction parts with
  | nil => rfl
  | cons part parts ih =>
      rw [forall_mem_cons] at h
      have hfirst : ((part ++ parts.flatten).drop (0 * size)).take size = part := by
        rw [Nat.zero_mul, drop_zero, take_left' h.1]
      have hothers : ∀ c, ((part ++ parts.flatten).drop ((c + 1) * size)).take size =
          (parts.flatten.drop (c * size)).take size := by
        intro c
        rw [Nat.succ_mul, Nat.add_comm, ← drop_drop, drop_left' h.1]
      rw [chunks, length_cons, range_succ_eq_map, map_cons, map_map, flatten_cons, hfirst]
      congr 1
      calc (range parts.length).map _
          = chunks size parts.length parts.flatten := by
            apply map_congr_left
            intro c _
            exact hothers c
        _ = parts := ih h.2

end Chunks
