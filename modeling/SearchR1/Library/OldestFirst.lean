import Mathlib.Data.List.Basic
import Mathlib.Data.List.Nodup
import Mathlib.Data.List.Perm.Basic

/-! # Taking the oldest of a pool

Taking as many as `n` of the oldest leaves `n` less of all that are at least as old as any bound. -/

namespace OldestFirst

variable {α : Type*}

/-- The first part of a sorted list has as many old ones as it has room for. -/
theorem countP_take {p : α → Bool} {l : List α} (h : l.Pairwise fun a b => p b → p a) (n : ℕ) :
    (l.take n).countP p = min n (l.countP p) := by
  induction l generalizing n with
  | nil => simp
  | cons a l ih =>
      rw [List.pairwise_cons] at h
      cases n with
      | zero => simp
      | succ n =>
          rw [List.take_succ_cons, List.countP_cons, List.countP_cons, ih h.2]
          by_cases ha : p a
          · simp [ha]
          · have hnone : l.countP p = 0 := by
              rw [List.countP_eq_zero]
              exact fun b hb hpb => ha (h.1 b hb hpb)
            simp [ha, hnone]

variable [BEq α] [LawfulBEq α]

/-- A pool is what is taken of it and what is left. -/
theorem perm_append_left {pool taken : List α} (hpool : pool.Nodup) (htaken : taken.Nodup)
    (hsub : taken ⊆ pool) : pool.Perm (taken ++ pool.filter (· ∉ taken)) := by
  apply (List.perm_ext_iff_of_nodup hpool ?_).mpr
  · intro a
    rw [List.mem_append, List.mem_filter, decide_eq_true_eq]
    by_cases ha : a ∈ taken
    · simp [ha, hsub ha]
    · simp [ha]
  · rw [List.nodup_append]
    refine ⟨htaken, hpool.filter _, ?_⟩
    intro a ha b hb he
    exact of_decide_eq_true (List.mem_filter.mp hb).2 (he ▸ ha)

theorem length_left {pool taken : List α} (hpool : pool.Nodup) (htaken : taken.Nodup)
    (hsub : taken ⊆ pool) : (pool.filter (· ∉ taken)).length = pool.length - taken.length := by
  have h := (perm_append_left hpool htaken hsub).length_eq
  rw [List.length_append] at h
  omega

/-- Of the old ones that are all in the order, the first `n` go. -/
theorem countP_left {p : α → Bool} {pool order : List α} (hpool : pool.Nodup)
    (horder : order.Nodup) (hsub : order ⊆ pool) (hall : ∀ a ∈ pool, p a → a ∈ order)
    (hsorted : order.Pairwise fun a b => p b → p a) (n : ℕ) :
    (pool.filter (· ∉ order.take n)).countP p = pool.countP p - n := by
  have htake : (order.take n).Nodup := horder.sublist (List.take_sublist n order)
  have hperm := (perm_append_left hpool htake
    (fun _ ha => hsub (List.mem_of_mem_take ha))).countP_eq p
  have hcount : order.countP p = pool.countP p := by
    rw [List.countP_eq_length_filter, List.countP_eq_length_filter]
    apply List.Perm.length_eq
    apply (List.perm_ext_iff_of_nodup (horder.filter _) (hpool.filter _)).mpr
    intro a
    rw [List.mem_filter, List.mem_filter]
    exact ⟨fun h => ⟨hsub h.1, h.2⟩, fun h => ⟨hall a h.1 h.2, h.2⟩⟩
  rw [List.countP_append, countP_take hsorted, hcount] at hperm
  omega

end OldestFirst
