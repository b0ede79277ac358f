import Mathlib.Data.Finset.Card
import Mathlib.Data.List.TakeWhile

/-! # The order of last use

`uses` lists the uses of keys from the most recent one back. -/

namespace Recency

variable {κ : Type*} [DecidableEq κ]

/-- The used keys, each one once, in the order of their last use. -/
def stack : List κ → List κ
  | [] => []
  | k :: uses => k :: (stack uses).filter (· ≠ k)

/-- The uses that are more recent than the last use of a key. -/
def since (k : κ) (uses : List κ) : List κ := uses.takeWhile (· ≠ k)

/-- How many other keys were used since the last use of a key. -/
def distance (k : κ) (uses : List κ) : ℕ := (since k uses).toFinset.card

@[simp] theorem stack_nil : stack ([] : List κ) = [] := rfl

theorem stack_cons (k : κ) (uses : List κ) :
    stack (k :: uses) = k :: (stack uses).filter (· ≠ k) := rfl

@[simp] theorem mem_stack {k : κ} {uses : List κ} : k ∈ stack uses ↔ k ∈ uses := by
  induction uses with
  | nil => simp
  | cons j uses ih =>
      by_cases hk : k = j
      · simp [stack_cons, hk]
      · simp [stack_cons, hk, ih]

theorem nodup_stack (uses : List κ) : (stack uses).Nodup := by
  induction uses with
  | nil => exact List.nodup_nil
  | cons j uses ih =>
      rw [stack_cons, List.nodup_cons]
      exact ⟨by simp, ih.filter _⟩

theorem length_stack (uses : List κ) : (stack uses).length = uses.toFinset.card := by
  rw [← List.toFinset_card_of_nodup (nodup_stack uses)]
  congr 1
  ext k
  simp

theorem takeWhile_filter_of_ne {j k : κ} (h : j ≠ k) (keys : List κ) :
    (keys.filter (· ≠ j)).takeWhile (· ≠ k) = (keys.takeWhile (· ≠ k)).filter (· ≠ j) := by
  induction keys with
  | nil => rfl
  | cons i keys ih =>
      by_cases hk : i = k
      · have hj : i ≠ j := fun hj => h (hj.symm.trans hk)
        rw [List.filter_cons_of_pos (by simpa using hj),
          List.takeWhile_cons_of_neg (by simpa using hk),
          List.takeWhile_cons_of_neg (by simpa using hk), List.filter_nil]
      · rw [List.takeWhile_cons_of_pos (by simpa using hk)]
        by_cases hj : i = j
        · rw [List.filter_cons_of_neg (by simpa using hj),
            List.filter_cons_of_neg (by simpa using hj), ih]
        · rw [List.filter_cons_of_pos (by simpa using hj),
            List.filter_cons_of_pos (by simpa using hj),
            List.takeWhile_cons_of_pos (by simpa using hk), ih]

/-- The keys above a key in the stack are the stack of the uses since its last one. -/
theorem takeWhile_stack (k : κ) (uses : List κ) :
    (stack uses).takeWhile (· ≠ k) = stack (since k uses) := by
  induction uses with
  | nil => rfl
  | cons j uses ih =>
      by_cases hj : j = k
      · simp [stack_cons, since, hj]
      · have hsince : since k (j :: uses) = j :: since k uses := by simp [since, hj]
        rw [hsince, stack_cons, stack_cons, List.takeWhile_cons_of_pos (by simpa using hj),
          takeWhile_filter_of_ne hj, ih]

theorem mem_take_iff {k : κ} (keys : List κ) (n : ℕ) :
    k ∈ keys.take n ↔ k ∈ keys ∧ (keys.takeWhile (· ≠ k)).length < n := by
  induction keys generalizing n with
  | nil => simp
  | cons j keys ih =>
      cases n with
      | zero => simp
      | succ n =>
          by_cases hj : j = k
          · simp [hj]
          · simp [hj, Ne.symm hj, ih]

/-- A key is among the topmost ones of the stack when few others were used since. -/
theorem mem_take_stack {k : κ} {uses : List κ} {n : ℕ} :
    k ∈ (stack uses).take n ↔ k ∈ uses ∧ distance k uses < n := by
  rw [mem_take_iff, mem_stack, takeWhile_stack, length_stack]
  rfl

theorem take_erase_take (keys : List κ) (k : κ) (n : ℕ) :
    ((keys.take (n + 1)).erase k).take n = (keys.erase k).take n := by
  induction keys generalizing n with
  | nil => rfl
  | cons j keys ih =>
      by_cases hj : j = k
      · simp [hj]
      · cases n with
        | zero => rfl
        | succ n => simpa [List.erase_cons_tail, hj] using ih n

theorem filter_ne_eq_erase {keys : List κ} (h : keys.Nodup) (k : κ) :
    keys.filter (· ≠ k) = keys.erase k := by
  rw [h.erase_eq_filter]
  congr 1
  funext j
  rw [decide_not, bne]
  congr 1

/-- The topmost keys are enough to know the topmost keys after one more use. -/
theorem take_stack_cons (k : κ) (uses : List κ) (n : ℕ) :
    (stack (k :: uses)).take n = (k :: ((stack uses).take n).filter (· ≠ k)).take n := by
  have hstack := nodup_stack uses
  have htake := hstack.sublist (List.take_sublist n (stack uses))
  rw [stack_cons, filter_ne_eq_erase hstack, filter_ne_eq_erase htake]
  cases n with
  | zero => rfl
  | succ n => rw [List.take_succ_cons, List.take_succ_cons, take_erase_take]

end Recency
