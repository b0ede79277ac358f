import Mathlib.Algebra.BigOperators.Group.List.Basic
import Mathlib.Algebra.Order.BigOperators.Group.Finset
import Mathlib.Algebra.Order.Group.Nat

/-! # Loads that lie close together -/

namespace Spread

variable {K : Type*} [AddCommMonoid K] [LinearOrder K] [IsOrderedAddMonoid K]

/-- No load exceeds another one by more than the bound. -/
def Within (bound : K) (loads : List K) : Prop :=
  ∀ x ∈ loads, ∀ y ∈ loads, x ≤ y + bound

omit [IsOrderedAddMonoid K] in
theorem Within.perm {bound : K} {loads loads' : List K} (h : Within bound loads)
    (hperm : loads'.Perm loads) : Within bound loads' := by
  intro x hx y hy
  exact h x (hperm.mem_iff.mp hx) y (hperm.mem_iff.mp hy)

/-- The differencing step: decreasing loads added to increasing ones spread no further than
either did. -/
theorem Within.zipWith_add {bound : K} {falling rising : List K} (hf : Within bound falling)
    (hr : Within bound rising) (hfalling : falling.Pairwise (· ≥ ·))
    (hrising : rising.Pairwise (· ≤ ·)) :
    Within bound (List.zipWith (· + ·) falling rising) := by
  intro x hx y hy
  rcases List.mem_iff_getElem.mp hx with ⟨i, hi, rfl⟩
  rcases List.mem_iff_getElem.mp hy with ⟨j, hj, rfl⟩
  rw [List.length_zipWith, lt_min_iff] at hi hj
  rw [List.getElem_zipWith, List.getElem_zipWith]
  rcases lt_trichotomy i j with hij | rfl | hij
  · -- the rising load only grows from `i` to `j`
    calc falling[i] + rising[i]
        ≤ (falling[j] + bound) + rising[j] :=
          add_le_add (hf _ (List.getElem_mem hi.1) _ (List.getElem_mem hj.1))
            (List.pairwise_iff_getElem.mp hrising i j hi.2 hj.2 hij)
      _ = falling[j] + rising[j] + bound := by rw [add_right_comm]
  · calc falling[i] + rising[i]
        ≤ falling[i] + (rising[i] + bound) :=
          add_le_add_right (hr _ (List.getElem_mem hi.2) _ (List.getElem_mem hi.2)) _
      _ = falling[i] + rising[i] + bound := by rw [add_assoc]
  · calc falling[i] + rising[i]
        ≤ falling[j] + (rising[j] + bound) :=
          add_le_add (List.pairwise_iff_getElem.mp hfalling j i hj.1 hi.1 hij)
            (hr _ (List.getElem_mem hi.2) _ (List.getElem_mem hj.2))
      _ = falling[j] + rising[j] + bound := by rw [add_assoc]

/-- Each of `k` close loads is at most their average and `k - 1` parts in `k` of the bound. -/
theorem Within.length_nsmul_le {bound : K} {loads : List K} (h : Within bound loads) {x : K}
    (hx : x ∈ loads) : loads.length • x ≤ loads.sum + (loads.length - 1) • bound := by
  have hothers : ∀ others : List K, (∀ y ∈ others, x ≤ y + bound) →
      others.length • x ≤ others.sum + others.length • bound := by
    intro others hle
    induction others with
    | nil => simp
    | cons y others ih =>
        rw [List.forall_mem_cons] at hle
        rw [List.length_cons, succ_nsmul, succ_nsmul, List.sum_cons]
        calc others.length • x + x
            ≤ (others.sum + others.length • bound) + (y + bound) := add_le_add (ih hle.2) hle.1
          _ = y + others.sum + (others.length • bound + bound) := by
              rw [add_add_add_comm, add_comm others.sum]
  have hperm := List.perm_cons_erase hx
  have hrest := hothers (loads.erase x) fun y hy => h x hx y (List.mem_of_mem_erase hy)
  rw [hperm.length_eq, hperm.sum_eq, List.length_cons, List.sum_cons, Nat.add_sub_cancel,
    succ_nsmul, add_comm _ x, add_assoc]
  exact add_le_add_right hrest x

/-- The load of a part under an assignment of the items. -/
def load {ι : Type*} [Fintype ι] {k : ℕ} (weight : ι → K) (assignment : ι → Fin k) (part : Fin k) :
    K :=
  ∑ i with assignment i = part, weight i

section Assignments

variable {ι : Type*} [Fintype ι] {k : ℕ} {weight : ι → K} {assignment : ι → Fin k} {most : K}

theorem sum_le_of_load_le (h : ∀ part, load weight assignment part ≤ most) :
    ∑ i, weight i ≤ k • most := by
  calc ∑ i, weight i
      = ∑ part, load weight assignment part :=
        (Finset.sum_fiberwise Finset.univ assignment weight).symm
    _ ≤ Fintype.card (Fin k) • most := Finset.sum_le_card_nsmul _ _ _ fun part _ => h part
    _ = k • most := by rw [Fintype.card_fin]

theorem weight_le_of_load_le (hweight : ∀ i, 0 ≤ weight i)
    (h : ∀ part, load weight assignment part ≤ most) (i : ι) : weight i ≤ most := by
  have hle : weight i ≤ load weight assignment (assignment i) :=
    Finset.single_le_sum (f := weight) (fun j _ => hweight j) (by simp)
  exact hle.trans (h (assignment i))

/-- Loads that lie within one item of each other are at most `2 - 1/k` times those of any other
assignment of the items to the `k` parts. -/
theorem Within.length_nsmul_le_of_load_le {bound : K} {loads : List K} (h : Within bound loads)
    (hlength : loads.length = k) (hsum : loads.sum = ∑ i, weight i)
    (hload : ∀ part, load weight assignment part ≤ most) (hbound : bound ≤ most) {x : K}
    (hx : x ∈ loads) : k • x ≤ (2 * k - 1) • most := by
  have hpos : 0 < k := hlength ▸ List.length_pos_of_mem hx
  calc k • x
      ≤ ∑ i, weight i + (k - 1) • bound := by
        rw [← hsum, ← hlength]
        exact h.length_nsmul_le hx
    _ ≤ k • most + (k - 1) • most :=
        add_le_add (sum_le_of_load_le hload) (nsmul_le_nsmul_right hbound (k - 1))
    _ = (2 * k - 1) • most := by
        rw [← add_nsmul]
        congr 1
        omega

end Assignments

end Spread
