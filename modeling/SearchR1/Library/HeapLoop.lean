import Mathlib.Algebra.BigOperators.Group.List.Basic
import Mathlib.Data.List.MinMax

/-! # Merging the least entries of a heap until one is left -/

namespace HeapLoop

variable {α κ : Type*} [DecidableEq α] [LinearOrder κ] (key : α → κ) (merge : α → α → α)

/-- A least entry of the heap and the others. -/
def heappop (heap : List α) : Option (α × List α) :=
  (heap.argmin key).map fun entry => (entry, heap.erase entry)

/-- One round: the two least entries are popped, their merge is pushed. -/
def round (heap : List α) : List α :=
  match heappop key heap with
  | none => heap
  | some (first, rest) =>
      match heappop key rest with
      | none => heap
      | some (second, rest) => merge first second :: rest

/-- `while len(heap) > 1`, for at most `fuel` rounds. -/
def loop : ℕ → List α → List α
  | 0, heap => heap
  | fuel + 1, heap => if 1 < heap.length then loop fuel (round key merge heap) else heap

variable {key merge}

theorem heappop_eq_none {heap : List α} : heappop key heap = none ↔ heap = [] := by
  simp [heappop, List.argmin_eq_none]

/-- What is popped is in the heap, and no entry that stays is less. -/
theorem heappop_spec {heap rest : List α} {entry : α} (h : heappop key heap = some (entry, rest)) :
    heap.Perm (entry :: rest) ∧ ∀ other ∈ heap, key entry ≤ key other := by
  rcases Option.map_eq_some_iff.mp h with ⟨least, hleast, heq⟩
  rcases Prod.mk.inj heq with ⟨rfl, rfl⟩
  refine ⟨List.perm_cons_erase (List.argmin_mem hleast), ?_⟩
  intro other hother
  exact List.le_of_mem_argmin hother hleast

variable (key merge)

/-- A round of a heap of two entries or more merges its two least ones and keeps the others. -/
theorem round_cases {heap : List α} (h : 1 < heap.length) :
    ∃ first second rest, round key merge heap = merge first second :: rest ∧
      heap.Perm (first :: second :: rest) ∧
      (∀ other ∈ second :: rest, key first ≤ key other) ∧
      ∀ other ∈ rest, key second ≤ key other := by
  cases hpop : heappop key heap with
  | none =>
      rw [heappop_eq_none.mp hpop] at h
      exact absurd h (by simp)
  | some popped =>
      rcases popped with ⟨first, rest⟩
      rcases heappop_spec hpop with ⟨hperm, hfirst⟩
      cases hpop' : heappop key rest with
      | none =>
          rw [hperm.length_eq, heappop_eq_none.mp hpop'] at h
          exact absurd h (by simp)
      | some popped' =>
          rcases popped' with ⟨second, rest'⟩
          rcases heappop_spec hpop' with ⟨hperm', hsecond⟩
          refine ⟨first, second, rest', ?_, hperm.trans (hperm'.cons first), ?_, ?_⟩
          · simp only [round, hpop, hpop']
          · intro other hother
            exact hfirst other
              (hperm.mem_iff.mpr (List.mem_cons_of_mem first (hperm'.mem_iff.mpr hother)))
          · intro other hother
            exact hsecond other (hperm'.mem_iff.mpr (List.mem_cons_of_mem second hother))

theorem length_round {heap : List α} (h : 1 < heap.length) :
    (round key merge heap).length + 1 = heap.length := by
  rcases round_cases key merge h with ⟨first, second, rest, heq, hperm, _, _⟩
  rw [heq, hperm.length_eq]
  rfl

variable {merge}

/-- The rule of the loop: what a round preserves holds of every heap the loop leaves. -/
theorem loop_invariant {I : List α → Prop}
    (hround : ∀ heap, 1 < heap.length → I heap → I (round key merge heap)) (fuel : ℕ)
    {heap : List α} (h : I heap) : I (loop key merge fuel heap) := by
  induction fuel generalizing heap with
  | zero => exact h
  | succ fuel ih =>
      rw [loop]
      split
      · rename_i hlength
        exact ih (hround heap hlength h)
      · exact h

variable (merge) in
/-- As many rounds as there are entries leave a single one. -/
theorem length_loop {heap : List α} (h : heap ≠ []) :
    (loop key merge heap.length heap).length = 1 := by
  have hfuel : ∀ fuel (heap : List α), heap ≠ [] → heap.length ≤ fuel + 1 →
      (loop key merge fuel heap).length = 1 := by
    intro fuel
    induction fuel with
    | zero =>
        intro heap hne hlength
        have hpos := List.length_pos_iff.mpr hne
        rw [loop]
        omega
    | succ fuel ih =>
        intro heap hne hlength
        have hpos := List.length_pos_iff.mpr hne
        rw [loop]
        split
        · rename_i hmany
          have hround := length_round key merge hmany
          apply ih
          · rw [← List.length_pos_iff]
            omega
          · omega
        · omega
  exact hfuel heap.length heap h (by omega)

theorem forall_mem_round {p : α → Prop} (hmerge : ∀ a b, p a → p b → p (merge a b))
    {heap : List α} (hlength : 1 < heap.length) (h : ∀ entry ∈ heap, p entry) :
    ∀ entry ∈ round key merge heap, p entry := by
  rcases round_cases key merge hlength with ⟨first, second, rest, heq, hperm, _⟩
  rw [heq]
  intro entry hentry
  rcases List.mem_cons.mp hentry with rfl | hentry
  · exact hmerge first second (h first (hperm.mem_iff.mpr (by simp)))
      (h second (hperm.mem_iff.mpr (by simp)))
  · exact h entry (hperm.mem_iff.mpr (by simp [hentry]))

/-- What the merge of two good entries keeps holds of every entry the loop leaves. -/
theorem forall_mem_loop {p : α → Prop} (hmerge : ∀ a b, p a → p b → p (merge a b)) (fuel : ℕ)
    {heap : List α} (h : ∀ entry ∈ heap, p entry) :
    ∀ entry ∈ loop key merge fuel heap, p entry :=
  loop_invariant key (I := fun heap => ∀ entry ∈ heap, p entry)
    (fun _ hlength hp => forall_mem_round key hmerge hlength hp) fuel h

/-- What merging adds up, of entries of one kind, the loop adds up. -/
theorem sum_map_loop {M : Type*} [AddCommMonoid M] {p : α → Prop} {f : α → M}
    (hp : ∀ a b, p a → p b → p (merge a b))
    (hf : ∀ a b, p a → p b → f (merge a b) = f a + f b) (fuel : ℕ) {heap : List α}
    (h : ∀ entry ∈ heap, p entry) :
    ((loop key merge fuel heap).map f).sum = (heap.map f).sum := by
  have hround : ∀ left : List α, 1 < left.length →
      (∀ entry ∈ left, p entry) ∧ (left.map f).sum = (heap.map f).sum →
      (∀ entry ∈ round key merge left, p entry) ∧
        ((round key merge left).map f).sum = (heap.map f).sum := by
    intro left hlength hleft
    refine ⟨forall_mem_round key hp hlength hleft.1, ?_⟩
    rcases round_cases key merge hlength with
      ⟨first, second, rest, heq, hperm, _⟩
    rw [← hleft.2, heq, (hperm.map f).sum_eq, List.map_cons, List.sum_cons,
      hf first second (hleft.1 first (hperm.mem_iff.mpr (by simp)))
        (hleft.1 second (hperm.mem_iff.mpr (by simp)))]
    simp only [List.map_cons, List.sum_cons, add_assoc]
  exact (loop_invariant key (I := fun left => (∀ entry ∈ left, p entry) ∧
    (left.map f).sum = (heap.map f).sum) hround fuel ⟨h, rfl⟩).2

end HeapLoop
