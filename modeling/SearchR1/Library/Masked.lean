import Mathlib.Data.List.Basic
import Mathlib.Data.List.Zip

/-! # Scans of a list that pass over some of its elements -/

namespace Masked

variable {α β σ : Type*}

/-! ## Scans -/

/-- The states of a loop from the last element to the first, each at the place of its element. -/
def scanBack (step : α → σ → σ) (init : σ) : List α → List σ
  | [] => []
  | a :: l => step a ((scanBack step init l).headD init) :: scanBack step init l

/-- The states of a loop from the first element to the last. -/
def scanFront (step : σ → α → σ) (s : σ) : List α → List σ
  | [] => []
  | a :: l => step s a :: scanFront step (step s a) l

@[simp] theorem length_scanBack (step : α → σ → σ) (init : σ) (l : List α) :
    (scanBack step init l).length = l.length := by
  induction l with
  | nil => rfl
  | cons a l ih => rw [scanBack, List.length_cons, ih, List.length_cons]

@[simp] theorem length_scanFront (step : σ → α → σ) (s : σ) (l : List α) :
    (scanFront step s l).length = l.length := by
  induction l generalizing s with
  | nil => rfl
  | cons a l ih => rw [scanFront, List.length_cons, ih, List.length_cons]

theorem headD_scanBack (step : α → σ → σ) (init : σ) (l : List α) :
    (scanBack step init l).headD init = l.foldr step init := by
  induction l with
  | nil => rfl
  | cons a l ih => rw [scanBack, List.headD_cons, ih, List.foldr_cons]

/-! ## Selected elements -/

variable (keep : α → Bool)

/-- `ys[mask]`, where the mask says which elements of `xs` are kept. -/
def select : List α → List β → List β
  | a :: xs, y :: ys => if keep a then y :: select xs ys else select xs ys
  | _, _ => []

/-- `zeros[mask] = ys`. -/
def place (d : β) : List α → List β → List β
  | [], _ => []
  | a :: xs, ys => if keep a then ys.headD d :: place d xs ys.tail else d :: place d xs ys

@[simp] theorem select_nil (xs : List α) : select keep xs ([] : List β) = [] := by
  cases xs <;> rfl

theorem select_cons_of_pos {a : α} (h : keep a = true) (xs : List α) (y : β) (ys : List β) :
    select keep (a :: xs) (y :: ys) = y :: select keep xs ys := by
  rw [select, if_pos h]

theorem select_cons_of_neg {a : α} (h : keep a = false) (xs : List α) (y : β) (ys : List β) :
    select keep (a :: xs) (y :: ys) = select keep xs ys := by
  rw [select, h, if_neg Bool.false_ne_true]

theorem select_map (f : α → β) (xs : List α) :
    select keep xs (xs.map f) = (xs.filter keep).map f := by
  induction xs with
  | nil => rfl
  | cons a xs ih =>
      cases h : keep a with
      | true => rw [List.map_cons, select_cons_of_pos keep h, ih, List.filter_cons_of_pos h,
          List.map_cons]
      | false => rw [List.map_cons, select_cons_of_neg keep h, ih,
          List.filter_cons_of_neg (by rw [h]; exact Bool.false_ne_true)]

theorem select_self (xs : List α) : select keep xs xs = xs.filter keep := by
  have h := select_map keep id xs
  rwa [List.map_id, List.map_id] at h

theorem length_select {xs : List α} {ys : List β} (h : ys.length = xs.length) :
    (select keep xs ys).length = (xs.filter keep).length := by
  induction xs generalizing ys with
  | nil => rw [List.length_eq_zero_iff.mp h]; rfl
  | cons a xs ih =>
      cases ys with
      | nil => cases h
      | cons y ys =>
          have hrest := ih (Nat.succ.inj h)
          cases ha : keep a with
          | true => rw [select_cons_of_pos keep ha, List.length_cons, hrest,
              List.filter_cons_of_pos ha, List.length_cons]
          | false => rw [select_cons_of_neg keep ha, hrest,
              List.filter_cons_of_neg (by rw [ha]; exact Bool.false_ne_true)]

/-- What is computed from two rows entry by entry is computed from their selected entries. -/
theorem select_zipWith {γ δ : Type*} (f : β → γ → δ) (xs : List α) (ys : List β) (zs : List γ) :
    select keep xs (List.zipWith f ys zs) =
      List.zipWith f (select keep xs ys) (select keep xs zs) := by
  induction xs generalizing ys zs with
  | nil => cases ys <;> cases zs <;> rfl
  | cons a xs ih =>
      cases ys with
      | nil => simp
      | cons y ys =>
          cases zs with
          | nil => simp
          | cons z zs =>
              cases h : keep a with
              | true => simp [select, h, ih]
              | false => simp [select, h, ih]

theorem map_select {γ : Type*} (f : β → γ) (xs : List α) (ys : List β) :
    select keep xs (ys.map f) = (select keep xs ys).map f := by
  induction xs generalizing ys with
  | nil => cases ys <;> rfl
  | cons a xs ih =>
      cases ys with
      | nil => simp
      | cons y ys =>
          cases h : keep a with
          | true => simp [select, h, ih]
          | false => simp [select, h, ih]

theorem select_append {xs xs' : List α} {ys ys' : List β} (h : ys.length = xs.length) :
    select keep (xs ++ xs') (ys ++ ys') = select keep xs ys ++ select keep xs' ys' := by
  induction xs generalizing ys with
  | nil => rw [List.length_eq_zero_iff.mp h]; rfl
  | cons a xs ih =>
      cases ys with
      | nil => cases h
      | cons y ys =>
          have hrest := @ih ys (Nat.succ.inj h)
          cases ha : keep a with
          | true => simp [select, ha, hrest]
          | false => simp [select, ha, hrest]

/-- What is placed at the kept elements is what is selected there. -/
theorem select_place (d : β) {xs : List α} {ys : List β}
    (h : ys.length = (xs.filter keep).length) : select keep xs (place keep d xs ys) = ys := by
  induction xs generalizing ys with
  | nil => rw [List.length_eq_zero_iff.mp h]; rfl
  | cons a xs ih =>
      cases ha : keep a with
      | true =>
          rw [List.filter_cons_of_pos ha] at h
          cases ys with
          | nil => cases h
          | cons y ys =>
              rw [place, if_pos ha, select_cons_of_pos keep ha, List.headD_cons, List.tail_cons,
                ih (Nat.succ.inj h)]
      | false =>
          have hne : ¬keep a = true := by rw [ha]; exact Bool.false_ne_true
          rw [List.filter_cons_of_neg hne] at h
          rw [place, if_neg hne, select_cons_of_neg keep ha, ih h]

/-! ## Scans over selected elements -/

/-- A loop backwards that passes over an element leaves no trace of it. -/
theorem select_scanBack {step : α → σ → σ} (hskip : ∀ a s, keep a = false → step a s = s)
    (init : σ) (l : List α) :
    select keep l (scanBack step init l) = scanBack step init (l.filter keep) := by
  induction l with
  | nil => rfl
  | cons a l ih =>
      cases h : keep a with
      | true =>
          have hfold : (l.filter keep).foldr step init = l.foldr step init := by
            rw [List.foldr_filter]
            congr 1
            funext a s
            split
            · rfl
            · rename_i hneg
              exact (hskip a s (Bool.eq_false_iff.mpr hneg)).symm
          rw [scanBack, select_cons_of_pos keep h, ih, List.filter_cons_of_pos h, scanBack,
            headD_scanBack, headD_scanBack, hfold]
      | false =>
          rw [scanBack, select_cons_of_neg keep h, ih,
            List.filter_cons_of_neg (by rw [h]; exact Bool.false_ne_true)]

theorem select_scanFront {step : σ → α → σ} (hskip : ∀ a s, keep a = false → step s a = s)
    (s : σ) (l : List α) :
    select keep l (scanFront step s l) = scanFront step s (l.filter keep) := by
  induction l generalizing s with
  | nil => rfl
  | cons a l ih =>
      cases h : keep a with
      | true =>
          rw [scanFront, select_cons_of_pos keep h, ih, List.filter_cons_of_pos h, scanFront]
      | false =>
          rw [scanFront, select_cons_of_neg keep h, hskip a s h, ih,
            List.filter_cons_of_neg (by rw [h]; exact Bool.false_ne_true)]

/-! ## Packed rows -/

/-- The kept elements first, and then padding up to the length of the row. -/
def pack (pad : α) (l : List α) : List α :=
  l.filter keep ++ List.replicate (l.length - (l.filter keep).length) pad

@[simp] theorem length_pack (pad : α) (l : List α) : (pack keep pad l).length = l.length := by
  have h := List.length_filter_le keep l
  rw [pack, List.length_append, List.length_replicate]
  omega

/-- Packing keeps the kept elements in their order. -/
theorem filter_pack {pad : α} (hpad : keep pad = false) (l : List α) :
    (pack keep pad l).filter keep = l.filter keep := by
  rw [pack, List.filter_append, List.filter_filter, List.filter_replicate]
  simp [hpad]

theorem select_of_forall {xs : List α} {ys : List β} (h : ∀ a ∈ xs, keep a = true)
    (hlength : ys.length = xs.length) : select keep xs ys = ys := by
  induction xs generalizing ys with
  | nil => rw [List.length_eq_zero_iff.mp hlength]; rfl
  | cons a xs ih =>
      cases ys with
      | nil => rfl
      | cons y ys =>
          rw [List.forall_mem_cons] at h
          rw [select_cons_of_pos keep h.1, ih h.2 (Nat.succ.inj hlength)]

theorem select_of_forall_not {xs : List α} {ys : List β} (h : ∀ a ∈ xs, keep a = false) :
    select keep xs ys = [] := by
  induction xs generalizing ys with
  | nil => rfl
  | cons a xs ih =>
      cases ys with
      | nil => rfl
      | cons y ys =>
          rw [List.forall_mem_cons] at h
          rw [select_cons_of_neg keep h.1, ih h.2]

/-- In a packed row the kept elements are the first ones. -/
theorem select_pack {pad : α} (hpad : keep pad = false) {l : List α} {ys : List β}
    (h : ys.length = l.length) :
    select keep (pack keep pad l) ys = ys.take (l.filter keep).length := by
  have hle := List.length_filter_le keep l
  have hfirst : (ys.take (l.filter keep).length).length = (l.filter keep).length := by
    rw [List.length_take]
    omega
  conv_lhs => rw [pack, ← List.take_append_drop (l.filter keep).length ys]
  rw [select_append keep hfirst,
    select_of_forall keep (fun a ha => (List.mem_filter.mp ha).2) hfirst,
    select_of_forall_not keep (fun a ha => List.eq_of_mem_replicate ha ▸ hpad), List.append_nil]

end Masked
