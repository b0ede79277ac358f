import Mathlib.Data.List.Basic
import Mathlib.Data.List.Nodup

/-! # Insertion-ordered dictionaries

A dictionary is the list of its items. Assigning to a present key keeps its position. -/

abbrev Dict (κ ν : Type*) := List (κ × ν)

namespace Dict

variable {κ ν : Type*} [DecidableEq κ]

def get? : Dict κ ν → κ → Option ν
  | [], _ => none
  | (k', v) :: d, k => if k' = k then some v else get? d k

def set : Dict κ ν → κ → ν → Dict κ ν
  | [], k, v => [(k, v)]
  | (k', v') :: d, k, v => if k' = k then (k', v) :: d else (k', v') :: set d k v

def setdefault (d : Dict κ ν) (k : κ) (v : ν) : Dict κ ν :=
  if (get? d k).isSome then d else set d k v

def update (d e : Dict κ ν) : Dict κ ν :=
  e.foldl (fun d kv => set d kv.1 kv.2) d

def pop (d : Dict κ ν) (k : κ) : Dict κ ν := d.filter fun e => e.1 ≠ k

def keys (d : Dict κ ν) : List κ := d.map Prod.fst

@[simp] theorem get?_nil (k : κ) : get? ([] : Dict κ ν) k = none := rfl

@[simp] theorem get?_set_self (d : Dict κ ν) (k : κ) (v : ν) :
    get? (set d k v) k = some v := by
  induction d with
  | nil => simp [set, get?]
  | cons e d ih =>
      simp only [set]
      split
      · rename_i h
        simp [get?, h]
      · rename_i h
        simpa [get?, h] using ih

theorem get?_set_of_ne (d : Dict κ ν) {k k' : κ} (v : ν) (h : k' ≠ k) :
    get? (set d k v) k' = get? d k' := by
  induction d with
  | nil => simp [set, get?, Ne.symm h]
  | cons e d ih =>
      simp only [set]
      split
      · rename_i he
        simp [get?, he, Ne.symm h]
      · by_cases he' : e.1 = k'
        · simp [get?, he']
        · simpa [get?, he'] using ih

/-- To assign the value that is there changes nothing. -/
theorem set_of_get? {d : Dict κ ν} {k : κ} {v : ν} (h : get? d k = some v) : set d k v = d := by
  induction d with
  | nil => cases h
  | cons e d ih =>
      obtain ⟨k', v'⟩ := e
      by_cases he : k' = k
      · simp only [get?, he, ite_true] at h
        obtain rfl := Option.some.inj h
        simp [set, he]
      · simp only [get?, he, ite_false] at h
        simp [set, he, ih h]

/-- Of two assignments to a key the second counts. -/
theorem set_set (d : Dict κ ν) (k : κ) (v w : ν) : set (set d k v) k w = set d k w := by
  induction d with
  | nil => simp [set]
  | cons e d ih =>
      by_cases he : e.1 = k
      · simp [set, he]
      · simp [set, he, ih]

theorem pop_set_self (d : Dict κ ν) (k : κ) (v : ν) : pop (set d k v) k = pop d k := by
  induction d with
  | nil => simp [set, pop]
  | cons e d ih =>
      by_cases he : e.1 = k
      · simp [set, pop, he]
      · simp only [set, he, ite_false, pop, ne_eq, not_false_eq_true, decide_true,
          List.filter_cons_of_pos]
        exact congrArg (List.cons e) ih

theorem get?_eq_none_iff (d : Dict κ ν) (k : κ) : get? d k = none ↔ k ∉ keys d := by
  induction d with
  | nil => simp [keys]
  | cons e d ih =>
      by_cases h : e.1 = k
      · simp [get?, keys, h]
      · simp only [get?, h, ite_false, ih, keys, List.map_cons, List.mem_cons, not_or]
        exact ⟨fun hk => ⟨Ne.symm h, hk⟩, fun hk => hk.2⟩

theorem get?_setdefault (d : Dict κ ν) (k k' : κ) (v : ν) :
    get? (setdefault d k v) k' =
      if k' = k then some ((get? d k).getD v) else get? d k' := by
  unfold setdefault
  by_cases hk : k' = k
  · subst hk
    cases h : get? d k' with
    | none => simp
    | some w => simp [h]
  · simp only [hk, ite_false]
    split
    · rfl
    · exact get?_set_of_ne d v hk

@[simp] theorem get?_pop_self (d : Dict κ ν) (k : κ) : get? (pop d k) k = none := by
  rw [get?_eq_none_iff]
  simp [pop, keys]

theorem get?_pop_of_ne (d : Dict κ ν) {k k' : κ} (h : k' ≠ k) :
    get? (pop d k) k' = get? d k' := by
  induction d with
  | nil => rfl
  | cons e d ih =>
      by_cases he : e.1 = k
      · have hk : ¬ e.1 = k' := fun hk => h (hk.symm.trans he)
        have hpop : pop (e :: d) k = pop d k := by simp [pop, he]
        rw [hpop, ih, get?, if_neg hk]
      · have hpop : pop (e :: d) k = e :: pop d k := by simp [pop, he]
        rw [hpop, get?, get?, ih]

theorem get?_append (d e : Dict κ ν) (k : κ) : get? (d ++ e) k = (get? d k).or (get? e k) := by
  induction d with
  | nil => rfl
  | cons x d ih =>
      by_cases h : x.1 = k
      · simp [get?, h]
      · simpa [get?, h] using ih

/-- A dictionary in which nothing is found is empty. -/
theorem eq_nil_of_get?_eq_none {d : Dict κ ν} (h : ∀ k, get? d k = none) : d = [] := by
  cases d with
  | nil => rfl
  | cons e d =>
      have he := h e.1
      simp [get?] at he

theorem keys_set (d : Dict κ ν) (k : κ) (v : ν) :
    keys (set d k v) = if k ∈ keys d then keys d else keys d ++ [k] := by
  induction d with
  | nil => simp [set, keys]
  | cons e d ih =>
      simp only [set]
      by_cases h : e.1 = k
      · simp [h, keys]
      · simp only [h, ite_false, keys, List.map_cons, List.mem_cons]
        simp only [keys] at ih
        rw [ih]
        by_cases hk : k ∈ d.map Prod.fst
        · simp [hk]
        · simp [hk, Ne.symm h]

theorem nodup_keys_set (d : Dict κ ν) (k : κ) (v : ν) (h : (keys d).Nodup) :
    (keys (set d k v)).Nodup := by
  rw [keys_set]
  split
  · exact h
  · rename_i hk
    rw [List.nodup_append]
    refine ⟨h, by simp, ?_⟩
    intro a ha b hb
    simp only [List.mem_singleton] at hb
    subst hb
    intro he
    exact hk (he ▸ ha)

theorem nodup_keys_setdefault (d : Dict κ ν) (k : κ) (v : ν) (h : (keys d).Nodup) :
    (keys (setdefault d k v)).Nodup := by
  unfold setdefault
  split
  · exact h
  · exact nodup_keys_set d k v h

theorem nodup_keys_update (d e : Dict κ ν) (h : (keys d).Nodup) :
    (keys (update d e)).Nodup := by
  induction e generalizing d with
  | nil => exact h
  | cons x e ih => exact ih _ (nodup_keys_set d x.1 x.2 h)

theorem mem_set {d : Dict κ ν} {k : κ} {v : ν} {e : κ × ν} (h : e ∈ set d k v) :
    e = (k, v) ∨ e ∈ d := by
  induction d with
  | nil => exact .inl (by simpa [set] using h)
  | cons x d ih =>
      simp only [set] at h
      split at h
      · rename_i hx
        subst hx
        rcases List.mem_cons.mp h with h | h
        · exact .inl h
        · exact .inr (List.mem_cons_of_mem _ h)
      · rcases List.mem_cons.mp h with h | h
        · exact .inr (h ▸ List.mem_cons_self)
        · exact (ih h).imp_right (List.mem_cons_of_mem _)

theorem mem_of_get? {d : Dict κ ν} {k : κ} {v : ν} (h : get? d k = some v) :
    (k, v) ∈ d := by
  induction d with
  | nil => cases h
  | cons e d ih =>
      simp only [get?] at h
      split at h
      · rename_i hk
        obtain rfl := Option.some.inj h
        rw [← hk]
        exact List.mem_cons_self
      · exact List.mem_cons_of_mem _ (ih h)

theorem get?_of_mem {d : Dict κ ν} (h : (keys d).Nodup) {k : κ} {v : ν} (hmem : (k, v) ∈ d) :
    get? d k = some v := by
  induction d with
  | nil => cases hmem
  | cons e d ih =>
      simp only [keys, List.map_cons, List.nodup_cons] at h
      rcases List.mem_cons.mp hmem with rfl | hmem
      · simp [get?]
      · have hne : e.1 ≠ k := fun he => h.1 (he ▸ List.mem_map_of_mem (f := Prod.fst) hmem)
        rw [get?, if_neg hne]
        exact ih h.2 hmem

/-- The items of an update come from one of the two dictionaries. -/
theorem mem_update {d e : Dict κ ν} {x : κ × ν} (h : x ∈ update d e) : x ∈ d ∨ x ∈ e := by
  induction e generalizing d with
  | nil => exact .inl h
  | cons y e ih =>
      rcases ih h with h | h
      · rcases mem_set h with rfl | h
        · exact .inr List.mem_cons_self
        · exact .inl h
      · exact .inr (List.mem_cons_of_mem _ h)

theorem set_of_not_mem (d : Dict κ ν) (k : κ) (v : ν) (h : k ∉ keys d) :
    set d k v = d ++ [(k, v)] := by
  induction d with
  | nil => rfl
  | cons e d ih =>
      simp only [keys, List.map_cons, List.mem_cons, not_or] at h
      have hne : ¬ e.1 = k := fun he => h.1 he.symm
      simp only [set, hne, ite_false, List.cons_append]
      rw [ih h.2]

/-- Assigning items with fresh, distinct keys appends them. -/
theorem update_eq_append (d e : Dict κ ν) (h : (keys (d ++ e)).Nodup) :
    update d e = d ++ e := by
  induction e generalizing d with
  | nil => simp [update]
  | cons x e ih =>
      have hx : x.1 ∉ keys d := by
        intro hx
        simp only [keys, List.map_append, List.map_cons, List.nodup_append] at h
        exact h.2.2 x.1 hx x.1 (by simp) rfl
      have hset : set d x.1 x.2 = d ++ [x] := set_of_not_mem d x.1 x.2 hx
      change update (set d x.1 x.2) e = d ++ x :: e
      rw [hset, ih (d ++ [x]) (by simpa using h)]
      simp

theorem get?_update_of_not_mem (d e : Dict κ ν) (k : κ) (h : k ∉ keys e) :
    get? (update d e) k = get? d k := by
  induction e generalizing d with
  | nil => rfl
  | cons x e ih =>
      simp only [keys, List.map_cons, List.mem_cons, not_or] at h
      change get? (update (set d x.1 x.2) e) k = get? d k
      rw [ih _ h.2, get?_set_of_ne d x.2 h.1]

/-- Updating with a dictionary whose keys are distinct reads its items first. -/
theorem get?_update (d e : Dict κ ν) (k : κ) (he : (keys e).Nodup) :
    get? (update d e) k = (get? e k).or (get? d k) := by
  induction e generalizing d with
  | nil => simp [update]
  | cons x e ih =>
      simp only [keys, List.map_cons, List.nodup_cons] at he
      change get? (update (set d x.1 x.2) e) k = _
      rw [ih _ he.2]
      by_cases hk : x.1 = k
      · subst hk
        have hnone : get? e x.1 = none := (get?_eq_none_iff e x.1).mpr he.1
        simp [get?, hnone]
      · rw [get?_set_of_ne d x.2 (Ne.symm hk)]
        simp [get?, hk]

end Dict
