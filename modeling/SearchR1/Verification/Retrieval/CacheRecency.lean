import SearchR1.Library.LruCache
import SearchR1.Library.Recency

/-! # The cache keeps the keys that were used last

A put uses its key, and so does a get that hits. -/

namespace LruCache

open Recency

variable {κ ν : Type*} [DecidableEq κ]

inductive Operation (κ ν : Type*) where
  | get (key : κ)
  | put (key : κ) (value : ν)

/-- The cache after an operation. -/
def apply (c : LruCache κ ν) : Operation κ ν → LruCache κ ν
  | .get k => (c.get k).2
  | .put k v => c.put k v

/-- The key that an operation uses. -/
def usedKey (c : LruCache κ ν) : Operation κ ν → List κ
  | .get k => if (c.get k).1.isSome then [k] else []
  | .put k _ => [k]

/-- The state of a cache together with the keys used so far, the most recent one first. -/
structure History (κ ν : Type*) where
  cache : LruCache κ ν
  uses : List κ := []

def History.step (h : History κ ν) (op : Operation κ ν) : History κ ν where
  cache := apply h.cache op
  uses := usedKey h.cache op ++ h.uses

/-- A sequence of operations on a new cache. -/
def run (capacity : ℕ) (ops : List (Operation κ ν)) : History κ ν :=
  ops.foldl History.step { cache := { capacity } }

/-- The value of the last put of a key. -/
def lastPut (k : κ) (ops : List (Operation κ ν)) : Option ν :=
  ops.foldl (fun last op =>
    match op with
    | .get _ => last
    | .put j v => if j = k then some v else last) none

theorem lastPut_snoc_get (j k : κ) (ops : List (Operation κ ν)) :
    lastPut k (ops ++ [.get j]) = lastPut k ops := by
  simp [lastPut]

theorem lastPut_snoc_put (j k : κ) (v : ν) (ops : List (Operation κ ν)) :
    lastPut k (ops ++ [.put j v]) = if j = k then some v else lastPut k ops := by
  simp [lastPut]

/-! ## The keys in the order of the items -/

theorem keys_pop (d : Dict κ ν) (k : κ) :
    Dict.keys (Dict.pop d k) = (Dict.keys d).filter (· ≠ k) := by
  simp [Dict.keys, Dict.pop, List.filter_map, Function.comp_def]

theorem keys_moveToEnd (d : Dict κ ν) (k : κ) (h : k ∈ Dict.keys d) :
    Dict.keys (moveToEnd d k) = (Dict.keys d).filter (· ≠ k) ++ [k] := by
  unfold moveToEnd
  split
  · rename_i hnone
    exact absurd h ((Dict.get?_eq_none_iff d k).mp hnone)
  · rename_i v hv
    have hkeys := keys_pop d k
    simpa [Dict.keys, Dict.pop] using hkeys

/-- A put takes the item of the key out and appends the new one. -/
theorem moveToEnd_set (d : Dict κ ν) (k : κ) (v : ν) :
    moveToEnd (Dict.set d k v) k = Dict.pop d k ++ [(k, v)] := by
  unfold moveToEnd
  rw [Dict.get?_set_self, ← Dict.pop_set_self d k v]
  rfl

/-- The keys of the cache are the keys used last, in the order of their last use. -/
def Recent (h : History κ ν) : Prop :=
  Dict.keys h.cache.cache = ((stack h.uses).take h.cache.capacity).reverse

/-- The items of the cache are what was put last under their keys. -/
def Current (h : History κ ν) (ops : List (Operation κ ν)) : Prop :=
  ∀ e ∈ h.cache.cache, lastPut e.1 ops = some e.2

omit [DecidableEq κ] in
/-- An eviction leaves the topmost keys. -/
theorem keys_evict (d : Dict κ ν) (capacity : ℕ) (h : d.length ≤ capacity + 1) :
    Dict.keys (if d.length > capacity then d.drop 1 else d) =
      ((Dict.keys d).reverse.take capacity).reverse := by
  have hdrop : (if d.length > capacity then d.drop 1 else d) = d.drop (d.length - capacity) := by
    split
    · rename_i hfull
      have hone : d.length - capacity = 1 := by omega
      rw [hone]
    · rename_i hfits
      have hzero : d.length - capacity = 0 := by omega
      rw [hzero, List.drop_zero]
  rw [hdrop, List.take_reverse, List.reverse_reverse]
  simp [Dict.keys]

theorem Recent.mem_keys {h : History κ ν} (hrecent : Recent h) {k : κ} :
    k ∈ Dict.keys h.cache.cache ↔ k ∈ (stack h.uses).take h.cache.capacity := by
  rw [show Dict.keys h.cache.cache = _ from hrecent, List.mem_reverse]

theorem mem_keys_of_get? {d : Dict κ ν} {k : κ} {v : ν} (h : Dict.get? d k = some v) :
    k ∈ Dict.keys d :=
  List.mem_map_of_mem (f := Prod.fst) (Dict.mem_of_get? h)

theorem keys_use {h : History κ ν} (hrecent : Recent h) (k : κ) :
    (Dict.keys h.cache.cache).filter (· ≠ k) ++ [k] =
      (k :: ((stack h.uses).take h.cache.capacity).filter (· ≠ k)).reverse := by
  rw [show Dict.keys h.cache.cache = _ from hrecent, List.filter_reverse, List.reverse_cons]

theorem recent_get {h : History κ ν} (hrecent : Recent h) (k : κ) :
    Recent (h.step (.get k)) := by
  cases hfound : Dict.get? h.cache.cache k with
  | none =>
      have hget : h.cache.get k = (none, h.cache) := by simp [get, hfound]
      simpa [Recent, History.step, apply, usedKey, hget] using hrecent
  | some v =>
      have hget : h.cache.get k =
          (some v, { h.cache with cache := moveToEnd h.cache.cache k }) := by
        simp [get, hfound]
      have hk : k ∈ Dict.keys h.cache.cache := mem_keys_of_get? hfound
      have hmem : k ∈ (stack h.uses).take h.cache.capacity := hrecent.mem_keys.mp hk
      have hlength : (k :: ((stack h.uses).take h.cache.capacity).filter (· ≠ k)).length ≤
          h.cache.capacity := by
        rw [filter_ne_eq_erase ((nodup_stack _).sublist (List.take_sublist _ _)),
          List.length_cons, List.length_erase_add_one hmem]
        exact List.length_take_le _ _
      change Dict.keys (h.cache.get k).2.cache =
        ((stack (usedKey h.cache (.get k) ++ h.uses)).take (h.cache.get k).2.capacity).reverse
      have hused : usedKey h.cache (.get k) = [k] := by simp [usedKey, hget]
      rw [hused, hget, List.singleton_append, take_stack_cons, keys_moveToEnd _ _ hk,
        keys_use hrecent, List.take_of_length_le hlength]

theorem recent_put {h : History κ ν} (hrecent : Recent h) (k : κ) (v : ν) :
    Recent (h.step (.put k v)) := by
  have hkeys : Dict.keys (moveToEnd (Dict.set h.cache.cache k v) k) =
      (k :: ((stack h.uses).take h.cache.capacity).filter (· ≠ k)).reverse := by
    rw [moveToEnd_set, ← keys_use hrecent, ← keys_pop]
    simp [Dict.keys]
  have hlength : (moveToEnd (Dict.set h.cache.cache k v) k).length ≤ h.cache.capacity + 1 := by
    rw [← List.length_map (f := Prod.fst), show List.map Prod.fst _ = _ from hkeys,
      List.length_reverse, List.length_cons]
    exact Nat.succ_le_succ ((List.length_filter_le _ _).trans (List.length_take_le _ _))
  change Dict.keys (h.cache.put k v).cache =
    ((stack (k :: h.uses)).take h.cache.capacity).reverse
  rw [take_stack_cons]
  simp only [put]
  rw [keys_evict _ _ hlength, hkeys, List.reverse_reverse]

theorem Recent.step {h : History κ ν} (hrecent : Recent h) (op : Operation κ ν) :
    Recent (h.step op) := by
  cases op with
  | get k => exact recent_get hrecent k
  | put k v => exact recent_put hrecent k v

/-! ## The items -/

theorem Current.step {h : History κ ν} {ops : List (Operation κ ν)} (hcurrent : Current h ops)
    (op : Operation κ ν) : Current (h.step op) (ops ++ [op]) := by
  intro e he
  cases op with
  | get k =>
      rw [lastPut_snoc_get]
      exact hcurrent e (mem_get he)
  | put k v =>
      have hitem : e ∈ Dict.pop h.cache.cache k ++ [(k, v)] := by
        rw [← moveToEnd_set]
        change e ∈ (h.cache.put k v).cache at he
        simp only [put] at he
        split at he
        · exact List.mem_of_mem_drop he
        · exact he
      rw [lastPut_snoc_put]
      rcases List.mem_append.mp hitem with hold | hnew
      · obtain ⟨hmem, hne⟩ := List.mem_filter.mp hold
        rw [if_neg (Ne.symm (of_decide_eq_true hne))]
        exact hcurrent e hmem
      · obtain rfl := List.mem_singleton.mp hnew
        rw [if_pos rfl]

/-! ## Whole sequences of operations -/

theorem run_snoc (capacity : ℕ) (ops : List (Operation κ ν)) (op : Operation κ ν) :
    run capacity (ops ++ [op]) = (run capacity ops).step op := by
  simp [run]

theorem capacity_step (h : History κ ν) (op : Operation κ ν) :
    (h.step op).cache.capacity = h.cache.capacity := by
  cases op with
  | get k =>
      change (h.cache.get k).2.capacity = h.cache.capacity
      unfold get
      split <;> rfl
  | put k v => rfl

/-- What the cache, the uses and the operations so far have to do with each other. -/
structure Invariant (capacity : ℕ) (ops : List (Operation κ ν)) (h : History κ ν) : Prop where
  capacity : h.cache.capacity = capacity
  recent : Recent h
  current : Current h ops
  used : ∀ k, k ∈ h.uses ↔ ∃ v, .put k v ∈ ops

theorem mem_uses_step {h : History κ ν} {ops : List (Operation κ ν)} (hrecent : Recent h)
    (hused : ∀ k, k ∈ h.uses ↔ ∃ v, .put k v ∈ ops) (op : Operation κ ν) (k : κ) :
    k ∈ (h.step op).uses ↔ ∃ v, .put k v ∈ ops ++ [op] := by
  cases op with
  | get j =>
      have hmem : k ∈ (h.step (.get j)).uses ↔ k ∈ h.uses := by
        cases hfound : Dict.get? h.cache.cache j with
        | none => simp [History.step, usedKey, fst_get, hfound]
        | some v =>
            -- a get that hits uses a key that was put before
            have hj : j ∈ h.uses := mem_stack.mp
              (List.mem_of_mem_take (hrecent.mem_keys.mp (mem_keys_of_get? hfound)))
            have huses : (h.step (.get j)).uses = j :: h.uses := by
              simp [History.step, usedKey, fst_get, hfound]
            rw [huses, List.mem_cons]
            exact ⟨fun hk => hk.elim (fun hk => hk ▸ hj) id, .inr⟩
      rw [hmem, hused]
      simp
  | put j v =>
      change k ∈ j :: h.uses ↔ _
      rw [List.mem_cons, hused]
      constructor
      · rintro (rfl | ⟨w, hw⟩)
        · exact ⟨v, by simp⟩
        · exact ⟨w, List.mem_append_left _ hw⟩
      · rintro ⟨w, hw⟩
        rcases List.mem_append.mp hw with hw | hw
        · exact .inr ⟨w, hw⟩
        · cases List.mem_singleton.mp hw
          exact .inl rfl

theorem Invariant.step {capacity : ℕ} {ops : List (Operation κ ν)} {h : History κ ν}
    (hinv : Invariant capacity ops h) (op : Operation κ ν) :
    Invariant capacity (ops ++ [op]) (h.step op) where
  capacity := (capacity_step h op).trans hinv.capacity
  recent := hinv.recent.step op
  current := hinv.current.step op
  used := mem_uses_step hinv.recent hinv.used op

theorem run_invariant (capacity : ℕ) (ops : List (Operation κ ν)) :
    Invariant capacity ops (run capacity ops) := by
  induction ops using List.reverseRecOn with
  | nil => exact ⟨rfl, by simp [Recent, run, Dict.keys], by simp [Current, run], by simp [run]⟩
  | append_singleton ops op ih =>
      rw [run_snoc]
      exact ih.step op

/-- The cache is a least-recently-used one, for every capacity and all operations. -/
theorem run_leastRecentlyUsed (capacity : ℕ) (ops : List (Operation κ ν)) :
    (∀ k, k ∈ Dict.keys (run capacity ops).cache.cache ↔
      (∃ v, .put k v ∈ ops) ∧ distance k (run capacity ops).uses < capacity) ∧
    (∀ k, k ∈ Dict.keys (run capacity ops).cache.cache →
      ∃ v, lastPut k ops = some v ∧ ((run capacity ops).cache.get k).1 = some v) ∧
    (∀ k, k ∉ Dict.keys (run capacity ops).cache.cache →
      ((run capacity ops).cache.get k).1 = none) ∧
    (run capacity ops).cache.cache.length ≤ capacity := by
  have hinv := run_invariant capacity ops
  refine ⟨?_, ?_, ?_, ?_⟩
  · intro k
    rw [hinv.recent.mem_keys, mem_take_stack, hinv.used, hinv.capacity]
  · intro k hk
    rw [fst_get]
    cases hfound : Dict.get? (run capacity ops).cache.cache k with
    | none => exact absurd hk ((Dict.get?_eq_none_iff _ _).mp hfound)
    | some v => exact ⟨v, hinv.current _ (Dict.mem_of_get? hfound), rfl⟩
  · intro k hk
    rw [fst_get, (Dict.get?_eq_none_iff _ _).mpr hk]
  · have hlength : (Dict.keys (run capacity ops).cache.cache).length ≤ capacity := by
      rw [show Dict.keys _ = _ from hinv.recent, List.length_reverse, hinv.capacity]
      exact List.length_take_le _ _
    simpa [Dict.keys] using hlength

end LruCache
