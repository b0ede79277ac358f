import SearchR1.Library.Dict

/-! # Least-recently-used caches

The items stand in the order of their last use, the most recent one last. -/

structure LruCache (κ ν : Type*) where
  capacity : ℕ := 1000
  cache : Dict κ ν := []

namespace LruCache

variable {κ ν : Type*} [DecidableEq κ]

/-- `move_to_end` for a present key. -/
def moveToEnd (d : Dict κ ν) (k : κ) : Dict κ ν :=
  match Dict.get? d k with
  | none => d
  | some v => d.filter (fun e => e.1 ≠ k) ++ [(k, v)]

def get (c : LruCache κ ν) (k : κ) : Option ν × LruCache κ ν :=
  match Dict.get? c.cache k with
  | none => (none, c)
  | some v => (some v, { c with cache := moveToEnd c.cache k })

def put (c : LruCache κ ν) (k : κ) (v : ν) : LruCache κ ν :=
  let cache := moveToEnd (Dict.set c.cache k v) k
  { c with cache := if cache.length > c.capacity then cache.drop 1 else cache }

theorem fst_get (c : LruCache κ ν) (k : κ) : (c.get k).1 = Dict.get? c.cache k := by
  unfold get
  split
  · rename_i h
    exact h.symm
  · rename_i h
    exact h.symm

theorem mem_moveToEnd {d : Dict κ ν} {k : κ} {e : κ × ν} (h : e ∈ moveToEnd d k) : e ∈ d := by
  unfold moveToEnd at h
  split at h
  · exact h
  · rename_i v hv
    rcases List.mem_append.mp h with h | h
    · exact (List.mem_filter.mp h).1
    · rw [List.mem_singleton.mp h]
      exact Dict.mem_of_get? hv

/-- A lookup leaves the items what they are. -/
theorem mem_get {c : LruCache κ ν} {k : κ} {e : κ × ν} (h : e ∈ (c.get k).2.cache) :
    e ∈ c.cache := by
  unfold get at h
  split at h
  · exact h
  · exact mem_moveToEnd h

/-- The only new item is the one that is put. -/
theorem mem_put {c : LruCache κ ν} {k : κ} {v : ν} {e : κ × ν} (h : e ∈ (c.put k v).cache) :
    e = (k, v) ∨ e ∈ c.cache := by
  unfold put at h
  simp only at h
  split at h
  · exact Dict.mem_set (mem_moveToEnd (List.mem_of_mem_drop h))
  · exact Dict.mem_set (mem_moveToEnd h)

end LruCache
