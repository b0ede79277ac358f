import SearchR1.Library.Chunks
import SearchR1.Verification.Balancing.Differencing

/-! # The partitions of the differencing method -/

namespace SearchR1.KarmarkarKarp

open SeqlenBalancing List

variable {m : ℕ}

/-! ## The states that are pushed first -/

namespace State

/-- The sets of a new state before they are sorted. -/
def firstSets (items : List (Fin m × ℕ)) (k : ℕ) : List (ItemSet m) :=
  (range k).map fun i =>
    match items[i]? with
    | some (idx, seqlen) => ItemSet.empty.add idx seqlen
    | none => ItemSet.empty

theorem ofItems_sets_perm (items : List (Fin m × ℕ)) (k : ℕ) :
    (ofItems items k).sets ~ firstSets items k :=
  sortSets_perm _

theorem flatMap_items_firstSets (items : List (Fin m × ℕ)) (k : ℕ) :
    (firstSets items k).flatMap ItemSet.items = items.take k := by
  induction k with
  | zero => rfl
  | succ k ih =>
      rw [firstSets, range_succ, map_append, flatMap_append, take_add_one, ← ih]
      congr 1
      cases h : items[k]? <;> simp [h]

theorem items_ofItems {items : List (Fin m × ℕ)} {k : ℕ} (h : items.length ≤ k) :
    (ofItems items k).items = items := by
  apply Multiset.coe_eq_coe.mpr
  have hperm := (ofItems_sets_perm items k).flatMap_right ItemSet.items
  rwa [flatMap_items_firstSets, take_of_length_le h] at hperm

/-- A set of a new state holds one of the items, or none where the items do not reach `k`. -/
theorem mem_firstSets {items : List (Fin m × ℕ)} {k : ℕ} {set : ItemSet m}
    (h : set ∈ firstSets items k) :
    (∃ item ∈ items, set.items = [item] ∧ set.sum = item.2) ∨
      (items.length < k ∧ set.items = [] ∧ set.sum = 0) := by
  rcases mem_map.mp h with ⟨i, hi, rfl⟩
  cases hitem : items[i]? with
  | none =>
      right
      exact ⟨(getElem?_eq_none_iff.mp hitem).trans_lt (mem_range.mp hi), rfl, rfl⟩
  | some item =>
      left
      exact ⟨item, mem_of_getElem? hitem, rfl, Nat.zero_add _⟩

theorem valid_ofItems {items : List (Fin m × ℕ)} {k bound : ℕ}
    (hclose : ∀ item ∈ items, ∀ item' ∈ items, item.2 ≤ item'.2 + bound)
    (hsmall : items.length < k → ∀ item ∈ items, item.2 ≤ bound) :
    (ofItems items k).Valid k bound := by
  have hperm := ofItems_sets_perm items k
  constructor
  · rw [hperm.length_eq, firstSets, length_map, length_range]
  · exact sortSets_pairwise _
  · apply Spread.Within.perm _ (hperm.map ItemSet.sum)
    intro x hx y hy
    rcases mem_map.mp hx with ⟨set, hset, rfl⟩
    rcases mem_map.mp hy with ⟨set', hset', rfl⟩
    rcases mem_firstSets hset with ⟨item, hitem, _, hsum⟩ | ⟨_, _, hsum⟩
    · rcases mem_firstSets hset' with ⟨item', hitem', _, hsum'⟩ | ⟨hlength, _, hsum'⟩
      · rw [hsum, hsum']
        exact hclose item hitem item' hitem'
      · rw [hsum, hsum', Nat.zero_add]
        exact hsmall hlength item hitem
    · rw [hsum]
      exact Nat.zero_le _
  · right
    intro set hset
    rcases mem_firstSets (hperm.mem_iff.mp hset) with ⟨_, _, hitems, _⟩ | ⟨_, hitems, _⟩
    · rw [hitems]
      rfl
    · rw [hitems]
      exact Nat.zero_le 1

end State

section Partitions

variable {seqlenList : Fin m → ℕ} {kPartitions bound : ℕ} {equalSize : Bool}

theorem sortedItems_perm (seqlenList : Fin m → ℕ) :
    sortedItems seqlenList ~ (finRange m).map fun i => (i, seqlenList i) :=
  (perm_insertionSort _ _).map _

theorem length_sortedItems (seqlenList : Fin m → ℕ) : (sortedItems seqlenList).length = m := by
  rw [(sortedItems_perm seqlenList).length_eq, length_map, length_finRange]

theorem snd_of_mem_sortedItems {item : Fin m × ℕ} (h : item ∈ sortedItems seqlenList) :
    item.2 = seqlenList item.1 := by
  rcases mem_map.mp ((sortedItems_perm seqlenList).mem_iff.mp h) with ⟨i, _, rfl⟩
  rfl

/-- How far apart two lengths may lie that start in one state. -/
def StartBound (seqlenList : Fin m → ℕ) (equalSize : Bool) (bound : ℕ) : Prop :=
  (∀ i j, seqlenList i ≤ seqlenList j + bound) ∧ (equalSize = false → ∀ i, seqlenList i ≤ bound)

/-- What holds of all states of the heap: in the equal mode the sets of a state have one size. -/
def HeapState (kPartitions bound : ℕ) (equalSize : Bool) (s : State m) : Prop :=
  s.Valid kPartitions bound ∧
    (equalSize = true → ∃ size, ∀ set ∈ s.sets, set.items.length = size)

theorem HeapState.merge {s t : State m} (hs : HeapState kPartitions bound equalSize s)
    (ht : HeapState kPartitions bound equalSize t) :
    HeapState kPartitions bound equalSize (s.merge t) := by
  refine ⟨hs.1.merge ht.1, ?_⟩
  intro hequal
  rcases hs.2 hequal with ⟨size, hsize⟩
  rcases ht.2 hequal with ⟨size', hsize'⟩
  exact ⟨size + size', State.items_length_merge hsize hsize'⟩

variable (seqlenList) in
theorem length_chunk {c : ℕ} (hdvd : kPartitions ∣ m) (hc : c < m / kPartitions) :
    (((sortedItems seqlenList).drop (c * kPartitions)).take kPartitions).length = kPartitions := by
  have hle : (c + 1) * kPartitions ≤ m := by
    calc (c + 1) * kPartitions
        ≤ m / kPartitions * kPartitions := Nat.mul_le_mul_right _ hc
      _ = m := Nat.div_mul_cancel hdvd
  rw [Nat.succ_mul] at hle
  rw [length_take, length_drop, length_sortedItems]
  omega

theorem heapState_of_mem_initialStates
    (hdvd : equalSize = true → kPartitions ∣ m) (hbound : StartBound seqlenList equalSize bound) :
    ∀ s ∈ initialStates seqlenList kPartitions equalSize,
      HeapState kPartitions bound equalSize s := by
  intro s hs
  cases equalSize with
  | true =>
      rcases mem_map.mp hs with ⟨c, hc, rfl⟩
      have hlength := length_chunk seqlenList (hdvd rfl) (mem_range.mp hc)
      have hitem : ∀ item ∈ ((sortedItems seqlenList).drop (c * kPartitions)).take kPartitions,
          item.2 = seqlenList item.1 := fun item h =>
        snd_of_mem_sortedItems (mem_of_mem_drop (mem_of_mem_take h))
      constructor
      · apply State.valid_ofItems
        · intro item h item' h'
          rw [hitem item h, hitem item' h']
          exact hbound.1 _ _
        · intro hlt
          exact absurd hlength hlt.ne
      · intro _
        refine ⟨1, ?_⟩
        intro set hset
        rcases State.mem_firstSets ((State.ofItems_sets_perm _ _).mem_iff.mp hset) with
          ⟨_, _, hitems, _⟩ | ⟨hlt, _, _⟩
        · rw [hitems]
          rfl
        · exact absurd hlength hlt.ne
  | false =>
      rcases mem_map.mp hs with ⟨item, hitem, rfl⟩
      have hsmall : item.2 ≤ bound := by
        rw [snd_of_mem_sortedItems hitem]
        exact hbound.2 rfl _
      constructor
      · apply State.valid_ofItems
        · intro i hi j hj
          rw [mem_singleton.mp hi, mem_singleton.mp hj]
          exact Nat.le_add_right _ _
        · intro _ i hi
          rw [mem_singleton.mp hi]
          exact hsmall
      · intro hequal
        exact absurd hequal Bool.false_ne_true

/-- The heap holds every item once before the first round. -/
theorem sum_items_initialStates (hk : 0 < kPartitions)
    (hdvd : equalSize = true → kPartitions ∣ m) :
    ((initialStates seqlenList kPartitions equalSize).map State.items).sum =
      (sortedItems seqlenList : Multiset _) := by
  cases equalSize with
  | true =>
      have hstates : ∀ cs : List ℕ, (∀ c ∈ cs, c < m / kPartitions) →
          ((cs.map fun c => State.ofItems
            (((sortedItems seqlenList).drop (c * kPartitions)).take kPartitions)
            kPartitions).map State.items).sum =
          ((cs.flatMap fun c =>
            ((sortedItems seqlenList).drop (c * kPartitions)).take kPartitions : List _) :
              Multiset _) := by
        intro cs hcs
        induction cs with
        | nil => rfl
        | cons c cs ih =>
            rw [forall_mem_cons] at hcs
            rw [map_cons, map_cons, sum_cons, ih hcs.2, flatMap_cons,
              State.items_ofItems (length_chunk seqlenList (hdvd rfl) hcs.1).le, Multiset.coe_add]
      have hall := hstates (range (m / kPartitions)) fun c hc => mem_range.mp hc
      have hchunks : ((range (m / kPartitions)).flatMap fun c =>
          ((sortedItems seqlenList).drop (c * kPartitions)).take kPartitions) =
            sortedItems seqlenList := by
        rw [flatMap_def]
        apply Chunks.flatten_chunks_of_length
        rw [length_sortedItems, Nat.div_mul_cancel (hdvd rfl)]
      rw [hchunks] at hall
      exact hall
  | false =>
      have hstates : ∀ items : List (Fin m × ℕ),
          ((items.map fun item => State.ofItems [item] kPartitions).map State.items).sum =
            (items : Multiset _) := by
        intro items
        induction items with
        | nil => rfl
        | cons item items ih =>
            rw [map_cons, map_cons, sum_cons, ih, State.items_ofItems hk,
              Multiset.coe_add]
            rfl
      exact hstates (sortedItems seqlenList)

/-! ## The state that is left -/

variable (seqlenList) in
theorem initialStates_ne_nil (hm : 0 < m) (hdvd : equalSize = true → kPartitions ∣ m) :
    initialStates seqlenList kPartitions equalSize ≠ [] := by
  rw [← length_pos_iff]
  cases equalSize with
  | true =>
      have hle := Nat.le_of_dvd hm (hdvd rfl)
      have hpos : 0 < kPartitions := Nat.pos_of_dvd_of_pos (hdvd rfl) hm
      simpa [initialStates] using ⟨hpos, hle⟩
  | false => simpa [initialStates, length_sortedItems] using hm

/-- The rounds end with one state, which holds every item once. -/
theorem exists_finalState (hk : 0 < kPartitions) (hm : 0 < m)
    (hdvd : equalSize = true → kPartitions ∣ m) (hbound : StartBound seqlenList equalSize bound) :
    ∃ finalState, mergeAll (initialStates seqlenList kPartitions equalSize) = [finalState] ∧
      HeapState kPartitions bound equalSize finalState ∧
      finalState.items = (sortedItems seqlenList : Multiset _) := by
  have hstart := heapState_of_mem_initialStates hdvd hbound
  have hlength := HeapLoop.length_loop State.key State.merge
    (initialStates_ne_nil seqlenList hm hdvd)
  rcases length_eq_one_iff.mp hlength with ⟨finalState, hfinal⟩
  have hmerge : ∀ s t : State m, HeapState kPartitions bound equalSize s →
      HeapState kPartitions bound equalSize t →
      HeapState kPartitions bound equalSize (s.merge t) := fun _ _ hs ht => hs.merge ht
  refine ⟨finalState, hfinal, ?_, ?_⟩
  · apply HeapLoop.forall_mem_loop State.key hmerge _ hstart
    rw [hfinal]
    exact mem_singleton_self _
  · have hsum := HeapLoop.sum_map_loop State.key (f := State.items) hmerge
      (fun _ _ hs ht => State.items_merge hs.1 ht.1)
      (initialStates seqlenList kPartitions equalSize).length hstart
    rw [hfinal, sum_items_initialStates hk hdvd] at hsum
    simpa using hsum

theorem mem_sum_items {heap : List (State m)} {s : State m} (hs : s ∈ heap) {item : Fin m × ℕ}
    (h : item ∈ s.items) : item ∈ (heap.map State.items).sum := by
  induction heap with
  | nil => cases hs
  | cons t heap ih =>
      rw [map_cons, sum_cons, Multiset.mem_add]
      rcases mem_cons.mp hs with rfl | hs
      · exact Or.inl h
      · exact Or.inr (ih hs)

/-- A state with items has one in its first set. -/
theorem State.Valid.exists_mem_largest {s : State m} (h : s.Valid kPartitions bound)
    (hitems : s.items ≠ 0) : ∃ item ∈ s.largest.items, item ∈ s.items := by
  cases hsets : s.sets with
  | nil =>
      exact absurd (by rw [State.items, hsets]; rfl) hitems
  | cons set sets =>
      have hlargest : s.largest = set := by rw [State.largest, hsets]; rfl
      cases hset : set.items with
      | nil =>
          have hsorted := h.sorted
          rw [hsets, pairwise_cons] at hsorted
          have hall : s.sets.flatMap ItemSet.items = [] := by
            rw [hsets, flatMap_eq_nil_iff]
            intro other hother
            rcases mem_cons.mp hother with rfl | hother
            · exact hset
            · exact ItemSet.items_eq_nil_of_key_le (hsorted.1 other hother) hset
          exact absurd (by rw [State.items, hall]; rfl) hitems
      | cons item rest =>
          refine ⟨item, by rw [hlargest, hset]; exact mem_cons_self, ?_⟩
          have hmem : item ∈ s.sets.flatMap ItemSet.items := by
            rw [hsets]
            exact mem_flatMap_of_mem mem_cons_self (by rw [hset]; exact mem_cons_self)
          exact hmem

theorem pairwise_key_ne {heap : List (State m)}
    (hvalid : ∀ s ∈ heap, s.Valid kPartitions bound ∧ s.items ≠ 0)
    (hnodup : (heap.map State.items).sum.Nodup) : heap.Pairwise fun s t => s.key ≠ t.key := by
  induction heap with
  | nil => exact Pairwise.nil
  | cons s heap ih =>
      rw [forall_mem_cons] at hvalid
      rw [map_cons, sum_cons, Multiset.nodup_add] at hnodup
      rw [pairwise_cons]
      refine ⟨?_, ih hvalid.2 hnodup.2.1⟩
      intro t ht hkey
      rcases hvalid.1.1.exists_mem_largest hvalid.1.2 with ⟨item, hitem, hs⟩
      have hlargest : s.largest.key = t.largest.key :=
        OrderDual.toDual.injective (Prod.mk.inj (toLex.injective hkey)).2
      rw [ItemSet.items_eq_of_key_eq hlargest] at hitem
      have hmem : item ∈ t.items := by
        have hset : t.largest ∈ t.sets := by
          cases hsets : t.sets with
          | nil => simp [State.largest, hsets] at hitem
          | cons set sets => simp [State.largest, hsets]
        exact mem_flatMap_of_mem hset hitem
      exact Multiset.disjoint_left.mp hnodup.2.2 hs (mem_sum_items ht hmem)

theorem items_ne_zero_of_mem_initialStates (hk : 0 < kPartitions)
    (hdvd : equalSize = true → kPartitions ∣ m) :
    ∀ s ∈ initialStates seqlenList kPartitions equalSize, s.items ≠ 0 := by
  intro s hs
  cases equalSize with
  | true =>
      rcases mem_map.mp hs with ⟨c, hc, rfl⟩
      have hlength := length_chunk seqlenList (hdvd rfl) (mem_range.mp hc)
      rw [State.items_ofItems hlength.le, ne_eq, Multiset.coe_eq_zero, ← length_eq_zero_iff, hlength]
      exact hk.ne'
  | false =>
      rcases mem_map.mp hs with ⟨item, _, rfl⟩
      rw [State.items_ofItems (show [item].length ≤ kPartitions from hk)]
      simp

/-- No two states of the heap ever compare equal: which one is popped first is determined by the
comparison alone. -/
theorem pairwise_key_ne_loop (hk : 0 < kPartitions) (hdvd : equalSize = true → kPartitions ∣ m)
    (rounds : ℕ) :
    (HeapLoop.loop State.key State.merge rounds
      (initialStates seqlenList kPartitions equalSize)).Pairwise fun s t => s.key ≠ t.key := by
  have hle : ∀ i, seqlenList i ≤ ∑ j, seqlenList j := fun i =>
    Finset.single_le_sum (fun j _ => Nat.zero_le _) (Finset.mem_univ i)
  have hbound : StartBound seqlenList equalSize (∑ j, seqlenList j) :=
    ⟨fun i _ => (hle i).trans (Nat.le_add_left _ _), fun _ => hle⟩
  have hstart : ∀ s ∈ initialStates seqlenList kPartitions equalSize,
      s.Valid kPartitions (∑ j, seqlenList j) ∧ s.items ≠ 0 := fun s hs =>
    ⟨(heapState_of_mem_initialStates hdvd hbound s hs).1,
      items_ne_zero_of_mem_initialStates hk hdvd s hs⟩
  have hmerge : ∀ s t : State m,
      s.Valid kPartitions (∑ j, seqlenList j) ∧ s.items ≠ 0 →
      t.Valid kPartitions (∑ j, seqlenList j) ∧ t.items ≠ 0 →
      (s.merge t).Valid kPartitions (∑ j, seqlenList j) ∧ (s.merge t).items ≠ 0 := by
    intro s t hs ht
    refine ⟨hs.1.merge ht.1, ?_⟩
    rw [State.items_merge hs.1 ht.1, ne_eq, add_eq_zero]
    exact fun h => hs.2 h.1
  apply pairwise_key_ne (HeapLoop.forall_mem_loop State.key hmerge rounds hstart)
  rw [HeapLoop.sum_map_loop State.key hmerge (fun _ _ hs ht => State.items_merge hs.1 ht.1) rounds
    hstart, sum_items_initialStates hk hdvd, Multiset.coe_nodup,
    (sortedItems_perm seqlenList).nodup_iff]
  apply (nodup_finRange m).map
  intro i j hij
  exact congrArg Prod.fst hij

/-! ## The partitions -/

/-- What `karmarkar_karp` promises for its partitions. -/
structure PartitionSpec (seqlenList : Fin m → ℕ) (kPartitions bound : ℕ) (equalSize : Bool)
    (partitions : List (List (Fin m))) : Prop where
  length_eq : partitions.length = kPartitions
  perm : partitions.flatten ~ finRange m
  nonempty : kPartitions ≤ m → ∀ partition ∈ partitions, partition ≠ []
  equal : equalSize = true → ∀ partition ∈ partitions, partition.length * kPartitions = m
  within : Spread.Within bound (partitions.map (load seqlenList))

theorem length_flatMap_items {s : State m}
    (hitems : s.items = (sortedItems seqlenList : Multiset _)) :
    (s.sets.flatMap ItemSet.items).length = m := by
  rw [(Multiset.coe_eq_coe.mp hitems).length_eq, length_sortedItems]

/-- With an item for every set no set is left empty. -/
theorem State.Valid.items_ne_nil {s : State m} (h : s.Valid kPartitions bound)
    (hitems : s.items = (sortedItems seqlenList : Multiset _)) (hle : kPartitions ≤ m) :
    ∀ set ∈ s.sets, set.items ≠ [] := by
  rcases h.filled with hfilled | hfilled
  · exact hfilled
  · intro set hset hempty
    have hperm := perm_cons_erase hset
    have htotal := length_flatMap_items hitems
    have hothers : ∀ sets : List (ItemSet m), (∀ set ∈ sets, set.items.length ≤ 1) →
        (sets.flatMap ItemSet.items).length ≤ sets.length := by
      intro sets hsets
      induction sets with
      | nil => exact Nat.le_refl 0
      | cons set sets ih =>
          rw [forall_mem_cons] at hsets
          rw [flatMap_cons, length_append, length_cons]
          have := ih hsets.2
          omega
    have hrest := hothers (s.sets.erase set) fun other hother =>
      hfilled other (mem_of_mem_erase hother)
    have hlength := hperm.length_eq
    rw [(hperm.flatMap_right ItemSet.items).length_eq, flatMap_cons, hempty, nil_append] at htotal
    rw [h.length_sets, length_cons] at hlength
    omega

theorem length_flatMap_of_size {size : ℕ} (sets : List (ItemSet m))
    (h : ∀ set ∈ sets, set.items.length = size) :
    (sets.flatMap ItemSet.items).length = size * sets.length := by
  induction sets with
  | nil => rfl
  | cons set sets ih =>
      rw [forall_mem_cons] at h
      rw [flatMap_cons, length_append, h.1, ih h.2, length_cons, Nat.mul_succ, Nat.add_comm]

/-- The load of a partition is the sum that its set has kept. -/
theorem load_map_fst {set : ItemSet m} (h : ∀ item ∈ set.items, item.2 = seqlenList item.1) :
    load seqlenList (set.items.map Prod.fst) = set.sum := by
  rw [load, map_map, set.sum_eq]
  congr 1
  apply map_congr_left
  intro item hitem
  exact (h item hitem).symm

theorem HeapState.partitionSpec {s : State m} (h : HeapState kPartitions bound equalSize s)
    (hitems : s.items = (sortedItems seqlenList : Multiset _)) :
    PartitionSpec seqlenList kPartitions bound equalSize s.getPartitions := by
  have hperm : s.sets.flatMap ItemSet.items ~ sortedItems seqlenList := Multiset.coe_eq_coe.mp hitems
  constructor
  · rw [State.getPartitions, length_map, h.1.length_sets]
  · have hflatten : s.getPartitions.flatten = (s.sets.flatMap ItemSet.items).map Prod.fst := by
      rw [State.getPartitions, ← flatMap_def, map_flatMap]
    rw [hflatten]
    have hfst := (hperm.trans (sortedItems_perm seqlenList)).map Prod.fst
    rwa [map_map, show Prod.fst ∘ (fun i => (i, seqlenList i)) = id from rfl, map_id] at hfst
  · intro hle partition hpartition
    rcases mem_map.mp hpartition with ⟨set, hset, rfl⟩
    rw [ne_eq, map_eq_nil_iff]
    exact h.1.items_ne_nil hitems hle set hset
  · intro hequal partition hpartition
    rcases h.2 hequal with ⟨size, hsize⟩
    rcases mem_map.mp hpartition with ⟨set, hset, rfl⟩
    rw [length_map, hsize set hset, ← h.1.length_sets, ← length_flatMap_of_size s.sets hsize]
    exact length_flatMap_items hitems
  · have hloads : s.getPartitions.map (load seqlenList) = s.sets.map ItemSet.sum := by
      rw [State.getPartitions, map_map]
      apply map_congr_left
      intro set hset
      apply load_map_fst
      intro item hitem
      exact snd_of_mem_sortedItems (hperm.mem_iff.mp (mem_flatMap_of_mem hset hitem))
    rw [hloads]
    exact h.1.within

/-- `karmarkar_karp` raises on no valid call. -/
theorem karmarkarKarp_spec (hk : 0 < kPartitions) (hm : 0 < m)
    (hdvd : equalSize = true → kPartitions ∣ m) (hbound : StartBound seqlenList equalSize bound) :
    ∃ partitions, karmarkarKarp seqlenList kPartitions equalSize = some partitions ∧
      PartitionSpec seqlenList kPartitions bound equalSize partitions := by
  rcases exists_finalState hk hm hdvd hbound with ⟨finalState, hfinal, hstate, hitems⟩
  have hspec := hstate.partitionSpec hitems
  refine ⟨finalState.getPartitions, ?_, hspec⟩
  have hargs : ¬ (kPartitions = 0 ∨ (equalSize ∧ m % kPartitions ≠ 0)) := by
    intro h
    rcases h with h | ⟨hequal, h⟩
    · omega
    · exact h (Nat.mod_eq_zero_of_dvd (hdvd hequal))
  have hsizes : ¬ (equalSize ∧
      ∃ partition ∈ finalState.getPartitions, partition.length * kPartitions ≠ m) := by
    intro h
    rcases h with ⟨hequal, partition, hpartition, h⟩
    exact h (hspec.equal hequal partition hpartition)
  simp only [karmarkarKarp, if_neg hargs, hfinal, if_neg hsizes]

end Partitions

end SearchR1.KarmarkarKarp
