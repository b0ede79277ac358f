import SearchR1.Verification.Balancing.KarmarkarKarp
import Mathlib.Data.Fin.VecNotation

/-! # Balanced partitions -/

namespace SearchR1.KarmarkarKarp

open SeqlenBalancing List

variable {m : ℕ} {seqlenList : Fin m → ℕ} {kPartitions : ℕ} {equalSize : Bool}

/-- The calls for which there are partitions at all. -/
def ValidCall (m kPartitions : ℕ) (equalSize : Bool) : Prop :=
  0 < kPartitions ∧ kPartitions ≤ m ∧ (equalSize = true → kPartitions ∣ m)

theorem load_perm {partition partition' : List (Fin m)} (h : partition ~ partition') :
    load seqlenList partition = load seqlenList partition' :=
  (h.map seqlenList).sum_eq

/-- The check passes what `karmarkar_karp` promises. -/
theorem PartitionSpec.checkAndSortPartitions {bound : ℕ} {partitions : List (List (Fin m))}
    (h : PartitionSpec seqlenList kPartitions bound equalSize partitions) (hle : kPartitions ≤ m) :
    checkAndSortPartitions kPartitions partitions =
      some (partitions.map fun partition => partition.insertionSort (· ≤ ·)) := by
  apply if_pos
  refine ⟨h.length_eq, ?_, ?_⟩
  · intro partition hpartition
    exact length_pos_iff.mpr (h.nonempty hle partition hpartition)
  · ext i
    simp [h.perm.mem_iff]

/-- Sorting the partitions changes neither what they hold nor their loads. -/
theorem PartitionSpec.sort {bound : ℕ} {partitions : List (List (Fin m))}
    (h : PartitionSpec seqlenList kPartitions bound equalSize partitions) :
    PartitionSpec seqlenList kPartitions bound equalSize
      (partitions.map fun partition => partition.insertionSort (· ≤ ·)) := by
  have hsort := fun partition : List (Fin m) => perm_insertionSort (· ≤ ·) partition
  constructor
  · rw [length_map, h.length_eq]
  · exact (flatten_map_perm hsort partitions).trans h.perm
  · intro hle
    rw [forall_mem_map]
    intro partition hpartition hnil
    exact h.nonempty hle partition hpartition (by simpa [hnil] using (hsort partition).symm)
  · intro hequal
    rw [forall_mem_map]
    intro partition hpartition
    rw [(hsort partition).length_eq, h.equal hequal partition hpartition]
  · rw [map_map, show load seqlenList ∘ (fun partition => partition.insertionSort (· ≤ ·)) =
      load seqlenList from funext fun partition => load_perm (hsort partition)]
    exact h.within

theorem karmarkarKarp_eq_none (h : ¬ (0 < kPartitions ∧ (equalSize = true → kPartitions ∣ m))) :
    karmarkarKarp seqlenList kPartitions equalSize = none := by
  rw [karmarkarKarp, if_pos]
  by_contra hargs
  rw [not_or, not_and_not_right] at hargs
  exact h ⟨Nat.pos_of_ne_zero hargs.1, fun hequal => Nat.dvd_of_mod_eq_zero (hargs.2 hequal)⟩

theorem getSeqlenBalancedPartitions_of_valid {bound : ℕ} (hvalid : ValidCall m kPartitions equalSize)
    (hbound : StartBound seqlenList equalSize bound) :
    ∃ partitions, getSeqlenBalancedPartitions seqlenList kPartitions equalSize = some partitions ∧
      PartitionSpec seqlenList kPartitions bound equalSize partitions ∧
      ∀ partition ∈ partitions, partition.Pairwise (· < ·) := by
  rcases karmarkarKarp_spec hvalid.1 (hvalid.1.trans_le hvalid.2.1) hvalid.2.2 hbound with
    ⟨partitions, hpartitions, hspec⟩
  refine ⟨_, ?_, hspec.sort, ?_⟩
  · rw [getSeqlenBalancedPartitions, if_pos hvalid.2.1, hpartitions, Option.bind_some,
      hspec.checkAndSortPartitions hvalid.2.1]
  · rw [forall_mem_map]
    intro partition hpartition
    have hnodup : (partition.insertionSort (· ≤ ·)).Nodup :=
      (perm_insertionSort (· ≤ ·) partition).nodup_iff.mpr
        ((nodup_flatten.mp (hspec.perm.nodup_iff.mpr (nodup_finRange m))).1 partition hpartition)
    exact ((pairwise_insertionSort (· ≤ ·) partition).and hnodup).imp fun h => h.1.lt_of_ne h.2

theorem getSeqlenBalancedPartitions_eq_none (h : ¬ ValidCall m kPartitions equalSize) :
    getSeqlenBalancedPartitions seqlenList kPartitions equalSize = none := by
  by_cases hle : kPartitions ≤ m
  · have hargs : ¬ (0 < kPartitions ∧ (equalSize = true → kPartitions ∣ m)) :=
      fun hargs => h ⟨hargs.1, hle, hargs.2⟩
    rw [getSeqlenBalancedPartitions, if_pos hle, karmarkarKarp_eq_none hargs, Option.bind_none]
  · rw [getSeqlenBalancedPartitions, if_neg hle]

theorem startBound_sum (seqlenList : Fin m → ℕ) (equalSize : Bool) :
    StartBound seqlenList equalSize (∑ i, seqlenList i) := by
  have hle : ∀ i, seqlenList i ≤ ∑ j, seqlenList j := fun i =>
    Finset.single_le_sum (fun _ _ => Nat.zero_le _) (Finset.mem_univ i)
  exact ⟨fun i _ => (hle i).trans (Nat.le_add_left _ _), fun _ => hle⟩

/-- What is returned was returned for a valid call. -/
theorem partitionSpec_of_getSeqlenBalancedPartitions {bound : ℕ}
    {partitions : List (List (Fin m))}
    (h : getSeqlenBalancedPartitions seqlenList kPartitions equalSize = some partitions)
    (hbound : StartBound seqlenList equalSize bound) :
    ValidCall m kPartitions equalSize ∧
      PartitionSpec seqlenList kPartitions bound equalSize partitions ∧
      ∀ partition ∈ partitions, partition.Pairwise (· < ·) := by
  by_cases hvalid : ValidCall m kPartitions equalSize
  · rcases getSeqlenBalancedPartitions_of_valid hvalid hbound with ⟨found, hfound, hspec⟩
    rw [h, Option.some_inj] at hfound
    subst found
    exact ⟨hvalid, hspec⟩
  · rw [getSeqlenBalancedPartitions_eq_none hvalid] at h
    cases h

theorem getSeqlenBalancedPartitions_isSome :
    (getSeqlenBalancedPartitions seqlenList kPartitions equalSize).isSome ↔
      ValidCall m kPartitions equalSize := by
  have hbound := startBound_sum seqlenList equalSize
  constructor
  · intro hsome
    rcases Option.isSome_iff_exists.mp hsome with ⟨partitions, h⟩
    exact (partitionSpec_of_getSeqlenBalancedPartitions h hbound).1
  · intro hvalid
    rcases getSeqlenBalancedPartitions_of_valid hvalid hbound with ⟨partitions, h, _⟩
    exact Option.isSome_iff_exists.mpr ⟨partitions, h⟩

/-- `get_seqlen_balanced_partitions` returns for every call with at least one partition, at least
an item for each and, in the equal mode, a number of items that they divide; none of its
assertions ever stops such a call. It returns as many sorted partitions as asked for, none of
them empty and in the equal mode all of one size, that hold every index once. -/
theorem getSeqlenBalancedPartitions_complete (seqlenList : Fin m → ℕ) (kPartitions : ℕ)
    (equalSize : Bool) :
    ((getSeqlenBalancedPartitions seqlenList kPartitions equalSize).isSome ↔
      0 < kPartitions ∧ kPartitions ≤ m ∧ (equalSize = true → kPartitions ∣ m)) ∧
    ∀ partitions, getSeqlenBalancedPartitions seqlenList kPartitions equalSize = some partitions →
      partitions.length = kPartitions ∧ partitions.flatten ~ finRange m ∧
      (∀ partition ∈ partitions, partition ≠ [] ∧ partition.Pairwise (· < ·)) ∧
      (equalSize = true → ∀ partition ∈ partitions, partition.length * kPartitions = m) := by
  refine ⟨getSeqlenBalancedPartitions_isSome, ?_⟩
  intro partitions h
  rcases partitionSpec_of_getSeqlenBalancedPartitions h (startBound_sum seqlenList equalSize) with
    ⟨hvalid, hspec, hsorted⟩
  exact ⟨hspec.length_eq, hspec.perm, fun partition hpartition =>
    ⟨hspec.nonempty hvalid.2.1 partition hpartition, hsorted partition hpartition⟩, hspec.equal⟩

theorem getSeqlenBalancedPartitions_complete_four :
    [[2, 3], [0, 1]].length = 2 ∧ [[2, 3], [0, 1]].flatten ~ finRange 4 ∧
      (∀ partition ∈ ([[2, 3], [0, 1]] : List (List (Fin 4))),
        partition ≠ [] ∧ partition.Pairwise (· < ·)) ∧
      (true = true → ∀ partition ∈ ([[2, 3], [0, 1]] : List (List (Fin 4))),
        partition.length * 2 = 4) :=
  (getSeqlenBalancedPartitions_complete ![3, 1, 2, 2] 2 true).2 [[2, 3], [0, 1]] (by decide)

/-- The sum of the loads of the partitions is that of the lengths. -/
theorem sum_load {partitions : List (List (Fin m))} (h : partitions.flatten ~ finRange m) :
    (partitions.map (load seqlenList)).sum = ∑ i, seqlenList i := by
  have hflatten : ∀ parts : List (List (Fin m)),
      (parts.map (load seqlenList)).sum = (parts.flatten.map seqlenList).sum := by
    intro parts
    induction parts with
    | nil => rfl
    | cons part parts ih =>
        rw [map_cons, sum_cons, ih, flatten_cons, map_append, sum_append, load]
  rw [hflatten, (h.map seqlenList).sum_eq, Fin.univ_def, Finset.sum]
  simp

/-- How close two loads are, for every bound on the items. -/
theorem load_le_load_add {partitions : List (List (Fin m))}
    (h : getSeqlenBalancedPartitions seqlenList kPartitions equalSize = some partitions)
    {bound : ℕ} (hbound : StartBound seqlenList equalSize bound) :
    ∀ partition ∈ partitions, ∀ partition' ∈ partitions,
      load seqlenList partition ≤ load seqlenList partition' + bound := by
  intro partition hpartition partition' hpartition'
  have hspec := (partitionSpec_of_getSeqlenBalancedPartitions h hbound).2.1
  exact hspec.within _ (mem_map_of_mem hpartition) _ (mem_map_of_mem hpartition')

/-- How close a load is to the heaviest one of any other assignment. -/
theorem load_le_of_assignment {partitions : List (List (Fin m))}
    (h : getSeqlenBalancedPartitions seqlenList kPartitions equalSize = some partitions)
    (assignment : Fin m → Fin kPartitions) {most : ℕ}
    (hload : ∀ part, ∑ i with assignment i = part, seqlenList i ≤ most) :
    ∀ partition ∈ partitions,
      kPartitions * load seqlenList partition ≤ (2 * kPartitions - 1) * most := by
  intro partition hpartition
  have hmost : ∀ i, seqlenList i ≤ most :=
    Spread.weight_le_of_load_le (fun _ => Nat.zero_le _) hload
  have hbound : StartBound seqlenList equalSize most :=
    ⟨fun i j => (hmost i).trans (Nat.le_add_left _ _), fun _ => hmost⟩
  have hspec := (partitionSpec_of_getSeqlenBalancedPartitions h hbound).2.1
  exact hspec.within.length_nsmul_le_of_load_le (by rw [length_map, hspec.length_eq])
    (sum_load hspec.perm) hload (Nat.le_refl most) (mem_map_of_mem hpartition)

/-- The loads of the partitions lie within the difference of two items of each other, where sizes
are equal, and within one item otherwise. No assignment of the items to that many partitions has
a heaviest load below `k / (2k - 1)` of theirs. -/
theorem getSeqlenBalancedPartitions_balance (seqlenList : Fin m → ℕ) (kPartitions : ℕ)
    (equalSize : Bool) (partitions : List (List (Fin m)))
    (h : getSeqlenBalancedPartitions seqlenList kPartitions equalSize = some partitions) :
    (∀ bound, (∀ i j, seqlenList i ≤ seqlenList j + bound) →
      (equalSize = false → ∀ i, seqlenList i ≤ bound) →
      ∀ partition ∈ partitions, ∀ partition' ∈ partitions,
        load seqlenList partition ≤ load seqlenList partition' + bound) ∧
    ∀ (assignment : Fin m → Fin kPartitions) (most : ℕ),
      (∀ part, ∑ i with assignment i = part, seqlenList i ≤ most) →
      ∀ partition ∈ partitions,
        kPartitions * load seqlenList partition ≤ (2 * kPartitions - 1) * most :=
  ⟨fun _ hclose hsmall => load_le_load_add h ⟨hclose, hsmall⟩,
    fun assignment _ hload => load_le_of_assignment h assignment hload⟩

theorem getSeqlenBalancedPartitions_balance_four :
    (∀ bound, (∀ i j, ![3, 1, 2, 2] i ≤ ![3, 1, 2, 2] j + bound) →
      (true = false → ∀ i : Fin 4, ![3, 1, 2, 2] i ≤ bound) →
      ∀ partition ∈ ([[2, 3], [0, 1]] : List (List (Fin 4))),
        ∀ partition' ∈ ([[2, 3], [0, 1]] : List (List (Fin 4))),
          load ![3, 1, 2, 2] partition ≤ load ![3, 1, 2, 2] partition' + bound) ∧
    ∀ (assignment : Fin 4 → Fin 2) (most : ℕ),
      (∀ part, ∑ i with assignment i = part, ![3, 1, 2, 2] i ≤ most) →
      ∀ partition ∈ ([[2, 3], [0, 1]] : List (List (Fin 4))),
        2 * load ![3, 1, 2, 2] partition ≤ (2 * 2 - 1) * most :=
  getSeqlenBalancedPartitions_balance ![3, 1, 2, 2] 2 true [[2, 3], [0, 1]] (by decide)

/-! ## The partitioner of the trainer -/

/-- The checks of the equal mode, all at once or one after the other, decide alike. -/
theorem getSeqlenBalancedPartitions_partitioner (seqlenList : Fin m → ℕ) (kPartitions : ℕ) :
    SeqlenBalancing.getSeqlenBalancedPartitions partitioner seqlenList kPartitions =
      getSeqlenBalancedPartitions seqlenList kPartitions true := by
  by_cases hvalid : ValidCall m kPartitions true
  · rcases karmarkarKarp_spec hvalid.1 (hvalid.1.trans_le hvalid.2.1) hvalid.2.2
      (startBound_sum seqlenList true) with ⟨partitions, hpartitions, hspec⟩
    have hpartitioner : partitioner m seqlenList kPartitions = partitions := by
      rw [partitioner, hpartitions, Option.getD_some]
    have hcheck : CheckPartitions kPartitions partitions := by
      refine ⟨⟨hvalid.1, hvalid.2.1, Nat.mod_eq_zero_of_dvd (hvalid.2.2 rfl)⟩, hspec.equal rfl,
        hspec.length_eq, ?_, ?_⟩
      · intro partition hpartition
        exact length_pos_iff.mpr (hspec.nonempty hvalid.2.1 partition hpartition)
      · ext i
        simp [hspec.perm.mem_iff]
    rw [SeqlenBalancing.getSeqlenBalancedPartitions, hpartitioner, if_pos hcheck,
      getSeqlenBalancedPartitions, if_pos hvalid.2.1, hpartitions, Option.bind_some,
      hspec.checkAndSortPartitions hvalid.2.1]
  · have hcheck : ¬ CheckPartitions kPartitions (partitioner m seqlenList kPartitions) := by
      intro h
      exact hvalid ⟨h.1.1, h.1.2.1, fun _ => Nat.dvd_of_mod_eq_zero h.1.2.2⟩
    rw [SeqlenBalancing.getSeqlenBalancedPartitions, if_neg hcheck,
      getSeqlenBalancedPartitions_eq_none hvalid]

end SearchR1.KarmarkarKarp
