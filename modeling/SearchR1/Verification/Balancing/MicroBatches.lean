import SearchR1.Model.MicroBatches
import SearchR1.Library.Monadic
import SearchR1.Verification.Balancing.Partitions

/-! # Micro-batches and the rows they came from -/

namespace SearchR1.MicroBatches

open SeqlenBalancing KarmarkarKarp List PyLoop

/-! ## The reverse of an index list -/

/-- Writes to different positions all stay. -/
theorem foldlM_set {entries : List (ℕ × ℕ)} {reverse : List ℕ}
    (hnodup : (entries.map Prod.fst).Nodup) (hlt : ∀ e ∈ entries, e.1 < reverse.length) :
    ∃ written, entries.foldlM (fun reverse entry =>
        if entry.1 < reverse.length then some (reverse.set entry.1 entry.2) else none) reverse =
          some written ∧
      written.length = reverse.length ∧ (∀ e ∈ entries, written[e.1]? = some e.2) ∧
      ∀ j, j ∉ entries.map Prod.fst → written[j]? = reverse[j]? := by
  induction entries generalizing reverse with
  | nil =>
      refine ⟨reverse, rfl, rfl, ?_, fun _ _ => rfl⟩
      intro e he
      cases he
  | cons entry entries ih =>
      rw [map_cons, nodup_cons] at hnodup
      rw [forall_mem_cons] at hlt
      have hrest : ∀ e ∈ entries, e.1 < (reverse.set entry.1 entry.2).length := by
        intro e he
        rw [length_set]
        exact hlt.2 e he
      rcases ih hnodup.2 hrest with ⟨written, hfold, hlength, hentries, hothers⟩
      rw [length_set] at hlength
      refine ⟨written, ?_, hlength, ?_, ?_⟩
      · rw [foldlM_cons, if_pos hlt.1]
        exact hfold
      · rw [forall_mem_cons]
        refine ⟨?_, hentries⟩
        rw [hothers _ hnodup.1, getElem?_set_self hlt.1]
      · intro j hj
        rw [map_cons, mem_cons, not_or] at hj
        rw [hothers j hj.2, getElem?_set_ne (Ne.symm hj.1)]

/-- The reverse of a permutation sends each entry back to its position. -/
theorem getReverseIdx_of_perm {idxMap : List ℕ} {n : ℕ} (hperm : idxMap ~ range n) :
    ∃ reverse, getReverseIdx idxMap = some reverse ∧ reverse.length = n ∧
      ∀ i j : ℕ, idxMap[i]? = some j → reverse[j]? = some i := by
  have hlength : idxMap.length = n := by rw [hperm.length_eq, length_range]
  have hnodup : (idxMap.zipIdx.map Prod.fst).Nodup := by
    rw [zipIdx_map_fst]
    exact hperm.nodup_iff.mpr nodup_range
  have hlt : ∀ e ∈ idxMap.zipIdx, e.1 < idxMap.length := by
    intro e he
    rw [hlength, ← mem_range, ← hperm.mem_iff]
    exact fst_mem_of_mem_zipIdx he
  rcases foldlM_set hnodup hlt with ⟨reverse, hfold, hsize, hentries, _⟩
  refine ⟨reverse, hfold, by rw [hsize, hlength], ?_⟩
  intro i j hij
  exact hentries (j, i) (mem_zipIdx_iff_getElem?.mpr hij)

/-- What was computed row by row in another order is restored to the order of the rows. -/
theorem restoreDynamicBatch_map {β : Type} (g : ℕ → β) {indices : List (List ℕ)} {n : ℕ}
    (hperm : indices.flatten ~ range n) :
    restoreDynamicBatch (indices.flatten.map g) indices = some ((range n).map g) := by
  rcases getReverseIdx_of_perm hperm with ⟨reverse, hreverse, hlength, hback⟩
  rw [restoreDynamicBatch, if_pos (length_map _).symm, hreverse, Option.bind_some, indexSelect,
    mapM_some_iff, forall₂_iff_get]
  refine ⟨by rw [hlength, length_map, length_range], ?_⟩
  intro j hj hj'
  have hmem : j ∈ indices.flatten := hperm.mem_iff.mpr (mem_range.mpr (hlength ▸ hj))
  rcases mem_iff_getElem?.mp hmem with ⟨i, hi⟩
  have hrev : reverse.get ⟨j, hj⟩ = i := by
    have := hback i j hi
    rw [getElem?_eq_getElem hj, Option.some_inj] at this
    exact this
  rw [hrev, getElem?_map, hi]
  simp

theorem indexSelect_eq_map {α : Type} {rows : List α} {indices : List ℕ} (d : α)
    (h : ∀ i ∈ indices, i < rows.length) :
    indexSelect rows indices = some (indices.map fun i => rows.getD i d) := by
  rw [indexSelect, mapM_some_iff, forall₂_map_right_iff, forall₂_same]
  intro i hi
  rw [getElem?_eq_getElem (h i hi), getD_eq_getElem?_getD, getElem?_eq_getElem (h i hi),
    Option.getD_some]

/-! ## The order of the micro-batches -/

theorem balanceOrder_perm (forceGroupSize : ℕ) (workloads : List ℕ) (idx : List (List ℕ)) :
    balanceOrder forceGroupSize workloads idx ~ idx :=
  (((reverse_perm _).append_right _).trans (everyOther_append_perm _)).trans
    (perm_insertionSort _ idx)

/-- The rows of consecutive groups. -/
theorem samplePartition_range (forceGroupSize count : ℕ) :
    samplePartition forceGroupSize (range count) = range (count * forceGroupSize) := by
  induction count with
  | zero => simp [samplePartition]
  | succ count ih =>
      rw [samplePartition] at ih ⊢
      rw [range_succ, flatMap_append, ih, Nat.succ_mul, range_eq_range', range_eq_range',
        ← range'_append_1]
      simp

theorem flatten_map_samplePartition (forceGroupSize : ℕ) (partitions : List (List ℕ)) :
    (partitions.map (samplePartition forceGroupSize)).flatten =
      samplePartition forceGroupSize partitions.flatten := by
  induction partitions with
  | nil => rfl
  | cons partition partitions ih =>
      rw [map_cons, flatten_cons, ih, flatten_cons, samplePartition, samplePartition,
        samplePartition, flatMap_append]

/-! ## The index lists -/

/-- The workload of the entries of a partition. -/
def workload (workloads partition : List ℕ) : ℕ := (partition.map fun i => workloads.getD i 0).sum

/-- What the partitions of a list of workloads satisfy. -/
structure IndexSpec (workloads : List ℕ) (kPartitions : ℕ) (partitions : List (List ℕ)) :
    Prop where
  length_eq : partitions.length = kPartitions
  perm : partitions.flatten ~ range workloads.length
  nonempty : ∀ partition ∈ partitions, partition ≠ []
  close : ∀ bound, (∀ w ∈ workloads, w ≤ bound) → ∀ partition ∈ partitions,
    ∀ partition' ∈ partitions,
      workload workloads partition ≤ workload workloads partition' + bound

theorem IndexSpec.of_perm {workloads : List ℕ} {kPartitions : ℕ}
    {partitions partitions' : List (List ℕ)} (h : IndexSpec workloads kPartitions partitions)
    (hperm : partitions' ~ partitions) : IndexSpec workloads kPartitions partitions' := by
  constructor
  · rw [hperm.length_eq, h.length_eq]
  · exact hperm.flatten.trans h.perm
  · intro partition hpartition
    exact h.nonempty partition (hperm.mem_iff.mp hpartition)
  · intro bound hbound partition hpartition partition' hpartition'
    exact h.close bound hbound partition (hperm.mem_iff.mp hpartition) partition'
      (hperm.mem_iff.mp hpartition')

theorem balancedPartitions_isSome {workloads : List ℕ} {kPartitions : ℕ} :
    (balancedPartitions workloads kPartitions).isSome ↔
      0 < kPartitions ∧ kPartitions ≤ workloads.length := by
  rw [balancedPartitions, Option.isSome_map, getSeqlenBalancedPartitions_isSome, ValidCall]
  simp

theorem indexSpec_of_balancedPartitions {workloads : List ℕ} {kPartitions : ℕ}
    {partitions : List (List ℕ)} (h : balancedPartitions workloads kPartitions = some partitions) :
    IndexSpec workloads kPartitions partitions := by
  rcases Option.map_eq_some_iff.mp h with ⟨found, hfound, rfl⟩
  rcases partitionSpec_of_getSeqlenBalancedPartitions hfound (startBound_sum _ false) with
    ⟨hvalid, hspec, _⟩
  have hload : ∀ partition : List (Fin workloads.length),
      workload workloads (partition.map Fin.val) = load workloads.get partition := by
    intro partition
    rw [workload, load, map_map]
    congr 1
    apply map_congr_left
    intro i _
    simp
  constructor
  · rw [length_map, hspec.length_eq]
  · rw [← map_flatten]
    have hval := hspec.perm.map Fin.val
    rwa [map_coe_finRange_eq_range] at hval
  · rw [forall_mem_map]
    intro partition hpartition hnil
    exact hspec.nonempty hvalid.2.1 partition hpartition (map_eq_nil_iff.mp hnil)
  · intro bound hbound
    simp only [forall_mem_map, hload]
    have hget : ∀ i, workloads.get i ≤ bound := fun i => hbound _ (get_mem workloads i)
    exact load_le_load_add hfound ⟨fun i _ => (hget i).trans (Nat.le_add_left _ _), fun _ => hget⟩

/-- Groups of one row are the rows. -/
theorem groupWorkloads_one (workloads : List ℕ) :
    groupWorkloads workloads.length 1 workloads = workloads := by
  apply ext_getElem
  · rw [groupWorkloads, length_map, length_range]
  · intro g hg hg'
    have hfirst : (workloads.drop g).take 1 = [workloads[g]] := by
      rw [drop_eq_getElem_cons hg', take_succ_cons, take_zero]
    simp only [groupWorkloads, getElem_map, getElem_range, Nat.mul_one, hfirst, sum_singleton]

theorem samplePartition_one (partition : List ℕ) : samplePartition 1 partition = partition := by
  induction partition with
  | nil => rfl
  | cons i partition ih =>
      rw [samplePartition] at ih ⊢
      rw [flatMap_cons, ih, Nat.mul_one]
      rfl

/-- The work of each group of consecutive rows. -/
def RearrangeConfig.workloads (cfg : RearrangeConfig) (seqLens : List ℕ) : List ℕ :=
  groupWorkloads (seqLens.length / cfg.forceGroupSize) cfg.forceGroupSize
    (seqLens.map calculateWorkload)

/-- When `rearrange_micro_batches` does not raise. -/
structure Splittable (cfg : RearrangeConfig) (maxSeqLen : ℕ) (seqLens : List ℕ) : Prop where
  fits : maxSeqLen ≤ cfg.maxTokenLen
  token_pos : 0 < cfg.maxTokenLen
  group_pos : 0 < cfg.forceGroupSize
  group_dvd : cfg.forceGroupSize ∣ seqLens.length
  divisor : cfg.numBatchesDividedBy ≠ some 0
  count_pos : 0 < cfg.numMicroBatches (seqLens.length / cfg.forceGroupSize) seqLens.sum
  count_le : cfg.numMicroBatches (seqLens.length / cfg.forceGroupSize) seqLens.sum ≤
    seqLens.length / cfg.forceGroupSize

variable {cfg : RearrangeConfig} {maxSeqLen : ℕ} {seqLens : List ℕ}

theorem length_workloads (cfg : RearrangeConfig) (seqLens : List ℕ) :
    (cfg.workloads seqLens).length = seqLens.length / cfg.forceGroupSize := by
  rw [RearrangeConfig.workloads, groupWorkloads, length_map, length_range]

/-- Rows and groups of rows are split alike. -/
theorem microBszIdx_eq_map (hpos : 0 < cfg.forceGroupSize)
    (hdvd : cfg.forceGroupSize ∣ seqLens.length) (hfits : maxSeqLen ≤ cfg.maxTokenLen)
    (htoken : 0 < cfg.maxTokenLen) (hdivisor : cfg.numBatchesDividedBy ≠ some 0)
    (hcount : cfg.numMicroBatches (seqLens.length / cfg.forceGroupSize) seqLens.sum ≤
      seqLens.length / cfg.forceGroupSize) :
    microBszIdx cfg maxSeqLen seqLens =
      (balancedPartitions (cfg.workloads seqLens)
        (cfg.numMicroBatches (seqLens.length / cfg.forceGroupSize) seqLens.sum)).map
          fun partitions =>
            if cfg.useDynamicBszBalance then
              balanceOrder cfg.forceGroupSize (cfg.workloads seqLens)
                (partitions.map (samplePartition cfg.forceGroupSize))
            else partitions.map (samplePartition cfg.forceGroupSize) := by
  rw [microBszIdx, if_neg (by omega),
    if_neg (by rw [not_or, not_not]; exact ⟨hpos.ne', Nat.mod_eq_zero_of_dvd hdvd⟩),
    if_neg hdivisor]
  simp only [if_neg (Nat.not_lt.mpr hcount)]
  by_cases hgroups : 1 < cfg.forceGroupSize
  · simp only [if_pos hgroups]
    rfl
  · have hone : cfg.forceGroupSize = 1 := by omega
    have hworkloads : cfg.workloads seqLens = seqLens.map calculateWorkload := by
      have hall := groupWorkloads_one (seqLens.map calculateWorkload)
      rw [length_map] at hall
      rw [RearrangeConfig.workloads, hone, Nat.div_one, hall]
    have hsample : samplePartition 1 = id := funext samplePartition_one
    simp only [hworkloads, hone, hsample, map_id, Nat.lt_irrefl, if_false]

theorem microBszIdx_isSome : (microBszIdx cfg maxSeqLen seqLens).isSome ↔
    Splittable cfg maxSeqLen seqLens := by
  constructor
  · intro hsome
    by_cases hsplit : maxSeqLen ≤ cfg.maxTokenLen ∧ 0 < cfg.maxTokenLen ∧
        0 < cfg.forceGroupSize ∧ cfg.forceGroupSize ∣ seqLens.length ∧
        cfg.numBatchesDividedBy ≠ some 0 ∧
        cfg.numMicroBatches (seqLens.length / cfg.forceGroupSize) seqLens.sum ≤
          seqLens.length / cfg.forceGroupSize
    · rcases hsplit with ⟨hfits, htoken, hpos, hdvd, hdivisor, hcount⟩
      rw [microBszIdx_eq_map hpos hdvd hfits htoken hdivisor hcount, Option.isSome_map,
        balancedPartitions_isSome] at hsome
      exact ⟨hfits, htoken, hpos, hdvd, hdivisor, hsome.1, hcount⟩
    · have hnone : microBszIdx cfg maxSeqLen seqLens = none := by
        rw [microBszIdx]
        split
        · rfl
        · rename_i hfits
          split
          · rfl
          · rename_i hgroup
            split
            · rfl
            · rename_i hdivisor
              apply if_pos
              rw [not_or] at hfits hgroup
              by_contra hcount
              exact hsplit ⟨by omega, by omega, by omega,
                Nat.dvd_of_mod_eq_zero (not_not.mp hgroup.2), hdivisor, by omega⟩
      rw [hnone] at hsome
      cases hsome
  · intro h
    rw [microBszIdx_eq_map h.group_pos h.group_dvd h.fits h.token_pos h.divisor h.count_le,
      Option.isSome_map, balancedPartitions_isSome, length_workloads]
    exact ⟨h.count_pos, h.count_le⟩

/-- The micro-batches are whole groups of rows, and the groups are balanced. -/
theorem exists_groups_of_microBszIdx {idx : List (List ℕ)}
    (h : microBszIdx cfg maxSeqLen seqLens = some idx) :
    ∃ groups, idx = groups.map (samplePartition cfg.forceGroupSize) ∧
      IndexSpec (cfg.workloads seqLens)
        (cfg.numMicroBatches (seqLens.length / cfg.forceGroupSize) seqLens.sum) groups := by
  have hsplit := microBszIdx_isSome.mp (Option.isSome_iff_exists.mpr ⟨idx, h⟩)
  rw [microBszIdx_eq_map hsplit.group_pos hsplit.group_dvd hsplit.fits hsplit.token_pos
    hsplit.divisor hsplit.count_le] at h
  rcases Option.map_eq_some_iff.mp h with ⟨partitions, hpartitions, hidx⟩
  have hspec := indexSpec_of_balancedPartitions hpartitions
  cases hbalance : cfg.useDynamicBszBalance with
  | false =>
      rw [hbalance] at hidx
      exact ⟨partitions, hidx.symm, hspec⟩
  | true =>
      rw [hbalance, if_pos rfl] at hidx
      have hperm := balanceOrder_perm cfg.forceGroupSize (cfg.workloads seqLens)
        (partitions.map (samplePartition cfg.forceGroupSize))
      rw [hidx] at hperm
      have hmap : Forall₂ (fun rows group => rows = samplePartition cfg.forceGroupSize group)
          (partitions.map (samplePartition cfg.forceGroupSize)) partitions := by
        rw [forall₂_map_left_iff, forall₂_same]
        exact fun _ _ => rfl
      rcases perm_comp_forall₂ hperm hmap with ⟨groups, hgroups, hordered⟩
      refine ⟨groups, ?_, hspec.of_perm hordered⟩
      rw [← forall₂_eq_eq_eq, forall₂_map_right_iff]
      exact hgroups

/-- Every row is in one micro-batch, once. -/
theorem flatten_perm_of_microBszIdx {idx : List (List ℕ)}
    (h : microBszIdx cfg maxSeqLen seqLens = some idx) : idx.flatten ~ range seqLens.length := by
  have hsplit := microBszIdx_isSome.mp (Option.isSome_iff_exists.mpr ⟨idx, h⟩)
  rcases exists_groups_of_microBszIdx h with ⟨groups, rfl, hspec⟩
  have hrows := (hspec.perm.flatMap_right fun group =>
    range' (group * cfg.forceGroupSize) cfg.forceGroupSize)
  rw [flatten_map_samplePartition]
  rwa [length_workloads, ← samplePartition.eq_1, ← samplePartition.eq_1, samplePartition_range,
    Nat.div_mul_cancel hsplit.group_dvd] at hrows

/-! ## One pass of the model over a batch -/

/-- The batches that `prepare_micro_batches` accepts, by the lengths of their rows. -/
def MicroBatching.Accepts (mode : MicroBatching) (seqLens : List ℕ) : Prop :=
  match mode with
  | .dynamic cfg maxSeqLen => Splittable cfg maxSeqLen seqLens
  | .fixed forceGroupSize microBatchSizePerGpu =>
      0 < forceGroupSize * microBatchSizePerGpu ∧
        forceGroupSize * microBatchSizePerGpu ∣ seqLens.length ∧ seqLens ≠ []

theorem MicroBatching.Accepts.ne_nil {mode : MicroBatching} {seqLens : List ℕ}
    (h : mode.Accepts seqLens) : seqLens ≠ [] := by
  cases mode with
  | dynamic cfg maxSeqLen =>
      intro hnil
      have hpos := h.count_pos.trans_le h.count_le
      rw [hnil] at hpos
      simp at hpos
  | fixed forceGroupSize microBatchSizePerGpu => exact h.2.2

variable {α β : Type} {rows : List α}

theorem mapM_indexSelect {idx : List (List ℕ)} (d : α)
    (h : ∀ i ∈ idx.flatten, i < rows.length) :
    idx.mapM (indexSelect rows) = some (idx.map fun p => p.map fun i => rows.getD i d) := by
  rw [mapM_some_iff, forall₂_map_right_iff, forall₂_same]
  intro p hp
  exact indexSelect_eq_map d fun i hi => h i (mem_flatten_of_mem hp hi)

theorem map_getD_range (f : α → β) (rows : List α) (d : α) :
    ((range rows.length).map fun i => f (rows.getD i d)) = rows.map f := by
  apply ext_getElem
  · simp
  · intro i hi hi'
    rw [length_map] at hi'
    simp [hi']

theorem prepareMicroBatches_dynamic {cfg : RearrangeConfig} {maxSeqLen : ℕ} {seqLen : α → ℕ}
    (h : Splittable cfg maxSeqLen (rows.map seqLen)) : ∃ (d : α) (idx : List (List ℕ)),
      idx.flatten ~ range rows.length ∧ prepareMicroBatches (.dynamic cfg maxSeqLen) seqLen rows =
        some (idx.map fun p => p.map fun i => rows.getD i d, some idx) := by
  rcases Option.isSome_iff_exists.mp (microBszIdx_isSome.mpr h) with ⟨idx, hidx⟩
  have hperm := flatten_perm_of_microBszIdx hidx
  rw [length_map] at hperm
  have haccept : (MicroBatching.dynamic cfg maxSeqLen).Accepts (rows.map seqLen) := h
  have hne : rows ≠ [] := fun hnil => haccept.ne_nil (by rw [hnil]; rfl)
  rcases exists_mem_of_ne_nil rows hne with ⟨d, _⟩
  have hlt : ∀ i ∈ idx.flatten, i < rows.length := fun i hi =>
    mem_range.mp (hperm.mem_iff.mp hi)
  refine ⟨d, idx, hperm, ?_⟩
  simp only [prepareMicroBatches, hidx, mapM_indexSelect d hlt, Option.bind_eq_bind,
    Option.bind_some, Option.pure_def]

theorem prepareMicroBatches_fixed {forceGroupSize microBatchSizePerGpu : ℕ} {seqLen : α → ℕ}
    (h : (MicroBatching.fixed forceGroupSize microBatchSizePerGpu).Accepts (rows.map seqLen)) :
    ∃ microBatches, microBatches.flatten = rows ∧
      prepareMicroBatches (.fixed forceGroupSize microBatchSizePerGpu) seqLen rows =
        some (microBatches, none) := by
  rcases h with ⟨hpos, hdvd, hne⟩
  rw [length_map] at hdvd
  have haccept : ¬ (forceGroupSize * microBatchSizePerGpu = 0 ∨
      rows.length % (forceGroupSize * microBatchSizePerGpu) ≠ 0 ∨ rows = []) := by
    rw [not_or, not_or, not_not]
    exact ⟨hpos.ne', Nat.mod_eq_zero_of_dvd hdvd, fun hnil => hne (by rw [hnil]; rfl)⟩
  exact ⟨_, Chunks.flatten_chunks_of_length (Nat.div_mul_cancel hdvd).symm, if_neg haccept⟩

/-- The micro-batches of a batch hold its rows. -/
theorem exists_microBatches {mode : MicroBatching} {seqLen : α → ℕ}
    (h : mode.Accepts (rows.map seqLen)) : ∃ microBatches indices,
      prepareMicroBatches mode seqLen rows = some (microBatches, indices) ∧
        microBatches.flatten ~ rows := by
  cases mode with
  | dynamic cfg maxSeqLen =>
      rcases prepareMicroBatches_dynamic h with ⟨d, idx, hperm, hprepare⟩
      refine ⟨_, some idx, hprepare, ?_⟩
      calc (idx.map fun p => p.map fun i => rows.getD i d).flatten
          = idx.flatten.map fun i => rows.getD i d := map_flatten.symm
        _ ~ (range rows.length).map fun i => rows.getD i d := hperm.map _
        _ = rows := (map_getD_range id rows d).trans (map_id rows)
  | fixed forceGroupSize microBatchSizePerGpu =>
      rcases prepareMicroBatches_fixed h with ⟨microBatches, hflatten, hprepare⟩
      exact ⟨microBatches, none, hprepare, Perm.of_eq hflatten⟩

/-- Restoring the order does not look at what is restored. -/
theorem restoreDynamicBatch_natural (g : α → β) (data : List α) (batchIdxList : List (List ℕ)) :
    restoreDynamicBatch (data.map g) batchIdxList =
      (restoreDynamicBatch data batchIdxList).map (map g) := by
  have hselect : ∀ indices : List ℕ,
      indexSelect (data.map g) indices = (indexSelect data indices).map (map g) := by
    intro indices
    rw [indexSelect, indexSelect]
    induction indices with
    | nil => rfl
    | cons i indices ih =>
        rw [mapM_cons, mapM_cons, ih, getElem?_map]
        cases data[i]? with
        | none => rfl
        | some a =>
            cases indices.mapM fun i => data[i]? with
            | none => rfl
            | some selected => rfl
  simp only [restoreDynamicBatch, length_map]
  by_cases hlength : batchIdxList.flatten.length = data.length
  · rw [if_pos hlength, if_pos hlength]
    cases getReverseIdx batchIdxList.flatten with
    | none => rfl
    | some reverse => exact hselect reverse
  · rw [if_neg hlength, if_neg hlength]
    rfl

/-- The outputs of the rows come back in the order of the rows. -/
theorem forwardBatch_of_accepts (mode : MicroBatching) (seqLen : α → ℕ) (f : α → β)
    (h : mode.Accepts (rows.map seqLen)) :
    forwardBatch mode seqLen (map f) rows = some (rows.map f) := by
  cases mode with
  | dynamic cfg maxSeqLen =>
      rcases prepareMicroBatches_dynamic h with ⟨d, idx, hperm, hprepare⟩
      have houtputs : (idx.map fun p => p.map fun i => rows.getD i d).flatMap (map f) =
          idx.flatten.map fun i => f (rows.getD i d) := by
        rw [flatMap_def, map_map, map_flatten]
        congr 1
        apply map_congr_left
        intro p _
        exact map_map
      simp only [forwardBatch, hprepare, Option.bind_eq_bind, Option.bind_some, houtputs]
      rw [restoreDynamicBatch_map (fun i => f (rows.getD i d)) hperm, map_getD_range]
  | fixed forceGroupSize microBatchSizePerGpu =>
      rcases prepareMicroBatches_fixed h with ⟨microBatches, hflatten, hprepare⟩
      simp only [forwardBatch, hprepare, Option.bind_eq_bind, Option.bind_some, Option.pure_def]
      rw [flatMap_def, ← map_flatten, hflatten]

/-- What can be read off the outputs of a pass row by row can be read off the outputs of the
micro-batches, also where a row's output depends on the rows beside it. -/
theorem forwardBatch_reads {γ : Type} {mode : MicroBatching} {seqLen : α → ℕ}
    {forwardStep : List α → List β} {read : β → γ} {f : α → γ}
    (hstep : ∀ microBatch, (∀ a ∈ microBatch, a ∈ rows) →
      (forwardStep microBatch).map read = microBatch.map f)
    (h : mode.Accepts (rows.map seqLen)) :
    ∃ outputs, forwardBatch mode seqLen forwardStep rows = some outputs ∧
      outputs.map read = rows.map f := by
  rcases exists_microBatches h with ⟨microBatches, indices, hprepare, hperm⟩
  have hread : (microBatches.flatMap forwardStep).map read = microBatches.flatMap (map f) := by
    rw [map_flatMap, flatMap_def, flatMap_def]
    congr 1
    apply map_congr_left
    intro microBatch hmem
    exact hstep microBatch fun a ha => hperm.subset (mem_flatten_of_mem hmem ha)
  have hnatural : forwardBatch mode seqLen (map f) rows =
      (forwardBatch mode seqLen forwardStep rows).map (map read) := by
    simp only [forwardBatch, hprepare, Option.bind_eq_bind, Option.bind_some, Option.pure_def]
    rw [← hread]
    cases indices with
    | none => rfl
    | some indices => exact restoreDynamicBatch_natural read _ _
  rw [forwardBatch_of_accepts mode seqLen f h] at hnatural
  exact Option.map_eq_some_iff.mp hnatural.symm

theorem prepareMicroBatches_eq_none (mode : MicroBatching) (seqLen : α → ℕ)
    (h : ¬ mode.Accepts (rows.map seqLen)) : prepareMicroBatches mode seqLen rows = none := by
  cases mode with
  | dynamic cfg maxSeqLen =>
      have hnone : microBszIdx cfg maxSeqLen (rows.map seqLen) = none := by
        rw [← Option.not_isSome_iff_eq_none, microBszIdx_isSome]
        exact h
      rw [prepareMicroBatches, hnone]
      rfl
  | fixed forceGroupSize microBatchSizePerGpu =>
      apply if_pos
      by_contra haccept
      rw [not_or, not_or, not_not] at haccept
      apply h
      refine ⟨Nat.pos_of_ne_zero haccept.1, ?_, fun hnil => haccept.2.2 (map_eq_nil_iff.mp hnil)⟩
      rw [length_map]
      exact Nat.dvd_of_mod_eq_zero haccept.2.1

theorem forwardBatch_eq_none (mode : MicroBatching) (seqLen : α → ℕ)
    (forwardStep : List α → List β) (h : ¬ mode.Accepts (rows.map seqLen)) :
    forwardBatch mode seqLen forwardStep rows = none := by
  rw [forwardBatch, prepareMicroBatches_eq_none mode seqLen h]
  rfl

/-- However a batch is cut into micro-batches, of one size or balanced, in groups or row by row,
in whatever order: a pass of the model that treats its rows one by one gives the outputs of the
rows, in the order of the rows. It raises exactly when the batch cannot be cut. -/
theorem forwardBatch_rows (mode : MicroBatching) (seqLen : α → ℕ) (f : α → β) (rows : List α) :
    ((forwardBatch mode seqLen (map f) rows).isSome ↔ mode.Accepts (rows.map seqLen)) ∧
      ∀ outputs, forwardBatch mode seqLen (map f) rows = some outputs → outputs = rows.map f := by
  by_cases h : mode.Accepts (rows.map seqLen)
  · rw [forwardBatch_of_accepts mode seqLen f h]
    refine ⟨iff_of_true rfl h, ?_⟩
    intro outputs houtputs
    exact (Option.some_inj.mp houtputs).symm
  · rw [forwardBatch_eq_none mode seqLen (map f) h]
    refine ⟨iff_of_false Bool.false_ne_true h, ?_⟩
    intro outputs houtputs
    cases houtputs

/-- Pairs of rows of lengths 5, 7, 2, 8, 3 and 3, at most 16 tokens in a micro-batch. -/
def pairedRows : MicroBatching := .dynamic ⟨16, some [2, 3], none, none, true, 2⟩ 8

theorem forwardBatch_rows_pairedRows :
    [105, 107, 102, 108, 103, 103] = [5, 7, 2, 8, 3, 3].map (· + 100) :=
  (forwardBatch_rows pairedRows id (· + 100) [5, 7, 2, 8, 3, 3]).2 _ (by decide)

/-! ## What the micro-batches hold -/

/-- The workload of the rows of a micro-batch. -/
def rowsWorkload (seqLens rows : List ℕ) : ℕ :=
  (rows.map fun i => calculateWorkload (seqLens.getD i 0)).sum

theorem map_getD_range' (w : List ℕ) {start size : ℕ} (h : start + size ≤ w.length) :
    ((range' start size).map fun i => w.getD i 0) = (w.drop start).take size := by
  apply ext_getElem
  · simp only [length_map, length_range', length_take, length_drop]
    omega
  · intro i hi hi'
    rw [length_map, length_range'] at hi
    have hlt : start + i < w.length := by omega
    simp only [getElem_map, getElem_range', getElem_take, getElem_drop, Nat.one_mul]
    rw [getD_eq_getElem?_getD, getElem?_eq_getElem hlt, Option.getD_some]

/-- The work of whole groups is that of their rows. -/
theorem rowsWorkload_samplePartition (hdvd : cfg.forceGroupSize ∣ seqLens.length) {group : List ℕ}
    (hgroup : ∀ g ∈ group, g < seqLens.length / cfg.forceGroupSize) :
    rowsWorkload seqLens (samplePartition cfg.forceGroupSize group) =
      workload (cfg.workloads seqLens) group := by
  have hzero : calculateWorkload 0 = 0 := rfl
  have hrow : ∀ i, calculateWorkload (seqLens.getD i 0) =
      (seqLens.map calculateWorkload).getD i 0 := by
    intro i
    rw [getD_eq_getElem?_getD, getD_eq_getElem?_getD, getElem?_map]
    cases seqLens[i]? with
    | none => exact hzero
    | some len => rfl
  induction group with
  | nil => rfl
  | cons g group ih =>
      rw [forall_mem_cons] at hgroup
      have hle : (g + 1) * cfg.forceGroupSize ≤ seqLens.length := by
        calc (g + 1) * cfg.forceGroupSize
            ≤ seqLens.length / cfg.forceGroupSize * cfg.forceGroupSize :=
              Nat.mul_le_mul_right _ hgroup.1
          _ = seqLens.length := Nat.div_mul_cancel hdvd
      rw [Nat.succ_mul] at hle
      have hfirst : (cfg.workloads seqLens).getD g 0 =
          (((seqLens.map calculateWorkload).drop (g * cfg.forceGroupSize)).take
            cfg.forceGroupSize).sum := by
        have hlt : g < (cfg.workloads seqLens).length := by
          rw [length_workloads]
          exact hgroup.1
        rw [getD_eq_getElem?_getD, getElem?_eq_getElem hlt, Option.getD_some]
        simp only [RearrangeConfig.workloads, groupWorkloads, getElem_map, getElem_range]
      have ih := ih hgroup.2
      simp only [rowsWorkload, workload, samplePartition, hrow] at ih ⊢
      rw [flatMap_cons, map_append, sum_append, ih, map_cons, sum_cons, hfirst,
        map_getD_range' _ (by rwa [length_map])]

theorem mem_samplePartition {size : ℕ} (hpos : 0 < size) {group : List ℕ} {i : ℕ} :
    i ∈ samplePartition size group ↔ i / size ∈ group := by
  rw [samplePartition, mem_flatMap]
  constructor
  · intro h
    rcases h with ⟨g, hg, hi⟩
    rw [mem_range'_1] at hi
    have hdiv : i / size = g := by
      rw [Nat.div_eq_iff hpos]
      omega
    rwa [hdiv]
  · intro h
    refine ⟨i / size, h, ?_⟩
    rw [mem_range'_1]
    have hmod := Nat.mod_lt i hpos
    have hdecomp := Nat.div_add_mod' i size
    omega

/-- Consecutive rows that are kept together stay together, no micro-batch is empty, and the work
of two of them differs by no more than the most work of such a group of rows. -/
theorem microBszIdx_groups (cfg : RearrangeConfig) (maxSeqLen : ℕ) (seqLens : List ℕ)
    (idx : List (List ℕ)) (h : microBszIdx cfg maxSeqLen seqLens = some idx) :
    idx.length = cfg.numMicroBatches (seqLens.length / cfg.forceGroupSize) seqLens.sum ∧
      (∀ rows ∈ idx, rows ≠ []) ∧
      (∀ rows ∈ idx, ∀ i ∈ rows, ∀ j, j / cfg.forceGroupSize = i / cfg.forceGroupSize → j ∈ rows) ∧
      ∀ bound, (∀ w ∈ cfg.workloads seqLens, w ≤ bound) → ∀ rows ∈ idx, ∀ rows' ∈ idx,
        rowsWorkload seqLens rows ≤ rowsWorkload seqLens rows' + bound := by
  have hsplit := microBszIdx_isSome.mp (Option.isSome_iff_exists.mpr ⟨idx, h⟩)
  rcases exists_groups_of_microBszIdx h with ⟨groups, rfl, hspec⟩
  have hlt : ∀ group ∈ groups, ∀ g ∈ group, g < seqLens.length / cfg.forceGroupSize := by
    intro group hgroup g hg
    have hmem := hspec.perm.mem_iff.mp (mem_flatten_of_mem hgroup hg)
    rwa [mem_range, length_workloads] at hmem
  refine ⟨?_, ?_, ?_, ?_⟩
  · rw [length_map, hspec.length_eq]
  · rw [forall_mem_map]
    intro group hgroup hnil
    rcases exists_mem_of_ne_nil group (hspec.nonempty group hgroup) with ⟨g, hg⟩
    have hmem : g * cfg.forceGroupSize ∈ samplePartition cfg.forceGroupSize group := by
      rw [mem_samplePartition hsplit.group_pos, Nat.mul_div_cancel _ hsplit.group_pos]
      exact hg
    rw [hnil] at hmem
    cases hmem
  · rw [forall_mem_map]
    intro group _ i hi j hij
    rw [mem_samplePartition hsplit.group_pos] at hi ⊢
    rwa [hij]
  · intro bound hbound
    simp only [forall_mem_map]
    intro group hgroup group' hgroup'
    rw [rowsWorkload_samplePartition hsplit.group_dvd (hlt group hgroup),
      rowsWorkload_samplePartition hsplit.group_dvd (hlt group' hgroup')]
    exact hspec.close bound hbound group hgroup group' hgroup'

theorem microBszIdx_groups_pairedRows :
    [[4, 5], [0, 1], [2, 3]].length = 3 ∧ (∀ rows ∈ [[4, 5], [0, 1], [2, 3]], rows ≠ []) ∧
      (∀ rows ∈ [[4, 5], [0, 1], [2, 3]], ∀ i ∈ rows, ∀ j, j / 2 = i / 2 → j ∈ rows) ∧
      ∀ bound, (∀ w ∈ RearrangeConfig.workloads ⟨16, some [2, 3], none, none, true, 2⟩
          [5, 7, 2, 8, 3, 3], w ≤ bound) →
        ∀ rows ∈ [[4, 5], [0, 1], [2, 3]], ∀ rows' ∈ [[4, 5], [0, 1], [2, 3]],
          rowsWorkload [5, 7, 2, 8, 3, 3] rows ≤ rowsWorkload [5, 7, 2, 8, 3, 3] rows' + bound :=
  microBszIdx_groups ⟨16, some [2, 3], none, none, true, 2⟩ 8 [5, 7, 2, 8, 3, 3]
    [[4, 5], [0, 1], [2, 3]] (by decide)

/-! ## The ranks of a group -/

/-- The number of micro-batches a rank makes for its own rows before the ranks agree on one. -/
def RearrangeConfig.ownMicroBatches (cfg : RearrangeConfig) (seqLens : List ℕ) : ℕ :=
  { cfg with dpGroup := none, numBatchesDividedBy := none }.numMicroBatches
    (seqLens.length / cfg.forceGroupSize) seqLens.sum

/-- The configuration of a rank in a group, which holds the rows of all its ranks. -/
def RearrangeConfig.inGroup (cfg : RearrangeConfig) (shards : List (List ℕ)) : RearrangeConfig :=
  { cfg with dpGroup := some (shards.map cfg.ownMicroBatches) }

theorem foldl_max_of_mem {l : List ℕ} {a : ℕ} (h : a ∈ l) : l.foldl max a = l.foldl max 0 := by
  have hle : ∀ l : List ℕ, a ∈ l → a ≤ l.foldl max 0 := by
    intro l hl
    induction l using List.reverseRecOn with
    | nil => cases hl
    | append_singleton l b ih =>
        rw [foldl_append, foldl_cons, foldl_nil]
        rcases mem_append.mp hl with hl | hl
        · exact (ih hl).trans (Nat.le_max_left _ _)
        · rw [mem_singleton.mp hl]
          exact Nat.le_max_right _ _
  calc l.foldl max a
      = l.foldl max (max a 0) := by rw [Nat.max_zero]
    _ = max a (l.foldl max 0) := foldl_assoc
    _ = l.foldl max 0 := Nat.max_eq_right (hle l h)

theorem numMicroBatches_inGroup {shards : List (List ℕ)} {shard : List ℕ} (h : shard ∈ shards) :
    (cfg.inGroup shards).numMicroBatches (shard.length / cfg.forceGroupSize) shard.sum =
      (cfg.numBatchesDividedBy.map fun divisor =>
        roundupDivisible ((shards.map cfg.ownMicroBatches).foldl max 0) divisor).getD
          ((shards.map cfg.ownMicroBatches).foldl max 0) := by
  have hown := foldl_max_of_mem (mem_map_of_mem (f := cfg.ownMicroBatches) h)
  rw [← hown]
  rfl

/-- The ranks of a group cut their rows into equally many micro-batches, whatever rows each of
them has. -/
theorem length_microBszIdx_inGroup (cfg : RearrangeConfig) (shards : List (List ℕ))
    (shard shard' : List ℕ) (hshard : shard ∈ shards) (hshard' : shard' ∈ shards)
    (maxSeqLen maxSeqLen' : ℕ) (idx idx' : List (List ℕ))
    (h : microBszIdx (cfg.inGroup shards) maxSeqLen shard = some idx)
    (h' : microBszIdx (cfg.inGroup shards) maxSeqLen' shard' = some idx') :
    idx.length = idx'.length := by
  rcases exists_groups_of_microBszIdx h with ⟨groups, rfl, hspec⟩
  rcases exists_groups_of_microBszIdx h' with ⟨groups', rfl, hspec'⟩
  have hcount := hspec.length_eq
  have hcount' := hspec'.length_eq
  change _ = (cfg.inGroup shards).numMicroBatches (shard.length / cfg.forceGroupSize) _ at hcount
  change _ = (cfg.inGroup shards).numMicroBatches (shard'.length / cfg.forceGroupSize) _ at hcount'
  rw [numMicroBatches_inGroup hshard] at hcount
  rw [numMicroBatches_inGroup hshard'] at hcount'
  rw [length_map, length_map, hcount, hcount']

theorem length_microBszIdx_inGroup_two : [[1], [0]].length = [[0, 1], [2]].length :=
  length_microBszIdx_inGroup ⟨8, none, none, none, true, 1⟩ [[5, 7], [2, 2, 3]] [5, 7] [2, 2, 3]
    (by decide) (by decide) 8 8 [[1], [0]] [[0, 1], [2]] (by decide) (by decide)

end SearchR1.MicroBatches
