import SearchR1.Library.Chunks
import SearchR1.Model.KarmarkarKarp

/-! # Micro-batches of a batch -/

namespace SearchR1.MicroBatches

open SeqlenBalancing KarmarkarKarp

/-- `ceildiv`. -/
def ceildiv (a b : ℕ) : ℕ := (a + b - 1) / b

/-- `roundup_divisible`. -/
def roundupDivisible (a b : ℕ) : ℕ := (a + b - 1) / b * b

/-- What `rearrange_micro_batches` is told beside the batch. -/
structure RearrangeConfig where
  maxTokenLen : ℕ
  /-- The counts of the other ranks, where the counts are made equal over a `dp_group`. -/
  dpGroup : Option (List ℕ)
  numBatchesDividedBy : Option ℕ
  minNumMicroBatch : Option ℕ
  useDynamicBszBalance : Bool
  forceGroupSize : ℕ

/-- How many micro-batches there are to be. -/
def RearrangeConfig.numMicroBatches (cfg : RearrangeConfig) (numGroups totalSeqlen : ℕ) : ℕ :=
  let own := min numGroups (ceildiv totalSeqlen cfg.maxTokenLen)
  let atLeast := (cfg.minNumMicroBatch.map fun least => max least own).getD own
  let synced := (cfg.dpGroup.map fun others => others.foldl max atLeast).getD atLeast
  (cfg.numBatchesDividedBy.map fun divisor => roundupDivisible synced divisor).getD synced

/-- `l[::step]`. -/
def everyNth {α : Type*} (step : ℕ) (l : List α) : List α :=
  l.zipIdx.filterMap fun entry => if entry.2 % step = 0 then some entry.1 else none

/-- The workload of a micro-batch as it is sorted. -/
def partitionWorkload (forceGroupSize : ℕ) (workloads partition : List ℕ) : ℕ :=
  if 1 < forceGroupSize then
    ((everyNth forceGroupSize partition).map fun idx => workloads.getD (idx / forceGroupSize) 0).sum
  else (partition.map fun idx => workloads.getD idx 0).sum

/-- The largest micro-batches come first, of two with one workload the one with the later first
row; then every other one is moved to the front, in reverse. -/
def balanceOrder (forceGroupSize : ℕ) (workloads : List ℕ) (microBszIdx : List (List ℕ)) :
    List (List ℕ) :=
  let key partition := (partitionWorkload forceGroupSize workloads partition, partition.headD 0)
  let sorted := microBszIdx.insertionSort fun p q =>
    (key q).1 < (key p).1 ∨ (key q).1 = (key p).1 ∧ (key q).2 ≤ (key p).2
  (everyOther sorted).reverse ++ everyOther sorted.tail

/-- `workloads_per_sample.view(num_groups, force_group_size).sum(dim=1)`. -/
def groupWorkloads (numGroups forceGroupSize : ℕ) (workloadsPerSample : List ℕ) : List ℕ :=
  (List.range numGroups).map fun group =>
    ((workloadsPerSample.drop (group * forceGroupSize)).take forceGroupSize).sum

/-- The rows of a partition of groups. -/
def samplePartition (forceGroupSize : ℕ) (groupPartition : List ℕ) : List ℕ :=
  groupPartition.flatMap fun group => List.range' (group * forceGroupSize) forceGroupSize

/-- `get_seqlen_balanced_partitions` of a list, with `equal_size=False`. -/
def balancedPartitions (workloads : List ℕ) (kPartitions : ℕ) : Option (List (List ℕ)) :=
  (getSeqlenBalancedPartitions workloads.get kPartitions false).map fun partitions =>
    partitions.map fun partition => partition.map Fin.val

/-- The index lists of `rearrange_micro_batches` on the effective lengths of the rows; `none` when
it raises. -/
def microBszIdx (cfg : RearrangeConfig) (maxSeqLen : ℕ) (seqLens : List ℕ) :
    Option (List (List ℕ)) :=
  if cfg.maxTokenLen < maxSeqLen ∨ cfg.maxTokenLen = 0 then none
  else if cfg.forceGroupSize = 0 ∨ seqLens.length % cfg.forceGroupSize ≠ 0 then none
  else if cfg.numBatchesDividedBy = some 0 then none
  else
    let numGroups := seqLens.length / cfg.forceGroupSize
    let numMicroBatches := cfg.numMicroBatches numGroups seqLens.sum
    if numGroups < numMicroBatches then none
    else
      let workloadsPerSample := seqLens.map calculateWorkload
      let workloads :=
        if 1 < cfg.forceGroupSize then
          groupWorkloads numGroups cfg.forceGroupSize workloadsPerSample
        else workloadsPerSample
      (balancedPartitions workloads numMicroBatches).map fun partitions =>
        let microBszIdx :=
          if 1 < cfg.forceGroupSize then partitions.map (samplePartition cfg.forceGroupSize)
          else partitions
        if cfg.useDynamicBszBalance then balanceOrder cfg.forceGroupSize workloads microBszIdx
        else microBszIdx

/-- `index_select_tensor_dict`. -/
def indexSelect {α : Type} (rows : List α) (indices : List ℕ) : Option (List α) :=
  indices.mapM fun i => rows[i]?

/-- `get_reverse_idx`; an index past the end raises. -/
def getReverseIdx (idxMap : List ℕ) : Option (List ℕ) :=
  idxMap.zipIdx.foldlM (fun reverse entry =>
    if entry.1 < reverse.length then some (reverse.set entry.1 entry.2) else none) idxMap

/-- `restore_dynamic_batch`. -/
def restoreDynamicBatch {α : Type} (data : List α) (batchIdxList : List (List ℕ)) :
    Option (List α) :=
  let indices := batchIdxList.flatten
  if indices.length = data.length then
    (getReverseIdx indices).bind fun revertIndices => indexSelect data revertIndices
  else none

/-- How `prepare_micro_batches` is to split a batch. -/
inductive MicroBatching where
  /-- `use_dynamic_bsz`, with the longest row the batch could hold. -/
  | dynamic (cfg : RearrangeConfig) (maxSeqLen : ℕ)
  | fixed (forceGroupSize microBatchSizePerGpu : ℕ)

/-- `prepare_micro_batches`: the micro-batches, and their rows where they were rearranged. -/
def prepareMicroBatches {α : Type} (mode : MicroBatching) (seqLen : α → ℕ) (rows : List α) :
    Option (List (List α) × Option (List (List ℕ))) :=
  match mode with
  | .dynamic cfg maxSeqLen => do
      let indices ← microBszIdx cfg maxSeqLen (rows.map seqLen)
      let microBatches ← indices.mapM (indexSelect rows)
      return (microBatches, some indices)
  | .fixed forceGroupSize microBatchSizePerGpu =>
      let size := forceGroupSize * microBatchSizePerGpu
      if size = 0 ∨ rows.length % size ≠ 0 ∨ rows = [] then none
      else some (Chunks.chunks size (rows.length / size) rows, none)

/-- `forward_backward_batch` as far as the output of each row goes, `postprocess_batch_func` last:
`forwardStep` is one pass of the model over a micro-batch. -/
def forwardBatch {α β : Type} (mode : MicroBatching) (seqLen : α → ℕ)
    (forwardStep : List α → List β) (rows : List α) : Option (List β) := do
  let (microBatches, indices) ← prepareMicroBatches mode seqLen rows
  let outputs := microBatches.flatMap forwardStep
  match indices with
  | some indices => restoreDynamicBatch outputs indices
  | none => return outputs

end SearchR1.MicroBatches
