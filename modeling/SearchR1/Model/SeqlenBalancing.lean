import SearchR1.Model.RayTrainer
import Mathlib.Data.List.SplitBy

/-! # Balancing a batch over the data parallel ranks -/

namespace SearchR1.SeqlenBalancing

/-- `calculate_workload`. -/
def calculateWorkload (seqlen : ℕ) : ℕ := 24576 * seqlen + seqlen ^ 2

/-- `karmarkar_karp` with `equal_size`: workloads and a number of partitions to partitions. -/
abbrev Partitioner := ∀ m : ℕ, (Fin m → ℕ) → ℕ → List (List (Fin m))

/-- The assertions on the partitions of `m` items: in `karmarkar_karp` on their sizes, in
`_check_and_sort_partitions` on their number and on the items they hold. -/
def CheckPartitions {m : ℕ} (kPartitions : ℕ) (partitions : List (List (Fin m))) : Prop :=
  (0 < kPartitions ∧ kPartitions ≤ m ∧ m % kPartitions = 0) ∧
  (∀ partition ∈ partitions, partition.length * kPartitions = m) ∧
  partitions.length = kPartitions ∧
  (∀ partition ∈ partitions, 0 < partition.length) ∧
  partitions.flatten.toFinset = Finset.univ

instance decidableCheckPartitions {m : ℕ} (kPartitions : ℕ) (partitions : List (List (Fin m))) :
    Decidable (CheckPartitions kPartitions partitions) :=
  inferInstanceAs (Decidable (_ ∧ _))

/-- `get_seqlen_balanced_partitions` with `equal_size`; `none` when an assertion fails. -/
def getSeqlenBalancedPartitions (karmarkarKarp : Partitioner) {m : ℕ} (seqlenList : Fin m → ℕ)
    (kPartitions : ℕ) : Option (List (List (Fin m))) :=
  let partitions := karmarkarKarp m seqlenList kPartitions
  if CheckPartitions kPartitions partitions then
    some (partitions.map fun partition => partition.insertionSort (· ≤ ·))
  else none

/-- `get_group_balanced_partitions`: whole runs of equal uids are assigned. -/
def getGroupBalancedPartitions {U : Type*} [DecidableEq U] (karmarkarKarp : Partitioner) {n : ℕ}
    (seqlenList : Fin n → ℕ) (uidList : Fin n → U) (kPartitions : ℕ) :
    Option (List (List (Fin n))) :=
  let groups := (List.finRange n).splitBy fun i j => uidList i = uidList j
  let groupWorkloads (g : Fin groups.length) :=
    ((groups.get g).map fun i => calculateWorkload (seqlenList i)).sum
  if kPartitions ≤ groups.length then
    (getSeqlenBalancedPartitions karmarkarKarp groupWorkloads kPartitions).map fun partitions =>
      partitions.map fun partition => (partition.flatMap groups.get).insertionSort (· ≤ ·)
  else none

/-- `partition[::2]`. -/
def everyOther {α : Type*} : List α → List α
  | [] => []
  | [x] => [x]
  | x :: _ :: xs => x :: everyOther xs

/-- The smaller loads of a partition go to both ends. -/
def orderPartition {n : ℕ} (workloadLst : Fin n → ℕ) (partition : List (Fin n)) : List (Fin n) :=
  let sorted := partition.insertionSort fun i j =>
    workloadLst i < workloadLst j ∨ workloadLst i = workloadLst j ∧ i ≤ j
  everyOther sorted ++ (everyOther sorted.tail).reverse

end SearchR1.SeqlenBalancing

namespace SearchR1.RayTrainer

open SeqlenBalancing

variable {U K : Type*} {n P L : ℕ}

/-- The lengths of prompt and response together. -/
def globalSeqlenLst (batch : Batch U n P L) (i : Fin n) : ℕ :=
  (Finset.univ.filter fun t => batch.attentionMask i t).card

/-- The `global_idx` of `_balance_batch`; `none` when it raises. -/
def balanceBatch [DecidableEq U] (karmarkarKarp : Partitioner) (usePrefixGrouper : Bool)
    (dpSize : ℕ) (batch : Batch U n P L) : Option (List (Fin n)) :=
  let seqlens := globalSeqlenLst batch
  let workloadLst i := calculateWorkload (seqlens i)
  if usePrefixGrouper then
    let numGroups := (Finset.univ.image batch.uid).card
    if numGroups % dpSize ≠ 0 then none
    else (getGroupBalancedPartitions karmarkarKarp seqlens batch.uid dpSize).map List.flatten
  else
    (getSeqlenBalancedPartitions karmarkarKarp workloadLst dpSize).map fun partitions =>
      (partitions.map (orderPartition workloadLst)).flatten

/-- `reorder`: row `i` becomes row `indices i` of the batch as it was. -/
def Batch.reorder (batch : Batch U n P L) (indices : Fin n → Fin n) : Batch U n P L where
  uid := batch.uid ∘ indices
  attentionMask := batch.attentionMask ∘ indices
  responseMask := batch.responseMask ∘ indices
  searchTimeout := batch.searchTimeout.map (· ∘ indices)
  searchExceptionType := batch.searchExceptionType.map (· ∘ indices)
  searchResponseTruncated := batch.searchResponseTruncated.map (· ∘ indices)
  numSearchCalls := batch.numSearchCalls.map (· ∘ indices)
  hasFinalAnswer := batch.hasFinalAnswer.map (· ∘ indices)
  answerEm := batch.answerEm.map (· ∘ indices)

/-- What the later steps compute row by row moves with the rows. -/
def StepConfig.reorder [Zero K] [LE K] (cfg : StepConfig K n L) (indices : Fin n → Fin n) :
    StepConfig K n L :=
  { cfg with
    klPenalty := cfg.klPenalty.map fun penalty => (penalty.1, penalty.2 ∘ indices)
    rejection := cfg.rejection.map (· ∘ indices) }

end SearchR1.RayTrainer
