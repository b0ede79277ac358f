import SearchR1.Library.HeapLoop
import SearchR1.Model.SeqlenBalancing
import Mathlib.Data.List.Lex
import Mathlib.Data.Prod.Lex

/-! # Balanced partitions of sequence lengths -/

namespace SearchR1.KarmarkarKarp

open SeqlenBalancing

variable {m : ℕ}

/-- `Set`: the items, `(idx, val)`, in the order they came, and the sum of their values. -/
structure ItemSet (m : ℕ) where
  items : List (Fin m × ℕ)
  sum : ℕ
  sum_eq : sum = (items.map Prod.snd).sum
  deriving DecidableEq

namespace ItemSet

def empty : ItemSet m := ⟨[], 0, rfl⟩

/-- `add`. -/
def add (s : ItemSet m) (idx : Fin m) (val : ℕ) : ItemSet m where
  items := s.items ++ [(idx, val)]
  sum := s.sum + val
  sum_eq := by simp [s.sum_eq]

/-- `merge`. -/
def merge (s other : ItemSet m) : ItemSet m where
  items := s.items ++ other.items
  sum := s.sum + other.sum
  sum_eq := by simp [s.sum_eq, other.sum_eq]

/-- What `__lt__` compares: the sums, then the numbers of items, then the items. -/
def key (s : ItemSet m) : ℕ ×ₗ ℕ ×ₗ List (Fin m ×ₗ ℕ) :=
  toLex (s.sum, toLex (s.items.length, s.items.map toLex))

end ItemSet

/-- `State`: `k` sets, in decreasing order. -/
structure State (m : ℕ) where
  sets : List (ItemSet m)
  deriving DecidableEq

namespace State

/-- `sorted(sets, reverse=True)`. -/
def sortSets (sets : List (ItemSet m)) : List (ItemSet m) :=
  sets.insertionSort fun s t => t.key ≤ s.key

/-- `State.__init__`: the `i`-th item goes to the `i`-th of `k` sets. -/
def ofItems (items : List (Fin m × ℕ)) (k : ℕ) : State m :=
  ⟨sortSets ((List.range k).map fun i =>
    match items[i]? with
    | some (idx, seqlen) => ItemSet.empty.add idx seqlen
    | none => ItemSet.empty)⟩

/-- `merge`: the largest set takes the smallest one of the other state. -/
def merge (s other : State m) : State m :=
  ⟨sortSets (List.zipWith ItemSet.merge s.sets other.sets.reverse)⟩

def largest (s : State m) : ItemSet m := s.sets.headD ItemSet.empty

/-- `spread`. -/
def spread (s : State m) : ℕ := s.largest.sum - (s.sets.getLastD ItemSet.empty).sum

/-- What `__lt__` compares: the larger spread comes first, then the larger first set. -/
def key (s : State m) : ℕᵒᵈ ×ₗ (ℕ ×ₗ ℕ ×ₗ List (Fin m ×ₗ ℕ))ᵒᵈ :=
  toLex (OrderDual.toDual s.spread, OrderDual.toDual s.largest.key)

/-- `get_partitions`. -/
def getPartitions (s : State m) : List (List (Fin m)) :=
  s.sets.map fun set => set.items.map Prod.fst

end State

/-- `sorted_seqlen_list`, with the value after the index. -/
def sortedItems (seqlenList : Fin m → ℕ) : List (Fin m × ℕ) :=
  ((List.finRange m).insertionSort fun i j =>
    seqlenList i < seqlenList j ∨ seqlenList i = seqlenList j ∧ i ≤ j).map fun i =>
      (i, seqlenList i)

/-- The states that are pushed first: `k_partitions` consecutive items each, or one item each. -/
def initialStates (seqlenList : Fin m → ℕ) (kPartitions : ℕ) (equalSize : Bool) :
    List (State m) :=
  let items := sortedItems seqlenList
  if equalSize then
    (List.range (m / kPartitions)).map fun c =>
      State.ofItems ((items.drop (c * kPartitions)).take kPartitions) kPartitions
  else items.map fun item => State.ofItems [item] kPartitions

/-- `while len(states_pq) > 1`, as many rounds as it takes. -/
def mergeAll (states : List (State m)) : List (State m) :=
  HeapLoop.loop State.key State.merge states.length states

/-- `karmarkar_karp`; `none` when it raises, for no partitions, for no items or on an assertion. -/
def karmarkarKarp (seqlenList : Fin m → ℕ) (kPartitions : ℕ) (equalSize : Bool) :
    Option (List (List (Fin m))) :=
  if kPartitions = 0 ∨ (equalSize ∧ m % kPartitions ≠ 0) then none
  else
    match mergeAll (initialStates seqlenList kPartitions equalSize) with
    | [] => none
    | finalState :: _ =>
        let partitions := finalState.getPartitions
        if equalSize ∧ ∃ partition ∈ partitions, partition.length * kPartitions ≠ m then none
        else some partitions

/-- `_check_and_sort_partitions`. -/
def checkAndSortPartitions (kPartitions : ℕ) (partitions : List (List (Fin m))) :
    Option (List (List (Fin m))) :=
  if partitions.length = kPartitions ∧ (∀ partition ∈ partitions, 0 < partition.length) ∧
      partitions.flatten.toFinset = Finset.univ then
    some (partitions.map fun partition => partition.insertionSort (· ≤ ·))
  else none

/-- `get_seqlen_balanced_partitions`. -/
def getSeqlenBalancedPartitions (seqlenList : Fin m → ℕ) (kPartitions : ℕ) (equalSize : Bool) :
    Option (List (List (Fin m))) :=
  if kPartitions ≤ m then
    (karmarkarKarp seqlenList kPartitions equalSize).bind (checkAndSortPartitions kPartitions)
  else none

/-- `karmarkar_karp` with `equal_size`, as the balancing of a batch calls it. -/
def partitioner : Partitioner := fun _ seqlenList kPartitions =>
  (karmarkarKarp seqlenList kPartitions true).getD []

/-- The sum of the lengths of a partition. -/
def load (seqlenList : Fin m → ℕ) (partition : List (Fin m)) : ℕ := (partition.map seqlenList).sum

end SearchR1.KarmarkarKarp
