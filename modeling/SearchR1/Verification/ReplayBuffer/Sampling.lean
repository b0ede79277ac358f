import SearchR1.Library.Monadic
import SearchR1.Verification.Balancing.Partitions
import SearchR1.Verification.ReplayBuffer.Store

/-! # Sampling and balancing -/

namespace SearchR1.ReplayBuffer

open PyText List

variable {tq : TransferQueue} {cfg : SamplerConfig} {globalSteps : ℤ}

/-! ## What is dropped -/

/-- Both parts of a batch, and what the strategy says of each. -/
structure DropSpec (cfg : SamplerConfig) (globalSteps : ℤ) (batch kept dropped : List (Text × Tag)) :
    Prop where
  perm : kept ++ dropped ~ batch
  wait : cfg.maxOffPolicyStrategy = .wait → dropped = []
  kept : cfg.maxOffPolicyStrategy = .drop → ∀ item ∈ kept, ∃ steps,
    item.2.globalSteps = some steps ∧ staleness globalSteps steps ≤ cfg.maxOffPolicyThreshold
  dropped : ∀ item ∈ dropped, ∃ steps,
    item.2.globalSteps = some steps ∧ cfg.maxOffPolicyThreshold < staleness globalSteps steps

theorem dropSpec_of_some {batch kept dropped : List (Text × Tag)} {metrics : Option DropMetrics}
    (h : dropMaxOffPolicySamples cfg globalSteps batch = some (kept, dropped, metrics)) :
    DropSpec cfg globalSteps batch kept dropped := by
  rw [dropMaxOffPolicySamples] at h
  split at h
  · rename_i hstrategy
    rcases Option.map_eq_some_iff.mp h with ⟨steps, hsteps, he⟩
    rcases he with ⟨⟩
    have hforall := PyLoop.mapM_some_iff.mp hsteps
    have hzip : ∀ e ∈ batch.zip steps, e.1.2.globalSteps = some e.2 := fun e he =>
      forall₂_zip hforall he
    refine ⟨?_, ?_, ?_, ?_⟩
    · rw [← map_append]
      have hfst : (batch.zip steps).map Prod.fst = batch :=
        map_fst_zip (Nat.le_of_eq hforall.length_eq)
      conv_rhs => rw [← hfst]
      apply Perm.map
      exact perm_append_comm.trans (filter_append_perm _ _)
    · intro hwait
      rw [hwait] at hstrategy
      cases hstrategy
    · intro _ item hitem
      rcases mem_map.mp hitem with ⟨e, he, rfl⟩
      rcases mem_filter.mp he with ⟨he, hfresh⟩
      exact ⟨e.2, hzip e he, by simpa using hfresh⟩
    · intro item hitem
      rcases mem_map.mp hitem with ⟨e, he, rfl⟩
      rcases mem_filter.mp he with ⟨he, hstale⟩
      exact ⟨e.2, hzip e he, by simpa using hstale⟩
  · rename_i hstrategy
    cases h
    refine ⟨by simp, fun _ => rfl, fun hdrop => absurd hdrop hstrategy, ?_⟩
    intro item hitem
    cases hitem

/-! ## What is selected -/

theorem sampleableKeys_perm (m : Metadata) (order : List Text) : sampleableKeys m order ~ order :=
  perm_insertionSort _ order

theorem sampleableKeys_pairwise (m : Metadata) (order : List Text) :
    (sampleableKeys m order).Pairwise fun uid uid' => m.stepOf uid ≤ m.stepOf uid' := by
  have : Std.Total fun uid uid' : Text => m.stepOf uid ≤ m.stepOf uid' :=
    ⟨fun _ _ => le_total _ _⟩
  have : IsTrans Text fun uid uid' => m.stepOf uid ≤ m.stepOf uid' :=
    ⟨fun _ _ _ => le_trans⟩
  exact pairwise_insertionSort _ order

theorem selectUids_subset (m : Metadata) (order : List Text) (size : ℕ) :
    selectUids m order size ⊆ order := fun _ huid =>
  (sampleableKeys_perm m order).subset (mem_of_mem_take huid)

theorem nodup_selectUids (m : Metadata) {order : List Text} (h : order.Nodup) (size : ℕ) :
    (selectUids m order size).Nodup :=
  ((sampleableKeys_perm m order).nodup_iff.mpr h).sublist (take_sublist _ _)

theorem length_selectUids (m : Metadata) {order : List Text} {size : ℕ} (h : size ≤ order.length) :
    (selectUids m order size).length = size := by
  rw [selectUids, length_take, (sampleableKeys_perm m order).length_eq, Nat.min_eq_left h]

/-! ## The sample -/

/-- All trajectories that a sample takes out of the buffer. -/
def Sample.items (sample : Sample) : List (Text × Tag) := sample.kept ++ sample.dropped

/-- What a sample is and what the store is after it. -/
structure TakeSpec (cfg : SamplerConfig) (tq : TransferQueue) (store : tq.Store) (m : Metadata)
    (order : List Text) (globalSteps : ℤ) (size : ℕ) (sample : Sample) (store' : tq.Store) :
    Prop where
  globalSteps_eq : sample.globalSteps = globalSteps
  selected : sample.selected = selectUids m order size
  drop : DropSpec cfg globalSteps (selectedItems m sample.selected) sample.kept sample.dropped
  tag? : ∀ key, tq.tag? store' key =
    if key ∈ sample.selected ∨ key ∈ sample.dropped.map Prod.fst then none else tq.tag? store key
  val : ∀ key, (tq.kvList store' .val).get? key = (tq.kvList store .val).get? key

theorem takeSpec_of_some {store store' : tq.Store} {m : Metadata} {order : List Text} {size : ℕ}
    {sample : Sample}
    (h : takeSample cfg tq store .train m order globalSteps size = some (sample, store')) :
    TakeSpec cfg tq store m order globalSteps size sample store' := by
  rcases Option.map_eq_some_iff.mp h with ⟨⟨kept, dropped, metrics⟩, hdrop, he⟩
  rcases he with ⟨⟩
  refine ⟨rfl, rfl, dropSpec_of_some hdrop, ?_, ?_⟩
  · intro key
    by_cases hempty : dropped = []
    · subst hempty
      rw [if_pos rfl, tag?_kvClear]
      simp
    · rw [if_neg hempty, tag?_kvClear, tag?_kvClear]
      by_cases hkey : key ∈ dropped.map Prod.fst
      · rw [if_pos hkey, if_pos (.inr hkey)]
      · rw [if_neg hkey]
        simp only [hkey, or_false]
  · intro key
    by_cases hempty : dropped = []
    · rw [if_pos hempty, tq.kvList_kvClear]
      simp
    · rw [if_neg hempty, tq.kvList_kvClear, tq.kvList_kvClear]
      simp

theorem TakeSpec.mem_items {store store' : tq.Store} {m : Metadata} {order : List Text} {size : ℕ}
    {sample : Sample} (h : TakeSpec cfg tq store m order globalSteps size sample store')
    {item : Text × Tag} : item ∈ sample.items ↔
      item ∈ m.partition ∧ uidOfKey item.1 ∈ sample.selected := by
  rw [Sample.items, h.drop.perm.mem_iff, selectedItems, mem_filter, contains_iff_mem]

/-! ## Balancing -/

/-- The balanced order is an order of the batch. -/
theorem balancedOrder_perm {dpSize : ℕ} {batch ordered : List (Text × Tag)}
    (h : balancedOrder dpSize batch = some ordered) : ordered ~ batch := by
  rcases Option.bind_eq_some_iff.mp h with ⟨seqlens, -, h⟩
  rcases Option.map_eq_some_iff.mp h with ⟨partitions, hpartitions, rfl⟩
  have hspec := (KarmarkarKarp.partitionSpec_of_getSeqlenBalancedPartitions hpartitions
    (KarmarkarKarp.startBound_sum _ true)).2.1
  have hmap := hspec.perm.map batch.get
  rwa [← ofFn_eq_map, ofFn_get] at hmap

end SearchR1.ReplayBuffer
