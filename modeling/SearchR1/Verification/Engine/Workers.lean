import SearchR1.Model.WorkerGroup
import SearchR1.Library.Monadic

/-! # What a worker group returns -/

namespace SearchR1.WorkerGroup

open List

variable {α β : Type} (mesh : Mesh)

theorem mapM_map_eq_some {γ : Type} {f : ℕ → γ} {g : γ → Option β} {h : ℕ → β} {l : List ℕ}
    (hg : ∀ a ∈ l, g (f a) = some (h a)) : (l.map f).mapM g = some (l.map h) := by
  rw [PyLoop.mapM_some_iff, forall₂_map_left_iff, forall₂_map_right_iff, forall₂_same]
  exact hg

/-! ## Dispatch -/

theorem mem_dpRankMapping {r : ℕ} : r ∈ mesh.dpRankMapping ↔ r < mesh.dpSize := by
  rw [Mesh.dpRankMapping, mem_map]
  constructor
  · intro h
    rcases h with ⟨rank, hrank, rfl⟩
    exact Nat.div_lt_of_lt_mul (by rw [Nat.mul_comm]; exact mem_range.mp hrank)
  · intro h
    refine ⟨r * mesh.spSize, mem_range.mpr ?_, Nat.mul_div_cancel r mesh.spSize_pos⟩
    exact Nat.mul_lt_mul_of_pos_right h mesh.spSize_pos

theorem max_dpRankMapping : mesh.dpRankMapping.max? = some (mesh.dpSize - 1) := by
  rw [max?_eq_some_iff]
  constructor
  · rw [mem_dpRankMapping]
    exact Nat.sub_lt mesh.dpSize_pos Nat.one_pos
  · intro r hr
    exact Nat.le_sub_one_of_lt ((mem_dpRankMapping mesh).mp hr)

/-- The rows of a data-parallel rank. -/
def Mesh.rankRows (data : List α) (dpRank : ℕ) : List α :=
  (data.drop (dpRank * (data.length / mesh.dpSize))).take (data.length / mesh.dpSize)

theorem Mesh.map_rankRows (f : α → β) (data : List α) (dpRank : ℕ) :
    (mesh.rankRows data dpRank).map f = mesh.rankRows (data.map f) dpRank := by
  rw [Mesh.rankRows, Mesh.rankRows, map_take, map_drop, length_map]

/-- Together the ranks have all rows. -/
theorem flatMap_rankRows {data : List α} (hdvd : mesh.dpSize ∣ data.length) :
    (range mesh.dpSize).flatMap (mesh.rankRows data) = data := by
  rw [flatMap_def]
  exact Chunks.flatten_chunks_of_length (Nat.mul_div_cancel' hdvd).symm

/-- Every worker gets the rows of its data-parallel rank. -/
theorem dispatchLazyComputeDataProto_eq {data : List α} (hdvd : mesh.dpSize ∣ data.length) :
    dispatchLazyComputeDataProto mesh.dpRankMapping data =
      some (mesh.dpRankMapping.map (mesh.rankRows data)) := by
  have haccept : ¬ (mesh.dpSize = 0 ∨ data.length % mesh.dpSize ≠ 0) := by
    rw [not_or, not_not]
    exact ⟨(Nat.ne_of_gt mesh.dpSize_pos), Nat.mod_eq_zero_of_dvd hdvd⟩
  have hchunk : ∀ r ∈ mesh.dpRankMapping,
      (Chunks.chunks (data.length / mesh.dpSize) mesh.dpSize data)[r]? =
        some (mesh.rankRows data r) := by
    intro r hr
    rw [mem_dpRankMapping] at hr
    rw [Chunks.chunks, getElem?_map, getElem?_range hr]
    rfl
  rw [dispatchLazyComputeDataProto, max_dpRankMapping, Option.bind_some,
    Nat.sub_add_cancel mesh.dpSize_pos, chunkTensordict, if_neg haccept, Option.bind_some,
    dispatchNdCompute, if_pos (Chunks.length_chunks ..),
    PyLoop.mapM_some_iff, forall₂_map_right_iff, forall₂_same]
  exact hchunk

theorem dispatchLazyComputeDataProto_eq_none {data : List α} (hdvd : ¬ mesh.dpSize ∣ data.length) :
    dispatchLazyComputeDataProto mesh.dpRankMapping data = none := by
  have hreject : mesh.dpSize = 0 ∨ data.length % mesh.dpSize ≠ 0 :=
    Or.inr fun hmod => hdvd (Nat.dvd_of_mod_eq_zero hmod)
  rw [dispatchLazyComputeDataProto, max_dpRankMapping, Option.bind_some,
    Nat.sub_add_cancel mesh.dpSize_pos, chunkTensordict, if_pos hreject, Option.bind_none]

theorem zipIdx_rankRows (data : List α) :
    (mesh.dpRankMapping.map (mesh.rankRows data)).zipIdx =
      (range mesh.worldSize).map fun rank =>
        (mesh.rankRows data (mesh.dataParallelRank rank), rank) := by
  apply ext_getElem
  · simp [Mesh.dpRankMapping]
  · intro i hi hi'
    simp [Mesh.dpRankMapping]

/-! ## Collection -/

/-- The workers whose outputs are collected are the first ones of the sequence-parallel groups. -/
theorem filter_isMpSrcRankWithOutputs :
    (range mesh.worldSize).filter mesh.isMpSrcRankWithOutputs =
      (range mesh.dpSize).map (· * mesh.spSize) := by
  have hgroup : ∀ r, ((range mesh.spSize).map (r * mesh.spSize + ·)).filter
      mesh.isMpSrcRankWithOutputs = [r * mesh.spSize] := by
    intro r
    have hrank : ∀ i ∈ range mesh.spSize,
        mesh.isMpSrcRankWithOutputs (r * mesh.spSize + i) = decide (i = 0) := by
      intro i hi
      rw [Mesh.isMpSrcRankWithOutputs, Nat.mul_add_mod', Nat.mod_eq_of_lt (mem_range.mp hi)]
    have hfirst : (range mesh.spSize).filter (fun i => decide (i = 0)) = [0] := by
      rcases Nat.exists_eq_succ_of_ne_zero (Nat.ne_of_gt mesh.spSize_pos) with ⟨rest, hrest⟩
      rw [hrest, range_succ_eq_map]
      simp
    have hcongr : (range mesh.spSize).filter
        (mesh.isMpSrcRankWithOutputs ∘ (r * mesh.spSize + ·)) = [0] := by
      rw [← hfirst]
      exact filter_congr hrank
    rw [filter_map, hcongr]
    rfl
  rw [Mesh.worldSize]
  generalize mesh.dpSize = groups
  induction groups with
  | zero => rw [Nat.zero_mul]; rfl
  | succ groups ih =>
      rw [Nat.succ_mul, range_add, filter_append, ih, hgroup, range_succ, map_append]
      rfl

theorem select_map_range (p : ℕ → Bool) (f : ℕ → β) (l : List ℕ) :
    Masked.select id (l.map p) (l.map f) = (l.filter p).map f := by
  induction l with
  | nil => rfl
  | cons a l ih =>
      rw [map_cons, map_cons]
      cases h : p a with
      | true => rw [Masked.select_cons_of_pos id rfl, ih, filter_cons_of_pos h, map_cons]
      | false =>
          rw [Masked.select_cons_of_neg id rfl, ih,
            filter_cons_of_neg (by rw [h]; exact Bool.false_ne_true)]

/-! ## Calls -/

/-- A call returns what the data-parallel ranks return for their rows, rank by rank. -/
theorem call_eq_some {worker : ℕ → List α → Option (List β)} {data : List α}
    {outputs : ℕ → List β} (hdvd : mesh.dpSize ∣ data.length)
    (hworker : ∀ r < mesh.dpSize, worker r (mesh.rankRows data r) = some (outputs r)) :
    mesh.call worker data = some ((range mesh.dpSize).flatMap outputs) := by
  let returned (rank : ℕ) : Option (List β) :=
    if mesh.isMpSrcRankWithOutputs rank then some (outputs (mesh.dataParallelRank rank)) else none
  have houtput : (mesh.dpRankMapping.map (mesh.rankRows data)).zipIdx.mapM
      (fun arg => (worker (mesh.dataParallelRank arg.2) arg.1).map fun rows =>
        if mesh.isMpSrcRankWithOutputs arg.2 then some rows else none) =
      some ((range mesh.worldSize).map returned) := by
    rw [zipIdx_rankRows]
    apply mapM_map_eq_some
    intro rank hrank
    have hlt : mesh.dataParallelRank rank < mesh.dpSize :=
      (mem_dpRankMapping mesh).mp (mem_map_of_mem hrank)
    rw [hworker _ hlt]
    rfl
  have hcollect : collectNdCompute mesh.collectMask ((range mesh.worldSize).map returned) =
      some ((range mesh.dpSize).map fun r => some (outputs r)) := by
    have hreturned : ∀ r, returned (r * mesh.spSize) = some (outputs r) := by
      intro r
      have hsrc : mesh.isMpSrcRankWithOutputs (r * mesh.spSize) = true := by
        rw [Mesh.isMpSrcRankWithOutputs, Nat.mul_mod_left]
        rfl
      rw [show returned (r * mesh.spSize) = _ from if_pos hsrc, Mesh.dataParallelRank,
        Nat.mul_div_cancel r mesh.spSize_pos]
    rw [collectNdCompute, if_pos (by simp [Mesh.collectMask]), Mesh.collectMask,
      select_map_range, filter_isMpSrcRankWithOutputs, map_map]
    congr 1
    apply map_congr_left
    intro r _
    exact hreturned r
  have hne : (range mesh.dpSize).map (fun r => some (outputs r)) ≠ [] := by
    intro h
    have hzero := congrArg length h
    rw [length_map, length_range] at hzero
    exact (Nat.ne_of_gt mesh.dpSize_pos) hzero
  have hrows : ((range mesh.dpSize).map fun r => some (outputs r)).mapM id =
      some ((range mesh.dpSize).map outputs) := mapM_map_eq_some fun _ _ => rfl
  simp only [Mesh.call, dispatchLazyComputeDataProto_eq mesh hdvd, houtput, hcollect,
    Option.bind_eq_bind, Option.bind_some]
  rw [concat, if_neg hne, hrows, Option.map_some, flatMap_def]

/-- A call raises when the rows cannot be divided among the ranks or a rank raises. -/
theorem call_eq_none {worker : ℕ → List α → Option (List β)} {data : List α}
    (h : mesh.dpSize ∣ data.length → ∃ r < mesh.dpSize, worker r (mesh.rankRows data r) = none) :
    mesh.call worker data = none := by
  by_cases hdvd : mesh.dpSize ∣ data.length
  · rcases h hdvd with ⟨r, hr, hraise⟩
    have hrank : r * mesh.spSize ∈ range mesh.worldSize :=
      mem_range.mpr (Nat.mul_lt_mul_of_pos_right hr mesh.spSize_pos)
    have houtput : (mesh.dpRankMapping.map (mesh.rankRows data)).zipIdx.mapM
        (fun arg => (worker (mesh.dataParallelRank arg.2) arg.1).map fun rows =>
          if mesh.isMpSrcRankWithOutputs arg.2 then some rows else none) = none := by
      rw [zipIdx_rankRows, Option.eq_none_iff_forall_ne_some]
      intro output heq
      rw [PyLoop.mapM_some_iff, forall₂_map_left_iff] at heq
      rcases PyLoop.exists_of_forall₂ heq.flip hrank with ⟨rows, _, hrows⟩
      simp only [Mesh.dataParallelRank, Nat.mul_div_cancel r mesh.spSize_pos, hraise] at hrows
      cases hrows
    simp only [Mesh.call, dispatchLazyComputeDataProto_eq mesh hdvd, houtput,
      Option.bind_eq_bind, Option.bind_some, Option.bind_none]
  · rw [Mesh.call, dispatchLazyComputeDataProto_eq_none mesh hdvd]
    rfl

end SearchR1.WorkerGroup
