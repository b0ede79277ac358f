import SearchR1.Library.Jagged
import SearchR1.Model.EngineForward
import SearchR1.Verification.Balancing.MicroBatches
import SearchR1.Verification.Engine.Workers
import Mathlib.Algebra.Order.Ring.Rat

/-! # What the workers compute for a response token -/

namespace SearchR1.EngineForward

open MicroBatches WorkerGroup List

variable {K Out β : Type}

/-! ## Causal models -/

/-- The outputs of a causal model for a sequence: that of a position depends on the tokens up to
it. -/
def prefixOutputs (next : List ℕ → Out) (ids : List ℕ) : List Out :=
  (range ids.length).map fun t => next (ids.take (t + 1))

theorem length_prefixOutputs (next : List ℕ → Out) (ids : List ℕ) :
    (prefixOutputs next ids).length = ids.length := by
  rw [prefixOutputs, length_map, length_range]

/-- What the engine relies on of the module: position ids that start over separate the sequences of
a packed batch, a sequence-parallel group computes what one rank would, and padding on the right is
not seen. -/
structure EngineModule.Causal (module : EngineModule Out) (next : List ℕ → Out) : Prop where
  packed_eq : ∀ seqs : List (List ℕ),
    module.packed (seqs.flatMap fun ids => ids.zip (range ids.length)) =
      seqs.flatMap (prefixOutputs next)
  sharded_eq : ∀ (size : ℕ) (shards : List (List (ℕ × ℕ))), (∀ shard ∈ shards, shard.length = size) →
    module.sharded shards = Chunks.chunks size shards.length (module.packed shards.flatten)
  padded_eq : ∀ (width padTokenId : ℕ) (seqs : List (List ℕ)), (∀ ids ∈ seqs, ids.length ≤ width) →
    Forall₂ (fun ids outputs => outputs.take ids.length = prefixOutputs next ids) seqs
      (module.padded (seqs.map fun ids => padRight width (padTokenId, false, 0)
        (ids.zip ((range ids.length).map fun positionId => (true, positionId)))))

/-! ## One micro-batch -/

/-- A row with a token, whose positions are counted from its first token. -/
def Sequence.WellFormed (row : Sequence K) : Prop :=
  row.inputIds ≠ [] ∧ row.positionIds = range row.inputIds.length

theorem zip_flatMap {α γ δ : Type} {f : α → List γ} {g : α → List δ} {l : List α}
    (h : ∀ a ∈ l, (f a).length = (g a).length) :
    (l.flatMap f).zip (l.flatMap g) = l.flatMap fun a => (f a).zip (g a) := by
  induction l with
  | nil => rfl
  | cons a l ih =>
      rw [forall_mem_cons] at h
      rw [flatMap_cons, flatMap_cons, flatMap_cons, zip_append h.1, ih h.2]

/-! ### Shards -/

section Shards

variable (head : K → Out → ℕ → β)

theorem length_headOutputs {temperatures : List K} {outputs : List Out} {labels : List ℕ} {n : ℕ}
    (htemperatures : temperatures.length = n) (houtputs : outputs.length = n)
    (hlabels : labels.length = n) :
    (headOutputs head temperatures outputs labels).length = n := by
  rw [headOutputs, length_zipWith, length_zip, htemperatures, houtputs, hlabels, Nat.min_self,
    Nat.min_self]

theorem headOutputs_append {temperatures temperatures' : List K} {outputs outputs' : List Out}
    {labels labels' : List ℕ} (houtputs : temperatures.length = outputs.length)
    (hlabels : outputs.length = labels.length) :
    headOutputs head (temperatures ++ temperatures') (outputs ++ outputs') (labels ++ labels') =
      headOutputs head temperatures outputs labels ++
        headOutputs head temperatures' outputs' labels' := by
  rw [headOutputs, zip_append houtputs, zipWith_append]
  · rfl
  · rw [length_zip, houtputs, Nat.min_self, hlabels]

theorem headOutputs_replicate (temperature : K) {outputs : List Out} {n : ℕ}
    (h : outputs.length = n) (labels : List ℕ) :
    headOutputs head (replicate n temperature) outputs labels =
      zipWith (head temperature) outputs labels := by
  subst h
  induction outputs generalizing labels with
  | nil => rfl
  | cons output outputs ih =>
      cases labels with
      | nil => rfl
      | cons label labels =>
          rw [zipWith_cons_cons, ← ih]
          rfl

/-- The ranks of a group compute what one rank would: their shards are gathered in order. -/
theorem flatten_headOutputs_shards {temperatures : List K} {outputs : List Out} {labels : List ℕ}
    {spSize n : ℕ} (hdvd : spSize ∣ n) (htemperatures : temperatures.length = n)
    (houtputs : outputs.length = n) (hlabels : labels.length = n) :
    (zipWith (fun (shard : List K × List Out) => headOutputs head shard.1 shard.2)
      ((sliceInputTensor spSize temperatures).zip (sliceInputTensor spSize outputs))
      (sliceInputTensor spSize labels)).flatten = headOutputs head temperatures outputs labels := by
  have hshards : zipWith (fun (shard : List K × List Out) => headOutputs head shard.1 shard.2)
      ((sliceInputTensor spSize temperatures).zip (sliceInputTensor spSize outputs))
      (sliceInputTensor spSize labels) =
        Chunks.chunks (n / spSize) spSize (headOutputs head temperatures outputs labels) := by
    have hzip : Chunks.chunks (n / spSize) spSize (temperatures.zip outputs) =
        zipWith zip (Chunks.chunks (n / spSize) spSize temperatures)
          (Chunks.chunks (n / spSize) spSize outputs) := Jagged.chunks_zipWith Prod.mk ..
    rw [sliceInputTensor, sliceInputTensor, sliceInputTensor, htemperatures, houtputs, hlabels,
      headOutputs, Jagged.chunks_zipWith, hzip]
    simp only [Chunks.chunks, zip, zipWith_map_left, zipWith_map_right, zipWith_self]
    rfl
  rw [hshards, Chunks.flatten_chunks_of_length]
  rw [length_headOutputs head htemperatures houtputs hlabels, Nat.mul_div_cancel' hdvd]

theorem gatherOutputsAndUnpad_eq (paddingSize : ℕ) (shards : List (List β)) :
    gatherOutputsAndUnpad paddingSize shards =
      shards.flatten.take (shards.flatten.length - paddingSize) := by
  by_cases hzero : paddingSize = 0
  · rw [gatherOutputsAndUnpad, if_pos hzero, hzero, Nat.sub_zero, take_length]
  · rw [gatherOutputsAndUnpad, if_neg hzero]

theorem dvd_add_ulyssesPadSize {spSize : ℕ} (hpos : 0 < spSize) (totalSeqLen : ℕ) :
    spSize ∣ totalSeqLen + ulyssesPadSize spSize totalSeqLen := by
  have hlt := Nat.mod_lt totalSeqLen hpos
  have hdiv := Nat.div_add_mod totalSeqLen spSize
  have hsum : totalSeqLen + (spSize - totalSeqLen % spSize) =
      spSize * (totalSeqLen / spSize + 1) := by
    rw [Nat.mul_succ]
    omega
  apply Nat.dvd_of_mod_eq_zero
  rw [ulyssesPadSize, Nat.add_mod_mod, hsum, Nat.mul_mod_right]

end Shards

theorem le_foldl_max (l : List ℕ) (init : ℕ) :
    init ≤ l.foldl max init ∧ ∀ n ∈ l, n ≤ l.foldl max init := by
  induction l generalizing init with
  | nil => exact ⟨le_refl init, fun n hn => absurd hn not_mem_nil⟩
  | cons m l ih =>
      rcases ih (max init m) with ⟨hinit, hl⟩
      rw [foldl_cons, forall_mem_cons]
      exact ⟨(le_max_left init m).trans hinit, (le_max_right init m).trans hinit, hl⟩

variable [One K] {self : EngineModule Out} {next : List ℕ → Out} (hcausal : self.Causal next)
  (head : K → Out → ℕ → β)

/-- The ids, temperatures and outputs of a micro-batch, position by position. -/
def packedValues (next : List ℕ → Out) (microBatch : List (Sequence K)) : List β :=
  headOutputs head
    (microBatch.flatMap fun row => replicate row.inputIds.length row.temperature)
    (microBatch.flatMap fun row => prefixOutputs next row.inputIds)
    ((microBatch.flatMap Sequence.inputIds).rotate 1)

omit [One K] in
theorem flatMap_positionIds {microBatch : List (Sequence K)}
    (hrows : ∀ row ∈ microBatch, row.WellFormed) : microBatch.flatMap Sequence.positionIds =
      microBatch.flatMap fun row => range row.inputIds.length := by
  rw [flatMap_def, flatMap_def]
  congr 1
  exact map_congr_left fun row hrow => (hrows row hrow).2

omit [One K] in
include hcausal in
/-- Padding at the end of a packed batch is one more sequence, whose positions start over. -/
theorem packed_append_padding {microBatch : List (Sequence K)}
    (hrows : ∀ row ∈ microBatch, row.WellFormed) (padSize : ℕ) :
    self.packed ((microBatch.flatMap Sequence.inputIds ++ replicate padSize 0).zip
        (microBatch.flatMap Sequence.positionIds ++ range padSize)) =
      (microBatch.flatMap fun row => prefixOutputs next row.inputIds) ++
        prefixOutputs next (replicate padSize 0) := by
  have hpadded := hcausal.packed_eq (microBatch.map Sequence.inputIds ++ [replicate padSize 0])
  rw [flatMap_append, flatMap_append, flatMap_singleton, flatMap_singleton, length_replicate,
    flatMap_map, flatMap_map] at hpadded
  rw [← hpadded, flatMap_positionIds hrows, zip_append,
    zip_flatMap fun row _ => length_range.symm]
  rw [length_flatMap, length_flatMap]
  simp only [length_range]

omit [One K] in
include hcausal in
/-- Every rank of a group returns its shard of the outputs. -/
theorem sharded_sliceInputTensor {inputs : List (ℕ × ℕ)} {spSize n : ℕ}
    (hlength : inputs.length = n) (hdvd : spSize ∣ n) (houtputs : (self.packed inputs).length = n) :
    self.sharded (sliceInputTensor spSize inputs) =
      sliceInputTensor spSize (self.packed inputs) := by
  have hsize : inputs.length = spSize * (n / spSize) := by rw [hlength, Nat.mul_div_cancel' hdvd]
  rw [sliceInputTensor, sliceInputTensor, hlength, houtputs,
    hcausal.sharded_eq (n / spSize) _ fun shard => Chunks.length_of_mem_chunks hsize,
    Chunks.length_chunks, Chunks.flatten_chunks_of_length hsize]

include hcausal in
/-- Without padding, on any number of sequence-parallel ranks. -/
theorem removePaddingValues_eq (spSize : ℕ) {microBatch : List (Sequence K)}
    (hrows : ∀ row ∈ microBatch, row.WellFormed) :
    removePaddingValues self head spSize microBatch = packedValues head next microBatch := by
  have hpacked := packed_append_padding hcausal hrows
  rw [removePaddingValues]
  by_cases hsp : spSize ≤ 1
  · have hnone := hpacked 0
    rw [replicate_zero, range_zero, append_nil, append_nil, prefixOutputs, length_nil, range_zero,
      map_nil, append_nil] at hnone
    rw [if_pos hsp, hnone, packedValues]
  · have hpos : 0 < spSize := Nat.pos_of_ne_zero fun hzero => hsp (hzero ▸ Nat.zero_le 1)
    have hdvd := dvd_add_ulyssesPadSize hpos (microBatch.flatMap Sequence.inputIds).length
    rw [if_neg hsp, packedValues]
    simp only
    generalize ulyssesPadSize spSize (microBatch.flatMap Sequence.inputIds).length = padSize
      at hdvd ⊢
    have hids : (microBatch.flatMap Sequence.inputIds).length =
        (microBatch.map fun row => row.inputIds.length).sum := length_flatMap
    have htemperatures : (microBatch.flatMap fun row =>
        replicate row.inputIds.length row.temperature).length =
          (microBatch.flatMap Sequence.inputIds).length := by
      rw [hids, length_flatMap]
      simp only [length_replicate]
    have houtputs : (microBatch.flatMap fun row => prefixOutputs next row.inputIds).length =
        (microBatch.flatMap Sequence.inputIds).length := by
      rw [hids, length_flatMap]
      simp only [length_prefixOutputs]
    have hinputs : ((microBatch.flatMap Sequence.inputIds ++ replicate padSize 0).zip
        (microBatch.flatMap Sequence.positionIds ++ range padSize)).length =
          (microBatch.flatMap Sequence.inputIds).length + padSize := by
      have hpositions : (microBatch.flatMap Sequence.positionIds).length =
          (microBatch.flatMap Sequence.inputIds).length := by
        rw [flatMap_positionIds hrows, hids, length_flatMap]
        simp only [length_range]
      rw [length_zip, length_append, length_append, length_replicate, length_range, hpositions,
        Nat.min_self]
    have hsharded := sharded_sliceInputTensor hcausal hinputs hdvd (by
      rw [hpacked padSize, length_append, houtputs, length_prefixOutputs, length_replicate])
    rw [hsharded, hpacked padSize, gatherOutputsAndUnpad_eq,
      flatten_headOutputs_shards head hdvd (by rw [length_append, htemperatures, length_replicate])
        (by rw [length_append, houtputs, length_prefixOutputs, length_replicate])
        (by rw [length_append, length_rotate, length_replicate]),
      headOutputs_append head (htemperatures.trans houtputs.symm)
        (houtputs.trans (length_rotate ..).symm)]
    have hlength := length_headOutputs head htemperatures houtputs
      (length_rotate (l := microBatch.flatMap Sequence.inputIds) 1)
    rw [length_append, hlength, take_left' ?_]
    rw [hlength, length_headOutputs head (length_replicate ..) (by rw [length_prefixOutputs,
      length_replicate]) (length_replicate ..), Nat.add_sub_cancel]

omit [One K] in
include hcausal in
/-- With the rows padded to the longest one. -/
theorem keepPaddingValues_eq (padTokenId : ℕ) {microBatch : List (Sequence K)}
    (hrows : ∀ row ∈ microBatch, row.WellFormed) :
    keepPaddingValues self head padTokenId microBatch = packedValues head next microBatch := by
  have hlongest : ∀ ids ∈ microBatch.map Sequence.inputIds, ids.length ≤
      (microBatch.map fun row => row.inputIds.length).foldl max 0 := by
    intro ids hids
    rcases mem_map.mp hids with ⟨row, hrow, rfl⟩
    exact (le_foldl_max _ 0).2 _ (mem_map_of_mem (f := fun row => row.inputIds.length) hrow)
  have hpadded := hcausal.padded_eq _ padTokenId _ hlongest
  have hinputs : (microBatch.map Sequence.inputIds).map (fun ids =>
      padRight ((microBatch.map fun row => row.inputIds.length).foldl max 0) (padTokenId, false, 0)
        (ids.zip ((range ids.length).map fun positionId => (true, positionId)))) =
      microBatch.map fun row =>
        padRight ((microBatch.map fun row => row.inputIds.length).foldl max 0) (padTokenId, false, 0)
          (row.inputIds.zip (row.positionIds.map fun positionId => (true, positionId))) := by
    rw [map_map]
    apply map_congr_left
    intro row hrow
    rw [Function.comp_apply, (hrows row hrow).2]
  rw [hinputs, forall₂_map_left_iff] at hpadded
  have houtputs := Jagged.map_zipWith_of_forall₂ (p := id)
    (g := fun (row : Sequence K) (outputs : List Out) => outputs.take row.inputIds.length) (fun _ _ h => h) hpadded
  rw [map_id] at houtputs
  rw [keepPaddingValues, packedValues]
  simp only [zipWith_map_left]
  rw [houtputs, ← flatMap_def]

/-- What an engine reads for every token of a row but the first one: the output at the token before
it. -/
def shiftedOutputs (next : List ℕ → Out) (row : Sequence K) : List β :=
  zipWith (head row.temperature) (prefixOutputs next row.inputIds).dropLast row.inputIds.tail

omit [One K] in
/-- All outputs of a row but the last one are its own: the label of the last position is the first
token of the next row. -/
theorem splitLengths_packedValues {microBatch : List (Sequence K)}
    (hrows : ∀ row ∈ microBatch, row.WellFormed) :
    ((microBatch.map fun row => row.inputIds.length).splitLengths
        (packedValues head next microBatch)).map (fun outputs => (outputs.length, outputs.dropLast)) =
      microBatch.map fun row => (row.inputIds.length, shiftedOutputs head next row) := by
  have hrow : ∀ row : Sequence K, ((replicate row.inputIds.length row.temperature).zip
      (prefixOutputs next row.inputIds)).length = row.inputIds.length := by
    intro row
    rw [length_zip, length_replicate, length_prefixOutputs, Nat.min_self]
  have hlabels := Jagged.forall₂_splitLengths_rotate
    (forall_mem_map.mpr fun row hmem => (hrows row hmem).1)
  rw [map_map, ← flatMap_def, forall₂_map_left_iff] at hlabels
  have houtputs : (microBatch.map fun row => row.inputIds.length).splitLengths
      ((microBatch.flatMap fun row => replicate row.inputIds.length row.temperature).zip
        (microBatch.flatMap fun row => prefixOutputs next row.inputIds)) =
      microBatch.map fun row => (replicate row.inputIds.length row.temperature).zip
        (prefixOutputs next row.inputIds) := by
    have hsplit := Jagged.splitLengths_flatten (microBatch.map fun row =>
      (replicate row.inputIds.length row.temperature).zip (prefixOutputs next row.inputIds))
    rw [map_map, ← flatMap_def] at hsplit
    rw [zip_flatMap fun row _ => by rw [length_replicate, length_prefixOutputs], ← hsplit]
    congr 1
    exact map_congr_left fun row _ => (hrow row).symm
  rw [packedValues, headOutputs, Jagged.splitLengths_zipWith, houtputs, zipWith_map_left]
  refine Jagged.map_zipWith_of_forall₂ ?_ hlabels
  intro row labels h
  rw [length_zipWith, hrow, h.1, Nat.min_self, Jagged.dropLast_zipWith _ ((hrow row).trans h.1.symm),
    h.2, zip, Jagged.dropLast_zipWith _ (by rw [length_replicate, length_prefixOutputs]),
    dropLast_replicate]
  exact congrArg _ (headOutputs_replicate head row.temperature (by
    rw [length_dropLast, length_prefixOutputs]) row.inputIds.tail)

include hcausal in
/-- Whatever is packed or padded with it, a row gets its own outputs up to its last position. -/
theorem forwardStep_reads (cfg : EngineConfig) {microBatch : List (Sequence K)}
    (hrows : ∀ row ∈ microBatch, row.WellFormed) :
    (forwardStep self head cfg microBatch).map (fun outputs => (outputs.length, outputs.dropLast)) =
      microBatch.map fun row => (row.inputIds.length, shiftedOutputs head next row) := by
  rw [← splitLengths_packedValues head hrows]
  cases h : cfg.useRemovePadding with
  | true =>
      rw [forwardStep, if_pos h, removePaddingValues_eq hcausal head cfg.mesh.spSize hrows]
  | false =>
      rw [forwardStep, if_neg (by rw [h]; exact Bool.false_ne_true),
        keepPaddingValues_eq hcausal head cfg.padTokenId hrows]

/-! ## All workers -/

/-- Every data-parallel rank can cut its rows into micro-batches. -/
def EngineConfig.Accepts (cfg : EngineConfig) (seqLens : List ℕ) : Prop :=
  cfg.mesh.dpSize ∣ seqLens.length ∧
    ∀ r < cfg.mesh.dpSize, (cfg.microBatching r).Accepts (cfg.mesh.rankRows seqLens r)

include hcausal in
theorem inferBatch_reads (cfg : EngineConfig) {rows : List (Sequence K)}
    (hrows : ∀ row ∈ rows, row.WellFormed)
    (haccept : cfg.Accepts (rows.map fun row => row.inputIds.length)) :
    ∃ outputs, inferBatch self head cfg rows = some outputs ∧
      outputs.map (fun outputs => (outputs.length, outputs.dropLast)) =
        rows.map fun row => (row.inputIds.length, shiftedOutputs head next row) := by
  rcases haccept with ⟨hdvd, haccept⟩
  rw [length_map] at hdvd
  have hrank : ∀ r < cfg.mesh.dpSize, ∃ outputs, forwardBatch (cfg.microBatching r)
      (fun row => row.inputIds.length) (forwardStep self head cfg) (cfg.mesh.rankRows rows r) =
        some outputs ∧ outputs.map (fun outputs => (outputs.length, outputs.dropLast)) =
          (cfg.mesh.rankRows rows r).map fun row =>
            (row.inputIds.length, shiftedOutputs head next row) := by
    intro r hr
    apply forwardBatch_reads
    · intro microBatch hmem
      apply forwardStep_reads hcausal head cfg
      intro row hrow
      exact hrows row (mem_of_mem_drop (mem_of_mem_take (hmem row hrow)))
    · rw [Mesh.map_rankRows]
      exact haccept r hr
  choose! outputs houtputs hread using hrank
  refine ⟨_, call_eq_some cfg.mesh hdvd houtputs, ?_⟩
  calc ((range cfg.mesh.dpSize).flatMap outputs).map _
      = (range cfg.mesh.dpSize).flatMap fun r => (cfg.mesh.rankRows rows r).map fun row =>
          (row.inputIds.length, shiftedOutputs head next row) := by
        rw [map_flatMap, flatMap_def, flatMap_def]
        congr 1
        exact map_congr_left fun r hr => hread r (mem_range.mp hr)
    _ = rows.map fun row => (row.inputIds.length, shiftedOutputs head next row) := by
        rw [← map_flatMap, flatMap_rankRows cfg.mesh hdvd]

/-- When a rank cannot cut its rows, the call raises. -/
theorem inferBatch_eq_none (cfg : EngineConfig) {rows : List (Sequence K)}
    (h : ¬ cfg.Accepts (rows.map fun row => row.inputIds.length)) :
    inferBatch self head cfg rows = none := by
  apply call_eq_none
  intro hdvd
  by_contra hranks
  apply h
  refine ⟨by rwa [length_map], ?_⟩
  intro r hr
  by_contra hreject
  rw [← Mesh.map_rankRows] at hreject
  exact hranks ⟨r, hr, forwardBatch_eq_none _ _ _ hreject⟩

end SearchR1.EngineForward
