import Mathlib.Algebra.Order.Field.Basic
import Mathlib.Data.List.SplitLengths
import SearchR1.Model.MicroBatches
import SearchR1.Model.WorkerGroup

/-! # Passes of a model over a batch -/

namespace SearchR1.EngineForward

open MicroBatches WorkerGroup

variable {K Out β : Type}

/-! ## Padded and nested rows -/

/-- A row of the trainer's batch: a prompt of padded width, then a response of padded width. -/
structure PaddedRow (K : Type) (promptWidth responseWidth : ℕ) where
  inputIds : List ℕ
  attentionMask : List Bool
  temperature : K
  length_inputIds : inputIds.length = promptWidth + responseWidth
  length_attentionMask : attentionMask.length = promptWidth + responseWidth

/-- A row without padding. -/
structure Sequence (K : Type) where
  inputIds : List ℕ
  positionIds : List ℕ
  temperature : K
deriving DecidableEq

/-- `torch.cumsum`. -/
def cumsum (l : List ℕ) : List ℕ := (l.scanl (· + ·) 0).tail

def computePositionIdWithMask (mask : List Bool) : List ℕ :=
  (cumsum (mask.map Bool.toNat)).map (· - 1)

variable {promptWidth responseWidth : ℕ}

/-- `left_right_2_no_padding`, with `unpad_input` over the whole batch. -/
def leftRight2NoPadding (batch : List (PaddedRow K promptWidth responseWidth)) :
    List (Sequence K) :=
  let inputIdsRmpad := Masked.select id (batch.flatMap PaddedRow.attentionMask)
    (batch.flatMap PaddedRow.inputIds)
  let seqLens := batch.map fun row => row.attentionMask.count true
  let inputIdsNested := seqLens.splitLengths inputIdsRmpad
  List.zipWith (fun row inputIds =>
    ⟨inputIds, Masked.select id row.attentionMask (computePositionIdWithMask row.attentionMask),
      row.temperature⟩) batch inputIdsNested

/-- `F.pad` on the right. -/
def padRight (width : ℕ) (pad : β) (l : List β) : List β := l ++ List.replicate (width - l.length) pad

/-- `values[seq_offset - resp_len - 1 : seq_offset - 1]`. -/
def shiftedSlice (values : List β) (respLen seqOffset : ℕ) : List β :=
  (values.take (seqOffset - 1)).drop (seqOffset - respLen - 1)

/-- `no_padding_2_padding` of the values of a nested tensor; `none` when an assertion fails. -/
def noPadding2Padding [Zero β] (promptLens responseLens : List ℕ) (maxResponseLen : ℕ)
    (values : List β) : Option (List (List β)) :=
  let sequenceOffsets := cumsum (List.zipWith (· + ·) promptLens responseLens)
  if sequenceOffsets.getLast? = some values.length ∧ 0 ∉ promptLens then
    some (List.zipWith (fun respLen seqOffset =>
      padRight maxResponseLen 0 (shiftedSlice values respLen seqOffset)) responseLens sequenceOffsets)
  else none

/-- `response_from_nested`. -/
def responseFromNested (responseLens : List ℕ) (tensor : List (List β)) : List (List β) :=
  List.zipWith (shiftedSlice tensor.flatten) responseLens (cumsum (tensor.map List.length))

/-! ## The engine -/

/-- `self.module`: what it returns for every position of its input. -/
structure EngineModule (Out : Type) where
  /-- Token and position ids of shape `(1, total_nnz)`, without an attention mask. -/
  packed : List (ℕ × ℕ) → List Out
  /-- The same ids, a shard on every rank of a sequence-parallel group. -/
  sharded : List (List (ℕ × ℕ)) → List (List Out)
  /-- Padded token ids, attention mask and position ids. -/
  padded : List (List (ℕ × Bool × ℕ)) → List (List Out)

def ulyssesPadSize (spSize totalSeqLen : ℕ) : ℕ := (spSize - totalSeqLen % spSize) % spSize

/-- The slices of `slice_input_tensor`, rank by rank. -/
def sliceInputTensor (spSize : ℕ) (x : List β) : List (List β) :=
  Chunks.chunks (x.length / spSize) spSize x

/-- `gather_outputs_and_unpad`. -/
def gatherOutputsAndUnpad (paddingSize : ℕ) (shards : List (List β)) : List β :=
  if paddingSize = 0 then shards.flatten
  else shards.flatten.take (shards.flatten.length - paddingSize)

/-- What is read off the output of every position: its temperature, the output and the token that
`input_ids_rmpad_rolled` has there. -/
def headOutputs (head : K → Out → ℕ → β) (temperatures : List K) (outputs : List Out)
    (labels : List ℕ) : List β :=
  List.zipWith (fun (output : K × Out) label => head output.1 output.2 label)
    (temperatures.zip outputs) labels

section Passes

variable [One K] (self : EngineModule Out) (head : K → Out → ℕ → β)

/-- `prepare_model_inputs`, the module and `prepare_model_outputs` without padding. -/
def removePaddingValues (spSize : ℕ) (microBatch : List (Sequence K)) : List β :=
  let inputIdsRmpad := microBatch.flatMap Sequence.inputIds
  let positionIdsRmpad := microBatch.flatMap Sequence.positionIds
  let temperatureRmpad :=
    microBatch.flatMap fun row => List.replicate row.inputIds.length row.temperature
  let inputIdsRmpadRolled := inputIdsRmpad.rotate 1
  if spSize ≤ 1 then
    headOutputs head temperatureRmpad (self.packed (inputIdsRmpad.zip positionIdsRmpad))
      inputIdsRmpadRolled
  else
    let padSize := ulyssesPadSize spSize inputIdsRmpad.length
    let inputs := (inputIdsRmpad ++ List.replicate padSize 0).zip
      (positionIdsRmpad ++ List.range padSize)
    let outputs := self.sharded (sliceInputTensor spSize inputs)
    let labels := sliceInputTensor spSize (inputIdsRmpadRolled ++ List.replicate padSize 0)
    let temperatures := sliceInputTensor spSize (temperatureRmpad ++ List.replicate padSize 1)
    gatherOutputsAndUnpad padSize
      (List.zipWith (fun (shard : List K × List Out) => headOutputs head shard.1 shard.2)
        (temperatures.zip outputs) labels)

/-- `prepare_model_inputs`, the module and `prepare_model_outputs` with the rows padded to the
longest one. -/
def keepPaddingValues (padTokenId : ℕ) (microBatch : List (Sequence K)) : List β :=
  let seqLengths := microBatch.map fun row => row.inputIds.length
  let maxSeqLen := seqLengths.foldl max 0
  let outputs := self.padded (microBatch.map fun row =>
    padRight maxSeqLen (padTokenId, false, 0)
      (row.inputIds.zip (row.positionIds.map fun positionId => (true, positionId))))
  let temperatures :=
    microBatch.flatMap fun row => List.replicate row.inputIds.length row.temperature
  let labels := (microBatch.flatMap Sequence.inputIds).rotate 1
  headOutputs head temperatures (List.zipWith List.take seqLengths outputs).flatten labels

/-- How the workers of a group run a model. -/
structure EngineConfig where
  mesh : Mesh
  useRemovePadding : Bool
  padTokenId : ℕ
  /-- How each data-parallel rank cuts its rows. -/
  microBatching : ℕ → MicroBatching
  /-- The configuration check of the actor and the critic. -/
  removePadding_of_sequenceParallel : 1 < mesh.spSize → useRemovePadding = true

/-- One entry of the `model_output` of `forward_step`, a nested tensor. -/
def forwardStep (cfg : EngineConfig) (microBatch : List (Sequence K)) : List (List β) :=
  let cuSeqlens := microBatch.map fun row => row.inputIds.length
  if cfg.useRemovePadding then
    cuSeqlens.splitLengths (removePaddingValues self head cfg.mesh.spSize microBatch)
  else cuSeqlens.splitLengths (keepPaddingValues self head cfg.padTokenId microBatch)

/-- `infer_batch` over a worker group. -/
def inferBatch (cfg : EngineConfig) (rows : List (Sequence K)) : Option (List (List β)) :=
  cfg.mesh.call (fun dpRank => forwardBatch (cfg.microBatching dpRank)
    (fun row => row.inputIds.length) (forwardStep self head cfg)) rows

/-! ## The trainer -/

/-- Inference on a padded batch: `left_right_2_no_padding`, `infer_batch`, `no_padding_2_padding`. -/
def inferPadded [Zero β] (cfg : EngineConfig)
    (batch : List (PaddedRow K promptWidth responseWidth)) : Option (List (List β)) := do
  let output ← inferBatch self head cfg (leftRight2NoPadding batch)
  noPadding2Padding (batch.map fun row => (row.attentionMask.take promptWidth).count true)
    (batch.map fun row => (row.attentionMask.drop promptWidth).count true) responseWidth
    output.flatten

/-- A trajectory as the agent loop puts it into the store. -/
structure SampledRow (K : Type) where
  prompts : List ℕ
  responses : List ℕ
  temperature : K

def SampledRow.toSequence (row : SampledRow K) : Sequence K :=
  ⟨row.prompts ++ row.responses,
    computePositionIdWithMask (List.replicate (row.prompts ++ row.responses).length true),
    row.temperature⟩

/-- Inference on a stored batch: `infer_batch`, then `response_from_nested`. -/
def inferNested (cfg : EngineConfig) (batch : List (SampledRow K)) : Option (List (List β)) :=
  (inferBatch self head cfg (batch.map SampledRow.toSequence)).map
    (responseFromNested (batch.map fun row => row.responses.length))

end Passes

section Heads

variable [Field K] [LinearOrder K]

/-- Logits over a temperature that is clamped away from zero. -/
def scaledLogits (temperature : K) (logits : ℕ → K) (token : ℕ) : K :=
  logits token / max temperature (1 / (10 ^ 8 : ℕ))

/-- What `prepare_model_outputs` of the actor takes from `torch_functional`. -/
structure TokenFunctions (K : Type) where
  logprobsFromLogits : (ℕ → K) → ℕ → K
  entropyFromLogits : (ℕ → K) → K

variable (functional : TokenFunctions K)

/-- An entry of `log_probs`. -/
def logProbHead (temperature : K) (logits : ℕ → K) (label : ℕ) : K :=
  functional.logprobsFromLogits (scaledLogits temperature logits) label

/-- An entry of `entropy`. -/
def entropyHead (temperature : K) (logits : ℕ → K) (_label : ℕ) : K :=
  functional.entropyFromLogits (scaledLogits temperature logits)

/-- An entry of `values`. -/
def valueHead (_temperature value : K) (_label : ℕ) : K := value

/-- `RayPPOTrainer._compute_old_log_prob`: `old_log_probs` and `entropys`. -/
def computeOldLogProb (actor : EngineModule (ℕ → K)) (cfg : EngineConfig)
    (batch : List (PaddedRow K promptWidth responseWidth)) :
    Option (List (List K) × List (List K)) := do
  let entropys ← inferPadded actor (entropyHead functional) cfg batch
  let oldLogProbs ← inferPadded actor (logProbHead functional) cfg batch
  return (oldLogProbs, entropys)

/-- `RayPPOTrainer._compute_ref_log_prob`. -/
def computeRefLogProb (reference : EngineModule (ℕ → K)) (cfg : EngineConfig)
    (batch : List (PaddedRow K promptWidth responseWidth)) : Option (List (List K)) :=
  inferPadded reference (logProbHead functional) cfg batch

/-- `RayPPOTrainer._compute_values`. -/
def computeValues (critic : EngineModule K) (cfg : EngineConfig)
    (batch : List (PaddedRow K promptWidth responseWidth)) : Option (List (List K)) :=
  inferPadded critic valueHead cfg batch

/-- `PPOTrainer._compute_old_log_prob`, which recomputes them: `old_log_probs` and `entropy`. -/
def computeStoredLogProb (actor : EngineModule (ℕ → K)) (cfg : EngineConfig)
    (batch : List (SampledRow K)) : Option (List (List K) × List (List K)) := do
  let oldLogProbs ← inferNested actor (logProbHead functional) cfg batch
  let entropy ← inferNested actor (entropyHead functional) cfg batch
  return (oldLogProbs, entropy)

end Heads

end SearchR1.EngineForward
