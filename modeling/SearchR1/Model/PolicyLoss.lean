import SearchR1.Model.MicroBatches
import SearchR1.Model.TokenAdvantages

/-! # The losses of the actor and the critic -/

namespace SearchR1.PolicyLoss

open CoreAlgos MicroBatches

variable {K : Type} [Field K] [LinearOrder K]

/-! ## Aggregation -/

/-- The values of `loss_agg_mode`. -/
inductive LossAggMode where
  | tokenMean
  | seqMeanTokenSum
  | seqMeanTokenSumNorm
  | seqMeanTokenMean
deriving DecidableEq

/-- `config.global_batch_info`. -/
structure GlobalBatchInfo (K : Type) where
  dpSize : ℕ
  batchNumTokens : Option ℕ
  globalBatchSize : Option ℕ
  lossScaleFactor : Option K

/-- A loss with its entry of the loss mask. -/
abbrev LossRow (K : Type) := List (K × Bool)

/-- What a missing normaliser of the global batch is replaced with; over several ranks it must not
be missing. -/
def GlobalBatchInfo.normalizer (info : GlobalBatchInfo K) (given : Option ℕ) (own : ℕ) :
    Option ℕ :=
  match given with
  | some size => some size
  | none => if 1 < info.dpSize then none else some own

/-- `agg_loss`, on rows whose tensor has the given width; `none` when it raises. -/
def aggLoss (mode : LossAggMode) (info : GlobalBatchInfo K) (width : ℕ)
    (rows : List (LossRow K)) : Option K :=
  let tokenCount (row : LossRow K) : ℕ := (row.map Prod.snd).count true
  let tokenSum (row : LossRow K) : K := (row.map fun e => e.1 * if e.2 then 1 else 0).sum
  let seqMask := rows.map fun row => decide (0 < tokenCount row)
  match mode with
  | .tokenMean =>
      let lossMat := (rows.map fun row => row.map Prod.fst).flatten
      let lossMask := (rows.map fun row => row.map Prod.snd).flatten
      (info.normalizer info.batchNumTokens (lossMask.count true)).map fun (batchNumTokens : ℕ) =>
        maskedSum lossMat lossMask / batchNumTokens * info.dpSize
  | .seqMeanTokenSum =>
      (info.normalizer info.globalBatchSize (seqMask.count true)).map fun (globalBatchSize : ℕ) =>
        maskedSum (rows.map tokenSum) seqMask / globalBatchSize * info.dpSize
  | .seqMeanTokenSumNorm =>
      (info.normalizer info.globalBatchSize (seqMask.count true)).map fun (globalBatchSize : ℕ) =>
        maskedSum (rows.map tokenSum) seqMask / globalBatchSize * info.dpSize /
          info.lossScaleFactor.getD width
  | .seqMeanTokenMean =>
      let seqLosses := rows.map fun row => tokenSum row / ((tokenCount row : K) + tiny)
      (info.normalizer info.globalBatchSize (seqMask.count true)).map fun (globalBatchSize : ℕ) =>
        maskedSum seqLosses seqMask / globalBatchSize * info.dpSize

/-! ## The loss of a token -/

/-- `torch.clamp`. -/
def clamp (lower upper x : K) : K := min (max x lower) upper

/-- `clip_by_value`. -/
def clipByValue (x tensorMin tensorMax : K) : K := max (min x tensorMax) tensorMin

/-- A position of a response as the policy loss sees it. -/
structure PolicyToken (K : Type) where
  logProb : K
  oldLogProb : K
  refLogProb : K
  advantage : K
  entropy : K
  rolloutIsWeight : K
  responseMask : Bool
deriving DecidableEq

inductive KlPenalty where
  | k1
  | abs
  | k2
  | k3
deriving DecidableEq

/-- What the policy loss is told beside the batch. -/
structure ActorConfig (K : Type) [Field K] [LinearOrder K] where
  exp : K → K
  clipRatioLow : K
  clipRatioHigh : K
  clipRatioC : K
  clipRatioC_gt : 1 < clipRatioC
  useIsWeights : Bool
  /-- `entropy_coeff`, where the entropy is computed. -/
  entropyCoeff : Option K
  /-- `kl_loss_coef` and `kl_loss_type`, with `use_kl_loss`. -/
  klLoss : Option (K × KlPenalty)

/-- The entries of `pg_losses` in `compute_policy_loss_vanilla`. -/
def vanillaLoss (cfg : ActorConfig K) (tok : PolicyToken K) : K :=
  let negativeApproxKl := clamp (-20) 20 (tok.logProb - tok.oldLogProb)
  let ratio := cfg.exp negativeApproxKl
  let pgLosses1 := -tok.advantage * ratio
  let pgLosses2 := -tok.advantage * clamp (1 - cfg.clipRatioLow) (1 + cfg.clipRatioHigh) ratio
  let clipPgLosses1 := max pgLosses1 pgLosses2
  let pgLosses3 := -tok.advantage * cfg.clipRatioC
  let clipPgLosses2 := min pgLosses3 clipPgLosses1
  let pgLosses := if tok.advantage < 0 then clipPgLosses2 else clipPgLosses1
  if cfg.useIsWeights then pgLosses * tok.rolloutIsWeight else pgLosses

/-- `kl_penalty_forward`. -/
def klPenaltyForward (exp : K → K) (klPenalty : KlPenalty) (logprob refLogprob : K) : K :=
  match klPenalty with
  | .k1 => logprob - refLogprob
  | .abs => |logprob - refLogprob|
  | .k2 => 1 / (2 : ℕ) * (logprob - refLogprob) ^ 2
  | .k3 =>
      let kl := clamp (-((20 : ℕ) : K)) (20 : ℕ) (refLogprob - logprob)
      let kld := exp kl - kl - 1
      clamp (-((10 : ℕ) : K)) (10 : ℕ) kld

/-! ## The losses of a batch -/

/-- How the rows of a batch are laid out: padded to one width, or nested and padded to the longest
row of the batch. -/
def tensorWidth {α : Type} (padWidth : Option ℕ) (rows : List (List α)) : ℕ :=
  padWidth.getD ((rows.map List.length).foldl max 0)

/-- `ppo_loss` with the vanilla policy loss. -/
def ppoLoss (cfg : ActorConfig K) (mode : LossAggMode) (padWidth : Option ℕ)
    (info : GlobalBatchInfo K) (rows : List (List (PolicyToken K))) : Option K := do
  let aggregate (f : PolicyToken K → K) :=
    aggLoss mode info (tensorWidth padWidth rows)
      (rows.map fun row => row.map fun tok => (f tok, tok.responseMask))
  let pgLoss ← aggregate (vanillaLoss cfg)
  let policyLoss ← match cfg.entropyCoeff with
    | some entropyCoeff => do
        let entropyLoss ← aggregate PolicyToken.entropy
        pure (pgLoss - entropyCoeff * entropyLoss)
    | none => pure pgLoss
  match cfg.klLoss with
  | some (klLossCoef, klLossType) => do
      let klLoss ← aggregate fun tok =>
        klPenaltyForward cfg.exp klLossType tok.logProb tok.refLogProb
      pure (policyLoss + klLoss * klLossCoef)
  | none => pure policyLoss

/-- A position of a response as the value loss sees it. -/
structure ValueToken (K : Type) where
  vpred : K
  value : K
  ret : K
  responseMask : Bool
deriving DecidableEq

/-- The entries of `clipped_vf_losses` in `compute_value_loss`. -/
def clippedValueLoss (cliprangeValue : K) (tok : ValueToken K) : K :=
  let vpredclipped :=
    clipByValue tok.vpred (tok.value - cliprangeValue) (tok.value + cliprangeValue)
  max ((tok.vpred - tok.ret) ^ 2) ((vpredclipped - tok.ret) ^ 2)

/-- `value_loss`. -/
def valueLoss (cliprangeValue : K) (mode : LossAggMode) (padWidth : Option ℕ)
    (info : GlobalBatchInfo K) (rows : List (List (ValueToken K))) : Option K :=
  (aggLoss mode info (tensorWidth padWidth rows) (rows.map fun row => row.map fun tok =>
    (clippedValueLoss cliprangeValue tok, tok.responseMask))).map fun loss => 1 / (2 : ℕ) * loss

/-! ## Ranks and micro-batches -/

/-- The rows of a rank, and how it splits them into micro-batches by the lengths of their
sequences. -/
structure RankBatch (α : Type) where
  mode : MicroBatching
  seqLen : List α → ℕ
  rows : List (List α)

/-- The losses of the micro-batches of a rank in `forward_backward_batch`, summed by
`_postprocess_output`. -/
def RankBatch.loss {α : Type} (rank : RankBatch α) (lossFunction : List (List α) → Option K) :
    Option K := do
  let (microBatches, _) ← prepareMicroBatches rank.mode rank.seqLen rank.rows
  let losses ← microBatches.mapM lossFunction
  return losses.sum

/-- `loss_mask.sum()`. -/
def numTokens {α : Type} (responseMask : α → Bool) (rows : List (List α)) : ℕ :=
  (rows.map fun row => row.countP responseMask).sum

/-- The loss of `train_batch`: the tokens of all ranks are counted, and the losses of the ranks
are averaged, as their gradients are. -/
def trainBatchLoss {α : Type} (responseMask : α → Bool)
    (lossFunction : GlobalBatchInfo K → List (List α) → Option K) (globalBatchSize : ℕ)
    (lossScaleFactor : Option K) (ranks : List (RankBatch α)) : Option K := do
  let batchNumTokens := (ranks.map fun rank => numTokens responseMask rank.rows).sum
  let info : GlobalBatchInfo K :=
    ⟨ranks.length, some batchNumTokens, some globalBatchSize, lossScaleFactor⟩
  let losses ← ranks.mapM fun rank => rank.loss (lossFunction info)
  return losses.sum / ranks.length

end SearchR1.PolicyLoss
