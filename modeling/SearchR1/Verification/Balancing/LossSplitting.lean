import SearchR1.Model.PolicyLoss
import SearchR1.Verification.Advantage.TokenReturns
import SearchR1.Verification.Balancing.MicroBatches
import Mathlib.Algebra.Order.Ring.Rat
import Mathlib.Tactic.NormNum
import Mathlib.Tactic.Ring

/-! # Losses over ranks and micro-batches -/

namespace SearchR1.PolicyLoss

open CoreAlgos MicroBatches List PyLoop

variable {K : Type} [Field K] [LinearOrder K]

/-! ## Rows -/

/-- The sum of the losses of a row's tokens. -/
def tokenSum (row : LossRow K) : K := (row.map fun e => e.1 * if e.2 then 1 else 0).sum

def tokenCount (row : LossRow K) : ℕ := (row.map Prod.snd).count true

/-- What a row adds to the loss of a batch, up to the normaliser. -/
def rowTerm (mode : LossAggMode) (row : LossRow K) : K :=
  match mode with
  | .seqMeanTokenMean =>
      if 0 < tokenCount row then tokenSum row / ((tokenCount row : K) + tiny) else 0
  | _ => tokenSum row

omit [LinearOrder K] in
theorem rowTerm_of_ne {mode : LossAggMode} (h : mode ≠ .seqMeanTokenMean) :
    rowTerm (K := K) mode = tokenSum := by
  cases mode <;> first | rfl | contradiction

/-- The factor of the sum over the rows. -/
def lossScale (mode : LossAggMode) (info : GlobalBatchInfo K) (numTokens globalBatchSize width : ℕ) :
    K :=
  match mode with
  | .tokenMean => info.dpSize / numTokens
  | .seqMeanTokenSumNorm => info.dpSize / globalBatchSize / info.lossScaleFactor.getD width
  | _ => info.dpSize / globalBatchSize

omit [LinearOrder K] in
theorem maskedSum_map {α : Type} (f : α → K) (p : α → Bool) (l : List α) :
    maskedSum (l.map f) (l.map p) = (l.map fun a => if p a then f a else 0).sum := by
  rw [maskedSum_eq]
  induction l with
  | nil => rfl
  | cons a l ih =>
      simp only [map_cons, sum_cons, ← ih]
      cases p a with
      | true => rw [Masked.select_cons_of_pos id rfl, sum_cons, if_pos rfl]
      | false => rw [Masked.select_cons_of_neg id rfl, if_neg Bool.false_ne_true, zero_add]

omit [LinearOrder K] in
theorem tokenSum_of_tokenCount_eq_zero {row : LossRow K} (h : tokenCount row = 0) :
    tokenSum row = 0 := by
  apply sum_eq_zero
  rw [forall_mem_map]
  intro e he
  have hmask : e.2 = false := by
    rw [← Bool.not_eq_true]
    intro htrue
    exact count_eq_zero.mp h (htrue ▸ mem_map_of_mem he)
  rw [hmask, if_neg Bool.false_ne_true, mul_zero]

omit [LinearOrder K] in
theorem sum_seqMask (f : LossRow K → K) (rows : List (LossRow K)) :
    maskedSum (rows.map f) (rows.map fun row => decide (0 < tokenCount row)) =
      (rows.map fun row => if 0 < tokenCount row then f row else 0).sum := by
  rw [maskedSum_map]
  simp only [decide_eq_true_eq]

omit [LinearOrder K] in
theorem sum_tokenSum (rows : List (LossRow K)) :
    maskedSum (rows.map fun row => row.map Prod.fst).flatten
      (rows.map fun row => row.map Prod.snd).flatten = (rows.map tokenSum).sum := by
  rw [← map_flatten, ← map_flatten, maskedSum_map, map_flatten, sum_flatten, map_map]
  congr 1
  apply map_congr_left
  intro row _
  simp only [Function.comp_apply, tokenSum, mul_ite, mul_one, mul_zero]

/-! ## The loss of a batch as a sum over its rows -/

omit [LinearOrder K] in
/-- With the normalisers of the global batch given, the loss is a sum over the rows. -/
theorem aggLoss_eq (mode : LossAggMode) {info : GlobalBatchInfo K} {numTokens globalBatchSize : ℕ}
    {rows : List (LossRow K)}
    (htokens : info.normalizer info.batchNumTokens
      ((rows.map fun row => row.map Prod.snd).flatten.count true) = some numTokens)
    (hsize : info.globalBatchSize = some globalBatchSize) (width : ℕ) :
    aggLoss mode info width rows = some ((rows.map (rowTerm mode)).sum *
      lossScale mode info numTokens globalBatchSize width) := by
  have hsum : maskedSum (rows.map tokenSum) (rows.map fun row => decide (0 < tokenCount row)) =
      (rows.map tokenSum).sum := by
    rw [sum_seqMask]
    congr 1
    apply map_congr_left
    intro row _
    split
    · rfl
    · rw [tokenSum_of_tokenCount_eq_zero (by omega)]
  cases mode with
  | tokenMean =>
      simp only [aggLoss, htokens, Option.map_some, lossScale]
      rw [sum_tokenSum, rowTerm_of_ne (by decide)]
      congr 1
      ring
  | seqMeanTokenSum =>
      simp only [aggLoss, GlobalBatchInfo.normalizer, hsize, Option.map_some, lossScale]
      rw [rowTerm_of_ne (by decide), ← hsum]
      congr 1
      rw [div_mul_eq_mul_div, mul_div_assoc]
      rfl
  | seqMeanTokenSumNorm =>
      simp only [aggLoss, GlobalBatchInfo.normalizer, hsize, Option.map_some, lossScale]
      rw [rowTerm_of_ne (by decide), ← hsum]
      congr 1
      rw [div_mul_eq_mul_div, mul_div_assoc, mul_div_assoc]
      rfl
  | seqMeanTokenMean =>
      simp only [aggLoss, GlobalBatchInfo.normalizer, hsize, Option.map_some, lossScale]
      congr 1
      rw [div_mul_eq_mul_div, mul_div_assoc]
      congr 1
      exact sum_seqMask (fun row => tokenSum row / ((tokenCount row : K) + tiny)) rows

/-- The losses whose value on a batch is a sum over its rows. -/
def SumOverRows {α : Type} (responseMask : α → Bool) (mode : LossAggMode) (padWidth : Option ℕ)
    (lossFunction : GlobalBatchInfo K → List (List α) → Option K) (term : List α → K) : Prop :=
  ∀ (info : GlobalBatchInfo K) (numTokens globalBatchSize : ℕ) (rows : List (List α)),
    info.normalizer info.batchNumTokens (PolicyLoss.numTokens responseMask rows) =
      some numTokens → info.globalBatchSize = some globalBatchSize →
      lossFunction info rows = some ((rows.map term).sum *
        lossScale mode info numTokens globalBatchSize (tensorWidth padWidth rows))

/-- The rows of a batch with the loss of each token. -/
def lossRow {α : Type} (responseMask : α → Bool) (f : α → K) (row : List α) : LossRow K :=
  row.map fun tok => (f tok, responseMask tok)

omit [Field K] [LinearOrder K] in
theorem count_lossRow {α : Type} (responseMask : α → Bool) (f : α → K) (rows : List (List α)) :
    ((rows.map (lossRow responseMask f)).map fun row => row.map Prod.snd).flatten.count true =
      numTokens responseMask rows := by
  rw [count_flatten, map_map, map_map, numTokens]
  congr 1
  apply map_congr_left
  intro row _
  simp only [Function.comp_apply, lossRow, map_map, count_eq_countP, countP_map]
  congr 1
  funext tok
  simp

/-- What a row adds to the loss of the actor. -/
def policyTerm (cfg : ActorConfig K) (mode : LossAggMode) (row : List (PolicyToken K)) : K :=
  let term (f : PolicyToken K → K) := rowTerm mode (lossRow PolicyToken.responseMask f row)
  let withEntropy :=
    match cfg.entropyCoeff with
    | some entropyCoeff => term (vanillaLoss cfg) + term PolicyToken.entropy * -entropyCoeff
    | none => term (vanillaLoss cfg)
  match cfg.klLoss with
  | some (klLossCoef, klLossType) =>
      withEntropy + term (fun tok =>
        klPenaltyForward cfg.exp klLossType tok.logProb tok.refLogProb) * klLossCoef
  | none => withEntropy

theorem sumOverRows_ppoLoss (cfg : ActorConfig K) (mode : LossAggMode) (padWidth : Option ℕ) :
    SumOverRows PolicyToken.responseMask mode padWidth (ppoLoss cfg mode padWidth) (policyTerm cfg mode) := by
  intro info numTokens globalBatchSize rows htokens hsize
  have haggregate : ∀ f : PolicyToken K → K,
      aggLoss mode info (tensorWidth padWidth rows)
          (rows.map fun row => row.map fun tok => (f tok, tok.responseMask)) =
        some ((rows.map fun row => rowTerm mode (lossRow PolicyToken.responseMask f row)).sum *
          lossScale mode info numTokens globalBatchSize (tensorWidth padWidth rows)) := by
    intro f
    rw [← count_lossRow PolicyToken.responseMask f] at htokens
    change aggLoss mode info _ (rows.map (lossRow PolicyToken.responseMask f)) = _
    rw [aggLoss_eq mode htokens hsize, map_map]
    rfl
  change _ = some ((rows.map fun row => policyTerm cfg mode row).sum * _)
  cases hentropy : cfg.entropyCoeff with
  | none =>
      cases hkl : cfg.klLoss with
      | none => simp [ppoLoss, policyTerm, hentropy, hkl, haggregate]
      | some kl =>
          simp only [ppoLoss, policyTerm, hentropy, hkl, haggregate, sum_map_add, sum_map_mul_right,
            Option.bind_eq_bind, Option.bind_some, Option.pure_def]
          congr 1
          ring
  | some entropyCoeff =>
      cases hkl : cfg.klLoss with
      | none =>
          simp only [ppoLoss, policyTerm, hentropy, hkl, haggregate, sum_map_add, sum_map_mul_right,
            Option.bind_eq_bind, Option.bind_some, Option.pure_def]
          congr 1
          ring
      | some kl =>
          simp only [ppoLoss, policyTerm, hentropy, hkl, haggregate, sum_map_add, sum_map_mul_right,
            Option.bind_eq_bind, Option.bind_some, Option.pure_def]
          congr 1
          ring

theorem sumOverRows_valueLoss (cliprangeValue : K) (mode : LossAggMode) (padWidth : Option ℕ) :
    SumOverRows ValueToken.responseMask mode padWidth (valueLoss cliprangeValue mode padWidth) fun row =>
      1 / 2 * rowTerm mode (lossRow ValueToken.responseMask (clippedValueLoss cliprangeValue) row) := by
  intro info numTokens globalBatchSize rows htokens hsize
  rw [← count_lossRow ValueToken.responseMask (clippedValueLoss cliprangeValue)] at htokens
  change Option.map _ (aggLoss mode info _ (rows.map
    (lossRow ValueToken.responseMask (clippedValueLoss cliprangeValue)))) = _
  rw [aggLoss_eq mode htokens hsize, map_map, Option.map_some, sum_map_mul_left,
    ← mul_assoc]
  rfl

/-! ## Micro-batches and ranks -/

section Ranks

variable {α : Type} {responseMask : α → Bool} {mode : LossAggMode} {padWidth : Option ℕ}
  {lossFunction : GlobalBatchInfo K → List (List α) → Option K} {term : List α → K}
  (hsum : SumOverRows responseMask mode padWidth lossFunction term) {info : GlobalBatchInfo K}
  {total globalBatchSize : ℕ} (htokens : info.batchNumTokens = some total)
  (hsize : info.globalBatchSize = some globalBatchSize)

/-- The width of a tensor does not enter its loss. -/
def WidthFree (mode : LossAggMode) (padWidth : Option ℕ) (lossScaleFactor : Option K) : Prop :=
  mode = .seqMeanTokenSumNorm → padWidth.isSome ∨ lossScaleFactor.isSome

omit [LinearOrder K] in
theorem lossScale_congr (hwidth : WidthFree mode padWidth info.lossScaleFactor)
    {β : Type} (rows : List (List α)) (rows' : List (List β)) :
    lossScale mode info total globalBatchSize (tensorWidth padWidth rows) =
      lossScale mode info total globalBatchSize (tensorWidth padWidth rows') := by
  cases mode with
  | seqMeanTokenSumNorm =>
      rcases hwidth rfl with h | h
      · rcases Option.isSome_iff_exists.mp h with ⟨width, rfl⟩
        rfl
      · rcases Option.isSome_iff_exists.mp h with ⟨factor, hfactor⟩
        simp only [lossScale, hfactor, Option.getD_some]
  | tokenMean => rfl
  | seqMeanTokenSum => rfl
  | seqMeanTokenMean => rfl

omit [LinearOrder K] in
include hsum htokens hsize in
/-- A rank's micro-batches add up to the sum over its rows. -/
theorem RankBatch.loss_eq (hwidth : WidthFree mode padWidth info.lossScaleFactor)
    {rank : RankBatch α} (haccept : rank.mode.Accepts (rank.rows.map rank.seqLen))
    (rows : List (List α)) :
    rank.loss (lossFunction info) = some ((rank.rows.map term).sum *
      lossScale mode info total globalBatchSize (tensorWidth padWidth rows)) := by
  rcases exists_microBatches haccept with ⟨microBatches, indices, hprepare, hperm⟩
  have hlosses : microBatches.mapM (lossFunction info) = some (microBatches.map fun microBatch =>
      (microBatch.map term).sum *
        lossScale mode info total globalBatchSize (tensorWidth padWidth rows)) := by
    rw [mapM_some_iff, forall₂_map_right_iff, forall₂_same]
    intro microBatch _
    have hgiven : info.normalizer info.batchNumTokens
        (numTokens responseMask microBatch) = some total := by
      simp only [GlobalBatchInfo.normalizer, htokens]
    rw [hsum info _ _ microBatch hgiven hsize, lossScale_congr hwidth microBatch rows]
  simp only [RankBatch.loss, hprepare, hlosses, Option.bind_eq_bind, Option.bind_some,
    Option.pure_def, sum_map_mul_right]
  rw [← (hperm.map term).sum_eq, map_flatten, sum_flatten, map_map]
  rfl

theorem numTokens_flatMap (responseMask : α → Bool) (ranks : List (RankBatch α)) :
    numTokens responseMask (ranks.flatMap RankBatch.rows) =
      (ranks.map fun rank => numTokens responseMask rank.rows).sum := by
  rw [numTokens, flatMap_def, map_flatten, sum_flatten, map_map, map_map]
  rfl

omit [LinearOrder K] in
theorem lossScale_dpSize (mode : LossAggMode) (info : GlobalBatchInfo K)
    (numTokens globalBatchSize width : ℕ) :
    lossScale mode info numTokens globalBatchSize width = info.dpSize *
      lossScale mode { info with dpSize := 1, batchNumTokens := none } numTokens globalBatchSize
        width := by
  cases mode <;> simp only [lossScale, Nat.cast_one] <;> ring

omit [LinearOrder K] in
include hsum in
/-- The loss of a training step does not depend on how the batch was dealt to the ranks and split
into micro-batches: it is the loss of all rows in one batch on one rank. -/
theorem trainBatchLoss_eq [CharZero K] {lossScaleFactor : Option K} {ranks : List (RankBatch α)}
    (hwidth : WidthFree mode padWidth lossScaleFactor) (hranks : ranks ≠ [])
    (haccept : ∀ rank ∈ ranks, rank.mode.Accepts (rank.rows.map rank.seqLen)) :
    trainBatchLoss responseMask lossFunction globalBatchSize lossScaleFactor ranks =
      lossFunction ⟨1, none, some globalBatchSize, lossScaleFactor⟩
        (ranks.flatMap RankBatch.rows) := by
  have hdp : (ranks.length : K) ≠ 0 := by
    exact_mod_cast (length_pos_iff.mpr hranks).ne'
  have hlosses : ∀ info : GlobalBatchInfo K, info.batchNumTokens =
      some (ranks.map fun rank => numTokens responseMask rank.rows).sum →
      info.globalBatchSize = some globalBatchSize → info.lossScaleFactor = lossScaleFactor →
      ranks.mapM (fun rank => rank.loss (lossFunction info)) = some (ranks.map fun rank =>
        (rank.rows.map term).sum * lossScale mode info
          (ranks.map fun rank => numTokens responseMask rank.rows).sum globalBatchSize
            (tensorWidth padWidth (ranks.flatMap RankBatch.rows))) := by
    intro info htokens hsize hfactor
    rw [mapM_some_iff, forall₂_map_right_iff, forall₂_same]
    intro rank hrank
    exact RankBatch.loss_eq hsum htokens hsize (hfactor ▸ hwidth) (haccept rank hrank) _
  have hwhole := hsum ⟨1, none, some globalBatchSize, lossScaleFactor⟩
    (numTokens responseMask (ranks.flatMap RankBatch.rows)) globalBatchSize
    (ranks.flatMap RankBatch.rows) rfl rfl
  simp only [trainBatchLoss]
  rw [hlosses _ rfl rfl rfl, hwhole, numTokens_flatMap, Option.bind_eq_bind, Option.bind_some,
    Option.pure_def, sum_map_mul_right, lossScale_dpSize]
  congr 1
  rw [mul_left_comm, mul_div_cancel_left₀ _ hdp, flatMap_def, map_flatten, sum_flatten, map_map,
    map_map]
  rfl

end Ranks

/-- The loss of the actor is that of the whole mini-batch on one rank, however the rows were dealt
to the ranks and packed into micro-batches. -/
theorem trainBatchLoss_ppoLoss [CharZero K] (cfg : ActorConfig K) (mode : LossAggMode)
    (padWidth : Option ℕ) (globalBatchSize : ℕ) (lossScaleFactor : Option K)
    (ranks : List (RankBatch (PolicyToken K))) (hwidth : WidthFree mode padWidth lossScaleFactor)
    (hranks : ranks ≠ [])
    (haccept : ∀ rank ∈ ranks, rank.mode.Accepts (rank.rows.map rank.seqLen)) :
    trainBatchLoss PolicyToken.responseMask (ppoLoss cfg mode padWidth) globalBatchSize
        lossScaleFactor ranks =
      ppoLoss cfg mode padWidth ⟨1, none, some globalBatchSize, lossScaleFactor⟩
        (ranks.flatMap RankBatch.rows) :=
  trainBatchLoss_eq (sumOverRows_ppoLoss cfg mode padWidth) hwidth hranks haccept

/-- Three responses on two ranks, each in a micro-batch of its own. -/
def threeResponses : List (RankBatch (PolicyToken ℚ)) :=
  [⟨.fixed 1 1, List.length, [[⟨-1, -2, -1, 1, 1, 1, true⟩]]⟩,
    ⟨.fixed 1 1, List.length, [[⟨-2, -1, -1, -1, 2, 1, true⟩, ⟨-1, -1, -1, -1, 0, 1, true⟩],
      [⟨-1, -1, -2, 2, 1, 1, true⟩, ⟨0, 0, 0, 0, 0, 1, false⟩]]⟩]

def plainActor : ActorConfig ℚ := ⟨fun x => 1 + x, 1 / 5, 1 / 5, 3, by norm_num, false, none, none⟩

theorem trainBatchLoss_ppoLoss_threeResponses :
    trainBatchLoss PolicyToken.responseMask (ppoLoss plainActor .tokenMean none) 3 none
        threeResponses =
      ppoLoss plainActor .tokenMean none ⟨1, none, some 3, none⟩
        (threeResponses.flatMap RankBatch.rows) := by
  apply trainBatchLoss_ppoLoss plainActor .tokenMean none 3 none threeResponses
  · intro h
    cases h
  · exact cons_ne_nil _ _
  · rw [threeResponses, forall_mem_cons, forall_mem_singleton]
    exact ⟨⟨by decide, by decide, cons_ne_nil _ _⟩, by decide, by decide, cons_ne_nil _ _⟩

/-- So is the loss of the critic. -/
theorem trainBatchLoss_valueLoss [CharZero K] (cliprangeValue : K) (mode : LossAggMode)
    (padWidth : Option ℕ) (globalBatchSize : ℕ) (lossScaleFactor : Option K)
    (ranks : List (RankBatch (ValueToken K))) (hwidth : WidthFree mode padWidth lossScaleFactor)
    (hranks : ranks ≠ [])
    (haccept : ∀ rank ∈ ranks, rank.mode.Accepts (rank.rows.map rank.seqLen)) :
    trainBatchLoss ValueToken.responseMask (valueLoss cliprangeValue mode padWidth) globalBatchSize
        lossScaleFactor ranks =
      valueLoss cliprangeValue mode padWidth ⟨1, none, some globalBatchSize, lossScaleFactor⟩
        (ranks.flatMap RankBatch.rows) :=
  trainBatchLoss_eq (sumOverRows_valueLoss cliprangeValue mode padWidth) hwidth hranks haccept

end SearchR1.PolicyLoss
