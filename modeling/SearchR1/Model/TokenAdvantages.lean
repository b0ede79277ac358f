import SearchR1.Library.Grouping
import SearchR1.Library.Masked
import SearchR1.Model.CoreAlgos

/-! # Advantages token by token

A row of the tensors of a batch is the list of its positions. -/

namespace SearchR1.CoreAlgos

open IndexLoop Masked

/-- One position of a response in the tensors the estimators are given. -/
structure Token (K : Type*) where
  reward : K
  value : K
  oldLogProb : K
  sumPiSquared : K
  rolloutIsWeight : K
  responseMask : Bool
deriving DecidableEq

variable {K U : Type*} [Field K] [DecidableEq U] {n : ℕ}

def Token.maskValue (tok : Token K) : K := if tok.responseMask then 1 else 0

/-! ## Whitening -/

/-- The `1e-8` of `masked_mean` and `masked_whiten`. -/
def tiny : K := 1 / (10 ^ 8 : ℕ)

def maskedSum (values : List K) (mask : List Bool) : K :=
  (List.zipWith (fun v m => (if m then v else 0) * if m then 1 else 0) values mask).sum

def maskedMean (values : List K) (mask : List Bool) : K :=
  maskedSum values mask / ((mask.count true : K) + tiny)

/-- `masked_var`, which raises when the mask selects at most one value. -/
def maskedVar (values : List K) (mask : List Bool) : Option K :=
  let mean := maskedMean values mask
  let variance := maskedMean (values.map fun v => (v - mean) ^ 2) mask
  let maskSum := mask.count true
  if maskSum = 0 then none
  else if maskSum = 1 then none
  else some (variance * ((maskSum : K) / ((maskSum : K) - 1)))

/-- `masked_whiten`. -/
def maskedWhiten (rsqrt : K → K) (values : Fin n → List K) (mask : Fin n → List Bool) :
    Option (Fin n → List K) :=
  let allValues := (List.ofFn values).flatten
  let allMask := (List.ofFn mask).flatten
  let mean := maskedMean allValues allMask
  (maskedVar allValues allMask).map fun var i =>
    (values i).map fun v => (v - mean) * rsqrt (var + tiny)

def responseMasks (batch : Fin n → List (Token K)) (i : Fin n) : List Bool :=
  (batch i).map Token.responseMask

/-- The product with the response mask. -/
def timesMask (values : List K) (row : List (Token K)) : List K :=
  List.zipWith (fun v tok => v * tok.maskValue) values row

/-! ## Generalised advantage estimation -/

/-- One round of the loop over the positions from the last to the first, on `nextvalues` and
`lastgaelam`. -/
def gaeStep (gamma lam : K) (tok : Token K) (state : K × K) : K × K :=
  let (nextvalues, lastgaelam) := state
  let delta := tok.reward + gamma * nextvalues - tok.value
  let lastgaelam' := delta + gamma * lam * lastgaelam
  (tok.value * tok.maskValue + (1 - tok.maskValue) * nextvalues,
    lastgaelam' * tok.maskValue + (1 - tok.maskValue) * lastgaelam)

def gaeAdvantages (gamma lam : K) (row : List (Token K)) : List K :=
  (scanBack (gaeStep gamma lam) (0, 0) row).map Prod.snd

def gaeReturns (gamma lam : K) (row : List (Token K)) : List K :=
  List.zipWith (fun advantage tok => advantage + tok.value) (gaeAdvantages gamma lam row) row

/-- `compute_gae_advantage_return`; `none` when the whitening raises. -/
def computeGaeAdvantageReturn (rsqrt : K → K) (gamma lam : K) (batch : Fin n → List (Token K)) :
    Option ((Fin n → List K) × (Fin n → List K)) :=
  (maskedWhiten rsqrt (fun i => gaeAdvantages gamma lam (batch i)) (responseMasks batch)).map
    fun advantages => (advantages, fun i => gaeReturns gamma lam (batch i))

/-! ## REINFORCE++ -/

/-- One round of the loop backwards, on the return of the position and `running_return`. -/
def reinforceStep (gamma : K) (tok : Token K) (state : K × K) : K × K :=
  let runningReturn := tok.reward + gamma * state.2
  (runningReturn, runningReturn * tok.maskValue)

def reinforceReturns (gamma : K) (row : List (Token K)) : List K :=
  (scanBack (reinforceStep gamma) (0, 0) row).map Prod.fst

/-- `compute_reinforce_plus_plus_outcome_advantage`. -/
def computeReinforcePlusPlusOutcomeAdvantage (rsqrt : K → K) (gamma : K)
    (batch : Fin n → List (Token K)) : Option ((Fin n → List K) × (Fin n → List K)) :=
  let returns i := reinforceReturns gamma (batch i)
  (maskedWhiten rsqrt returns (responseMasks batch)).map fun advantages =>
    (fun i => timesMask (advantages i) (batch i), returns)

/-! ## Optimal token baselines -/

/-- `(token_level_rewards * response_mask).flip(-1).cumsum(-1).flip(-1)`. -/
def rewardToGo (row : List (Token K)) : List K :=
  scanBack (fun tok later => later + tok.reward * tok.maskValue) 0 row

/-- `compute_remax_outcome_advantage`, for one row. -/
def computeRemaxOutcomeAdvantage (rewardBaseline : K) (row : List (Token K)) : List K × List K :=
  (List.zipWith (fun ret tok => ret - rewardBaseline * tok.maskValue) (rewardToGo row) row,
    rewardToGo row)

/-- What both estimators of token baselines are told beside the batch. -/
structure BaselineConfig (K : Type*) where
  exp : K → K
  /-- `rollout_is_weights` is given. -/
  useIsWeights : Bool
  handleZeroTail : Bool
  epsilon : K

def wPerTimestep (cfg : BaselineConfig K) (tok : Token K) : K :=
  let w := 1 - 2 * cfg.exp tok.oldLogProb + tok.sumPiSquared
  if cfg.useIsWeights then w * tok.rolloutIsWeight ^ 2 else w

def wCumulative (cfg : BaselineConfig K) (row : List (Token K)) : List K :=
  scanFront (fun earlier tok => earlier + wPerTimestep cfg tok * tok.maskValue) 0 row

/-- `response_mask.sum(dim=-1)`. -/
def responseLength (row : List (Token K)) : ℕ := row.countP Token.responseMask

/-- The part of the longest trajectory beyond the second longest one of its group has no
baseline. -/
def zeroTail (lengths : Fin n → ℕ) (group : List (Fin n)) (baselines : Fin n → ℕ → K) :
    Fin n → ℕ → K :=
  let sortedLengths := (group.map lengths).insertionSort (· ≤ ·)
  let maxLength := sortedLengths.getD (group.length - 1) 0
  let secondMaxLength := sortedLengths.getD (group.length - 2) 0
  match group.filter fun i => lengths i = maxLength with
  | [i] =>
      if secondMaxLength < maxLength then
        Function.update baselines i fun t => if secondMaxLength ≤ t then 0 else baselines i t
      else baselines
  | _ => baselines

/-- `baselines[traj_idx] = ..`, then the zeros of the tail. -/
def assignBaseline (cfg : BaselineConfig K) (lengths : Fin n → ℕ) (baseline : ℕ → K)
    (baselines : Fin n → ℕ → K) (group : List (Fin n)) : Fin n → ℕ → K :=
  let baselines := fill baselines group baseline
  if cfg.handleZeroTail then zeroTail lengths group baselines else baselines

section SingleTurn

variable (cfg : BaselineConfig K) (batch : Fin n → List (Token K))

def baselinePerStep (group : List (Fin n)) (t : ℕ) : K :=
  let masked i := (wCumulative cfg (batch i)).getD t 0 *
    ((batch i).map Token.maskValue).getD t 0
  (group.map fun i => (rewardToGo (batch i)).getD t 0 * (wCumulative cfg (batch i)).getD t 0 *
    ((batch i).map Token.maskValue).getD t 0).sum / ((group.map masked).sum + cfg.epsilon)

/-- One round of the loop over the prompts. -/
def groupBaselines (baselines : Fin n → ℕ → K) (group : List (Fin n)) : Fin n → ℕ → K :=
  if group.length = 1 then baselines
  else assignBaseline cfg (fun i => responseLength (batch i)) (baselinePerStep cfg batch group)
    baselines group

def tokenBaselines (index : Fin n → U) : Fin n → ℕ → K :=
  (Dict.groupRows index (List.finRange n)).foldl
    (fun baselines group => groupBaselines cfg batch baselines group.2) fun _ _ => 0

/-- `compute_optimal_token_baseline_advantage`: the advantages and the returns. -/
def computeOptimalTokenBaselineAdvantage (index : Fin n → U) (i : Fin n) : List K × List K :=
  let returns := rewardToGo (batch i)
  let baselines := tokenBaselines cfg batch index i
  (timesMask (returns.zipIdx.map fun ret => ret.1 - baselines ret.2) (batch i), returns)

end SingleTurn

section MultiTurn

variable (cfg : BaselineConfig K) (batch : Fin n → List (Token K))

/-- `w_cumulative[i, mask]`. -/
def allWValues (i : Fin n) : List K :=
  select Token.responseMask (batch i) (wCumulative cfg (batch i))

/-- `token_returns[i, mask]`. -/
def allReturns (i : Fin n) : List K :=
  select Token.responseMask (batch i) (rewardToGo (batch i))

def bStar (group : List (Fin n)) (t : ℕ) : K :=
  (group.map fun i => (allReturns batch i).getD t 0 * (allWValues cfg batch i).getD t 0).sum /
    ((group.map fun i => (allWValues cfg batch i).getD t 0).sum + cfg.epsilon)

/-- One round of the loop over the prompts. -/
def multiTurnGroupBaselines (baselines : Fin n → ℕ → K) (group : List (Fin n)) :
    Fin n → ℕ → K :=
  if group.length = 1 then fill baselines group fun _ => 0
  else assignBaseline cfg (fun i => responseLength (batch i)) (bStar cfg batch group) baselines
    group

/-- The rows without a token of the model are in no group. -/
def multiTurnBaselines (index : Fin n → U) : Fin n → ℕ → K :=
  (Dict.groupRows index
    ((List.finRange n).filter fun i => responseLength (batch i) ≠ 0)).foldl
    (fun baselines group => multiTurnGroupBaselines cfg batch baselines group.2) fun _ _ => 0

/-- `compute_multi_turn_optimal_token_baseline_advantage`: the advantages and the returns. -/
def computeMultiTurnOptimalTokenBaselineAdvantage (index : Fin n → U) (i : Fin n) :
    List K × List K :=
  let baselines := multiTurnBaselines cfg batch index i
  let allAdvantages := (allReturns batch i).zipIdx.map fun ret => ret.1 - baselines ret.2
  (timesMask (place Token.responseMask 0 (batch i) allAdvantages) (batch i),
    rewardToGo (batch i))

end MultiTurn

/-! ## Packed trajectories -/

def padToken : Token K := ⟨0, 0, 0, 0, 0, false⟩

/-- The same trajectories without the observations between their turns. -/
def packed (batch : Fin n → List (Token K)) (i : Fin n) : List (Token K) :=
  pack Token.responseMask padToken (batch i)

/-- The entries at the tokens of the model. -/
def modelEntries (batch : Fin n → List (Token K)) (values : Fin n → List K) (i : Fin n) :
    List K :=
  select Token.responseMask (batch i) (values i)

end SearchR1.CoreAlgos
