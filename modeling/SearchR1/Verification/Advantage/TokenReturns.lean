import SearchR1.Model.TokenAdvantages
import Mathlib.Algebra.BigOperators.Fin
import Mathlib.Tactic.Ring

/-! # Returns over the turns of a trajectory -/

namespace SearchR1.CoreAlgos

open Masked

variable {K : Type*} {n : ℕ}

/-! ## Selected entries -/

theorem length_select_id {values : List K} {mask : List Bool} (h : values.length = mask.length) :
    (select id mask values).length = mask.count true := by
  rw [length_select id h, List.count_eq_countP, List.countP_eq_length_filter]
  congr 1
  apply List.filter_congr
  intro m _
  cases m <;> rfl

theorem select_responseMask (row : List (Token K)) (values : List K) :
    select id (row.map Token.responseMask) values = select Token.responseMask row values := by
  induction row generalizing values with
  | nil => rfl
  | cons tok row ih =>
      cases values with
      | nil => simp
      | cons v values => simp only [List.map_cons, select, id, ih]

/-- The entries at the tokens of the model, row after row. -/
def batchEntries (batch : Fin n → List (Token K)) (values : Fin n → List K) : List K :=
  (List.ofFn (modelEntries batch values)).flatten

theorem select_flatten {batch : Fin n → List (Token K)} {values : Fin n → List K}
    (h : ∀ i, (values i).length = (batch i).length) :
    select id (List.ofFn (responseMasks batch)).flatten (List.ofFn values).flatten =
      batchEntries batch values := by
  rw [batchEntries]
  induction n with
  | zero => rfl
  | succ n ih =>
      rw [List.ofFn_succ, List.ofFn_succ, List.ofFn_succ, List.flatten_cons, List.flatten_cons,
        List.flatten_cons, select_append]
      · congr 1
        · exact select_responseMask _ _
        · exact ih fun i => h i.succ
      · rw [responseMasks, List.length_map]
        exact h 0

theorem responseLength_eq (row : List (Token K)) :
    responseLength row = (row.filter Token.responseMask).length := List.countP_eq_length_filter

theorem length_flatten_responseMasks {batch : Fin n → List (Token K)} {values : Fin n → List K}
    (h : ∀ i, (values i).length = (batch i).length) :
    (List.ofFn values).flatten.length = (List.ofFn (responseMasks batch)).flatten.length := by
  rw [List.length_flatten, List.length_flatten, List.map_ofFn, List.map_ofFn]
  congr 2
  funext i
  simp [responseMasks, h i]

variable [Field K]

@[simp] theorem Token.maskValue_of_mask {tok : Token K} (h : tok.responseMask = true) :
    tok.maskValue = 1 := by rw [Token.maskValue, if_pos h]

@[simp] theorem Token.maskValue_of_not_mask {tok : Token K} (h : tok.responseMask = false) :
    tok.maskValue = 0 := by rw [Token.maskValue, h, if_neg Bool.false_ne_true]

/-! ## Packing -/

/-- Entries that are computed from the tokens of the model alone are those of the packed batch. -/
theorem modelEntries_packed {f g : List (Token K) → List K}
    (h : ∀ row, select Token.responseMask row (f row) = g (row.filter Token.responseMask))
    (batch : Fin n → List (Token K)) :
    modelEntries (packed batch) (fun i => f (packed batch i)) =
      modelEntries batch fun i => f (batch i) := by
  funext i
  rw [modelEntries, modelEntries, h, h, packed, filter_pack _ (by rfl)]

theorem length_packed (batch : Fin n → List (Token K)) (i : Fin n) :
    (packed batch i).length = (batch i).length := length_pack _ _ _

/-! ## Whitening -/

section Whitening

/-- The mean of the selected values. -/
def smoothedMean (values : List K) : K := values.sum / ((values.length : K) + tiny)

/-- The variance of the selected values. -/
def smoothedVar (values : List K) : Option K :=
  if values.length ≤ 1 then none
  else some (smoothedMean (values.map fun v => (v - smoothedMean values) ^ 2) *
    ((values.length : K) / ((values.length : K) - 1)))

theorem maskedSum_eq (values : List K) (mask : List Bool) :
    maskedSum values mask = (select id mask values).sum := by
  induction mask generalizing values with
  | nil => simp [maskedSum, select]
  | cons m mask ih =>
      cases values with
      | nil => simp [maskedSum, select]
      | cons v values =>
          have hrest := ih values
          cases m <;> simp_all [maskedSum, select]

theorem maskedMean_eq {values : List K} {mask : List Bool} (h : values.length = mask.length) :
    maskedMean values mask = smoothedMean (select id mask values) := by
  rw [maskedMean, maskedSum_eq, smoothedMean, length_select_id h]

theorem maskedVar_eq {values : List K} {mask : List Bool} (h : values.length = mask.length) :
    maskedVar values mask = smoothedVar (select id mask values) := by
  have hmap : (values.map fun v => (v - maskedMean values mask) ^ 2).length = mask.length := by
    rw [List.length_map, h]
  simp only [maskedVar]
  rw [maskedMean_eq hmap, map_select, maskedMean_eq h, smoothedVar, length_select_id h]
  by_cases hzero : mask.count true = 0
  · rw [if_pos hzero, if_pos (by omega)]
  · rw [if_neg hzero]
    by_cases hone : mask.count true = 1
    · rw [if_pos hone, if_pos (by omega)]
    · rw [if_neg hone, if_neg (by omega)]

/-- Every entry is moved and scaled by what the tokens of the model say. -/
theorem maskedWhiten_eq (rsqrt : K → K) {batch : Fin n → List (Token K)}
    {values : Fin n → List K} (h : ∀ i, (values i).length = (batch i).length) :
    maskedWhiten rsqrt values (responseMasks batch) =
      (smoothedVar (batchEntries batch values)).map fun var i => (values i).map fun v =>
        (v - smoothedMean (batchEntries batch values)) * rsqrt (var + tiny) := by
  have hlength := length_flatten_responseMasks h
  simp only [maskedWhiten]
  rw [maskedVar_eq hlength, maskedMean_eq hlength, select_flatten h]

/-- Whitening sees the tokens of the model only. -/
theorem maskedWhiten_modelEntries (rsqrt : K → K) {batch batch' : Fin n → List (Token K)}
    {values values' : Fin n → List K} (h : ∀ i, (values i).length = (batch i).length)
    (h' : ∀ i, (values' i).length = (batch' i).length)
    (heq : modelEntries batch values = modelEntries batch' values') :
    (maskedWhiten rsqrt values (responseMasks batch)).map (modelEntries batch) =
      (maskedWhiten rsqrt values' (responseMasks batch')).map (modelEntries batch') := by
  have hentries : batchEntries batch values = batchEntries batch' values' := by
    rw [batchEntries, batchEntries, heq]
  rw [maskedWhiten_eq rsqrt h, maskedWhiten_eq rsqrt h', hentries, Option.map_map, Option.map_map]
  congr 1
  funext var i
  simp only [Function.comp_apply, modelEntries, map_select]
  exact congrArg _ (congrFun heq i)

end Whitening

/-! ## Generalised advantage estimation -/

section Gae

variable (gamma lam : K)

theorem gaeStep_of_not_mask {tok : Token K} (state : K × K) (h : tok.responseMask = false) :
    gaeStep gamma lam tok state = state := by
  simp [gaeStep, h]

theorem gaeStep_of_mask {tok : Token K} (state : K × K) (h : tok.responseMask = true) :
    gaeStep gamma lam tok state =
      (tok.value, tok.reward + gamma * state.1 - tok.value + gamma * lam * state.2) := by
  simp [gaeStep, h]

@[simp] theorem length_gaeAdvantages (row : List (Token K)) :
    (gaeAdvantages gamma lam row).length = row.length := by
  rw [gaeAdvantages, List.length_map, length_scanBack]

theorem select_gaeAdvantages (row : List (Token K)) :
    select Token.responseMask row (gaeAdvantages gamma lam row) =
      gaeAdvantages gamma lam (row.filter Token.responseMask) := by
  have hskip : ∀ (tok : Token K) state, tok.responseMask = false →
      gaeStep gamma lam tok state = state :=
    fun tok state h => gaeStep_of_not_mask gamma lam state h
  rw [gaeAdvantages, map_select, gaeAdvantages, select_scanBack _ hskip]

theorem select_gaeReturns (row : List (Token K)) :
    select Token.responseMask row (gaeReturns gamma lam row) =
      gaeReturns gamma lam (row.filter Token.responseMask) := by
  rw [gaeReturns, select_zipWith, select_gaeAdvantages, gaeReturns, select_self]

/-- The model's tokens have the advantages and the returns they have without the observations
between the turns: the estimate runs over an observation as if it were not there. -/
theorem computeGaeAdvantageReturn_packed (rsqrt : K → K) (batch : Fin n → List (Token K)) :
    (computeGaeAdvantageReturn rsqrt gamma lam (packed batch)).map
        (Prod.map (modelEntries (packed batch)) (modelEntries (packed batch))) =
      (computeGaeAdvantageReturn rsqrt gamma lam batch).map
        (Prod.map (modelEntries batch) (modelEntries batch)) := by
  have hreturns := modelEntries_packed (select_gaeReturns gamma lam) batch
  have hwhite := maskedWhiten_modelEntries rsqrt
    (fun i => length_gaeAdvantages gamma lam (packed batch i))
    (fun i => length_gaeAdvantages gamma lam (batch i))
    (modelEntries_packed (select_gaeAdvantages gamma lam) batch)
  have hpair : ∀ batch : Fin n → List (Token K),
      (computeGaeAdvantageReturn rsqrt gamma lam batch).map
          (Prod.map (modelEntries batch) (modelEntries batch)) =
        ((maskedWhiten rsqrt (fun i => gaeAdvantages gamma lam (batch i))
          (responseMasks batch)).map (modelEntries batch)).map
            fun advantages => (advantages, modelEntries batch fun i =>
              gaeReturns gamma lam (batch i)) := by
    intro batch
    rw [computeGaeAdvantageReturn, Option.map_map, Option.map_map]
    rfl
  rw [hpair, hpair, hwhite, hreturns]

/-! ### As discounted sums -/

/-- `x₀ + c x₁ + c² x₂ + ..`. -/
def discounted (c : K) (xs : List K) : K := ∑ j : Fin xs.length, c ^ (j : ℕ) * xs.get j

@[simp] theorem discounted_nil (c : K) : discounted c [] = 0 := Fin.sum_univ_zero _

@[simp] theorem discounted_cons (c x : K) (xs : List K) :
    discounted c (x :: xs) = x + c * discounted c xs := by
  simp only [discounted, List.length_cons, Fin.sum_univ_succ, Fin.val_zero, pow_zero, one_mul,
    Fin.val_succ, Finset.mul_sum, pow_succ']
  congr 1
  apply Finset.sum_congr rfl
  intro j _
  exact mul_assoc _ _ _

/-- The value of the first position, none after the end. -/
def firstValue (row : List (Token K)) : K := (row.head?.map Token.value).getD 0

/-- `r + γ V' - V` at each position. -/
def tdErrors : List (Token K) → List K
  | [] => []
  | tok :: row => (tok.reward + gamma * firstValue row - tok.value) :: tdErrors row

theorem headD_scanBack_gaeStep {row : List (Token K)} (h : ∀ tok ∈ row, tok.responseMask = true) :
    (scanBack (gaeStep gamma lam) (0, 0) row).headD (0, 0) =
      (firstValue row, discounted (gamma * lam) (tdErrors gamma row)) := by
  induction row with
  | nil => simp [scanBack, firstValue, tdErrors]
  | cons tok row ih =>
      rw [List.forall_mem_cons] at h
      rw [scanBack, List.headD_cons, ih h.2, gaeStep_of_mask _ _ _ h.1, tdErrors, discounted_cons]
      rfl

theorem gaeAdvantages_eq {row : List (Token K)} (h : ∀ tok ∈ row, tok.responseMask = true) :
    gaeAdvantages gamma lam row = (List.range row.length).map fun k =>
      discounted (gamma * lam) (tdErrors gamma (row.drop k)) := by
  induction row with
  | nil => rfl
  | cons tok row ih =>
      have hhead := headD_scanBack_gaeStep gamma lam h
      rw [scanBack, List.headD_cons] at hhead
      rw [gaeAdvantages, scanBack, hhead, List.map_cons, List.length_cons,
        List.range_succ_eq_map, List.map_cons, List.map_map]
      congr 1
      exact ih (List.forall_mem_cons.mp h).2

/-- With `λ = 1` the values telescope. -/
theorem discounted_tdErrors (row : List (Token K)) :
    discounted gamma (tdErrors gamma row) =
      discounted gamma (row.map Token.reward) - firstValue row := by
  induction row with
  | nil => simp [tdErrors, firstValue]
  | cons tok row ih =>
      have hvalue : firstValue (tok :: row) = tok.value := rfl
      rw [tdErrors, discounted_cons, ih, List.map_cons, discounted_cons, hvalue]
      ring

theorem gaeReturns_one {row : List (Token K)} (h : ∀ tok ∈ row, tok.responseMask = true) :
    gaeReturns gamma 1 row = (List.range row.length).map fun k =>
      discounted gamma ((row.drop k).map Token.reward) := by
  rw [gaeReturns, gaeAdvantages_eq gamma 1 h, mul_one]
  apply List.ext_getElem
  · simp
  · intro k hk hk'
    have hlt : k < row.length := by simpa using hk'
    have hfirst : firstValue (row.drop k) = row[k].value := by
      rw [firstValue, List.head?_drop, List.getElem?_eq_getElem hlt]
      rfl
    rw [List.getElem_zipWith, List.getElem_map, List.getElem_map, List.getElem_range,
      discounted_tdErrors, hfirst, sub_add_cancel]

/-- Over its own tokens, whatever stands between them, the model's advantages before the whitening
are the discounted sums of the later errors of the critic, and with `λ = 1` its returns are the
discounted sums of the later rewards, whatever the critic says. -/
theorem gae_discounted (batch : Fin n → List (Token K)) (i : Fin n) :
    (modelEntries batch (fun i => gaeAdvantages gamma lam (batch i)) i =
      (List.range (responseLength (batch i))).map fun k => discounted (gamma * lam)
        (tdErrors gamma (((batch i).filter Token.responseMask).drop k))) ∧
    modelEntries batch (fun i => gaeReturns gamma 1 (batch i)) i =
      (List.range (responseLength (batch i))).map fun k =>
        discounted gamma ((((batch i).filter Token.responseMask).drop k).map Token.reward) := by
  have hmask : ∀ tok ∈ (batch i).filter Token.responseMask, tok.responseMask = true :=
    fun tok htok => (List.mem_filter.mp htok).2
  constructor
  · rw [modelEntries, select_gaeAdvantages, gaeAdvantages_eq _ _ hmask, responseLength_eq]
  · rw [modelEntries, select_gaeReturns, gaeReturns_one _ hmask, responseLength_eq]

end Gae

/-! ## REINFORCE++ -/

section Reinforce

variable (gamma : K)

/-- A position and the rest of its turn. -/
def restOfTurn : List (Token K) → List (Token K)
  | [] => []
  | tok :: row => tok :: row.takeWhile Token.responseMask

/-- What the loop carries over a position: the return of a turn, nothing over an observation. -/
theorem headD_scanBack_reinforceStep (row : List (Token K)) :
    (scanBack (reinforceStep gamma) (0, 0) row).headD (0, 0) =
      (discounted gamma ((restOfTurn row).map Token.reward),
        discounted gamma ((row.takeWhile Token.responseMask).map Token.reward)) := by
  induction row with
  | nil => simp [scanBack, restOfTurn]
  | cons tok row ih =>
      rw [scanBack, List.headD_cons, ih, reinforceStep, restOfTurn, List.map_cons, discounted_cons]
      cases h : tok.responseMask with
      | true => simp [h]
      | false => simp [h]

/-- The return of a position counts the rewards to the end of its own turn only: what a later turn
earns does not reach back over an observation. -/
theorem reinforceReturns_eq (row : List (Token K)) :
    reinforceReturns gamma row = (List.range row.length).map fun t =>
      discounted gamma ((restOfTurn (row.drop t)).map Token.reward) := by
  induction row with
  | nil => rfl
  | cons tok row ih =>
      have hhead := headD_scanBack_reinforceStep gamma (tok :: row)
      rw [scanBack, List.headD_cons] at hhead
      rw [reinforceReturns, scanBack, hhead, List.map_cons, List.length_cons,
        List.range_succ_eq_map, List.map_cons, List.map_map]
      congr 1

/-- The discounted sums of the rewards from each position to the end of its turn. -/
def turnReturns (row : List (Token K)) : List K :=
  (List.range row.length).map fun t => discounted gamma ((restOfTurn (row.drop t)).map Token.reward)

/-- REINFORCE++ returns the discounted sum of the rewards to the end of the turn, and its advantages
are these returns whitened over the tokens of the model, zero at the observations. It raises when
the batch has no two tokens of the model. -/
theorem computeReinforcePlusPlusOutcomeAdvantage_eq (rsqrt : K → K)
    (batch : Fin n → List (Token K)) :
    computeReinforcePlusPlusOutcomeAdvantage rsqrt gamma batch =
      let returns i := turnReturns gamma (batch i)
      let entries := batchEntries batch returns
      (smoothedVar entries).map fun var =>
        (fun i => timesMask ((returns i).map fun ret =>
          (ret - smoothedMean entries) * rsqrt (var + tiny)) (batch i), returns) := by
  have hreturns : ∀ i, reinforceReturns gamma (batch i) = turnReturns gamma (batch i) :=
    fun i => reinforceReturns_eq gamma (batch i)
  have hlength : ∀ i, (turnReturns gamma (batch i)).length = (batch i).length := by
    intro i
    rw [turnReturns, List.length_map, List.length_range]
  simp only [computeReinforcePlusPlusOutcomeAdvantage, hreturns]
  rw [maskedWhiten_eq rsqrt hlength, Option.map_map]
  rfl

end Reinforce

/-! ## ReMax -/

section Remax

theorem select_rewardToGo (row : List (Token K)) :
    select Token.responseMask row (rewardToGo row) =
      rewardToGo (row.filter Token.responseMask) := by
  apply select_scanBack
  intro tok later h
  rw [Token.maskValue_of_not_mask h, mul_zero, add_zero]

@[simp] theorem length_rewardToGo (row : List (Token K)) :
    (rewardToGo row).length = row.length := length_scanBack _ _ _

theorem headD_rewardToGo {row : List (Token K)} (h : ∀ tok ∈ row, tok.responseMask = true) :
    (rewardToGo row).headD 0 = (row.map Token.reward).sum := by
  induction row with
  | nil => rfl
  | cons tok row ih =>
      rw [List.forall_mem_cons] at h
      rw [rewardToGo] at ih ⊢
      rw [scanBack, List.headD_cons, ih h.2, Token.maskValue_of_mask h.1, mul_one, List.map_cons,
        List.sum_cons, add_comm]

theorem rewardToGo_eq {row : List (Token K)} (h : ∀ tok ∈ row, tok.responseMask = true) :
    rewardToGo row = (List.range row.length).map fun k =>
      ((row.drop k).map Token.reward).sum := by
  induction row with
  | nil => rfl
  | cons tok row ih =>
      have hhead := headD_rewardToGo h
      rw [rewardToGo, scanBack, List.headD_cons] at hhead
      rw [rewardToGo, scanBack, hhead, List.length_cons, List.range_succ_eq_map, List.map_cons,
        List.map_cons, List.map_map]
      congr 1
      exact ih (List.forall_mem_cons.mp h).2

/-- In ReMax a token of the model gets what the model earns from there on, in later turns too, less
the reward of the baseline. -/
theorem computeRemaxOutcomeAdvantage_eq (rewardBaseline : K) (row : List (Token K)) :
    select Token.responseMask row (computeRemaxOutcomeAdvantage rewardBaseline row).1 =
      (List.range (responseLength row)).map fun k =>
        (((row.filter Token.responseMask).drop k).map Token.reward).sum - rewardBaseline := by
  have hmask : ∀ tok ∈ row.filter Token.responseMask, tok.responseMask = true :=
    fun tok htok => (List.mem_filter.mp htok).2
  rw [computeRemaxOutcomeAdvantage, select_zipWith, select_rewardToGo, select_self,
    rewardToGo_eq hmask, responseLength_eq]
  apply List.ext_getElem
  · simp
  · intro k hk hk'
    have hlt : k < (row.filter Token.responseMask).length := by simpa using hk'
    rw [List.getElem_zipWith, List.getElem_map, List.getElem_map, List.getElem_range,
      Token.maskValue_of_mask (hmask _ (List.getElem_mem hlt)), mul_one]

end Remax

end SearchR1.CoreAlgos
