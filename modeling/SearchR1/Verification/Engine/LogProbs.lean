import SearchR1.Verification.Engine.Padding

/-! # Log-probabilities, entropies and values of a batch -/

namespace SearchR1.EngineForward

open MicroBatches WorkerGroup List

variable {K Out : Type}

/-! ## A module -/

/-- A module that finds the sequences of a packed batch by its position ids. -/
def packedOutputs (next : List ℕ → Out) : List ℕ → List (ℕ × ℕ) → List Out
  | _, [] => []
  | context, token :: rest =>
      let context := if token.2 = 0 then [token.1] else context ++ [token.1]
      next context :: packedOutputs next context rest

def referenceModule (next : List ℕ → Out) : EngineModule Out where
  packed := packedOutputs next []
  sharded shards :=
    Chunks.chunks (shards.headD []).length shards.length (packedOutputs next [] shards.flatten)
  padded rows := rows.map fun row => prefixOutputs next (row.map Prod.fst)

theorem packedOutputs_append (next : List ℕ → Out) {context : List ℕ} (hcontext : context ≠ [])
    (ids : List ℕ) (rest : List (ℕ × ℕ)) :
    packedOutputs next context (ids.zip (range' context.length ids.length) ++ rest) =
      (range ids.length).map (fun t => next (context ++ ids.take (t + 1))) ++
        packedOutputs next (context ++ ids) rest := by
  induction ids generalizing context with
  | nil => rw [zip_nil_left, append_nil]; rfl
  | cons token ids ih =>
      have hne : context.length ≠ 0 := fun hzero => hcontext (length_eq_zero_iff.mp hzero)
      have hrest := ih (append_ne_nil_of_left_ne_nil hcontext [token])
      rw [length_append, length_singleton] at hrest
      rw [length_cons, range'_succ, zip_cons_cons, cons_append, packedOutputs]
      simp only [if_neg hne]
      rw [hrest, range_succ_eq_map, map_cons, map_map, cons_append]
      simp [Function.comp_def]

theorem packedOutputs_flatMap (next : List ℕ → Out) (context : List ℕ) (seqs : List (List ℕ)) :
    packedOutputs next context (seqs.flatMap fun ids => ids.zip (range ids.length)) =
      seqs.flatMap (prefixOutputs next) := by
  induction seqs generalizing context with
  | nil => rfl
  | cons ids seqs ih =>
      rw [flatMap_cons, flatMap_cons]
      cases ids with
      | nil => exact ih context
      | cons token ids =>
          rw [range_eq_range', length_cons, range'_succ, zip_cons_cons, cons_append, packedOutputs]
          simp only [if_true]
          have hrest := packedOutputs_append next (cons_ne_nil token []) ids
            (seqs.flatMap fun ids => ids.zip (range ids.length))
          rw [length_singleton] at hrest
          rw [hrest, ih, prefixOutputs, length_cons, range_succ_eq_map, map_cons, map_map,
            cons_append]
          rfl

theorem referenceModule_causal (next : List ℕ → Out) : (referenceModule next).Causal next where
  packed_eq := packedOutputs_flatMap next []
  sharded_eq size shards hshards := by
    cases shards with
    | nil => rfl
    | cons shard shards =>
        rw [← hshards shard mem_cons_self]
        rfl
  padded_eq width padTokenId seqs _ := by
    rw [referenceModule, forall₂_map_right_iff, forall₂_map_right_iff, forall₂_same]
    intro ids _
    have hfst : (padRight width (padTokenId, false, 0)
        (ids.zip ((range ids.length).map fun positionId => (true, positionId)))).map Prod.fst =
          padRight width padTokenId ids := by
      have hzip : (ids.zip ((range ids.length).map fun positionId =>
          (true, positionId))).map Prod.fst = ids :=
        map_fst_zip (by rw [length_map, length_range])
      rw [padRight, padRight, map_append, hzip, map_replicate, length_zip, length_map, length_range,
        Nat.min_self]
    rw [hfst, padRight, prefixOutputs, prefixOutputs, length_append, ← map_take,
      take_range, Nat.min_eq_left (Nat.le_add_right _ _)]
    apply map_congr_left
    intro t ht
    rw [take_append_of_le_length (mem_range.mp ht)]

/-! ## The two trainers -/

section Trainers

variable [Field K] [LinearOrder K] (functional : TokenFunctions K)

/-- The log-probability of every response token under the model, at a temperature, after the prompt
and the response so far. -/
def tokenLogProbs (policy : List ℕ → ℕ → K) (temperature : K) (prompt response : List ℕ) :
    List K :=
  response.zipIdx.map fun token => functional.logprobsFromLogits
    (scaledLogits temperature (policy (prompt ++ response.take token.2))) token.1

/-- The entropy of the distribution that every response token is drawn from. -/
def tokenEntropies (policy : List ℕ → ℕ → K) (temperature : K) (prompt response : List ℕ) :
    List K :=
  (range response.length).map fun k => functional.entropyFromLogits
    (scaledLogits temperature (policy (prompt ++ response.take k)))

theorem responseOutputs_entropyHead (policy : List ℕ → ℕ → K) (temperature : K)
    (prompt response : List ℕ) :
    responseOutputs (entropyHead functional) policy temperature prompt response =
      tokenEntropies functional policy temperature prompt response := by
  rw [responseOutputs, tokenEntropies]
  apply ext_getElem
  · simp
  · intro k hk hk'
    simp [entropyHead]

variable {actor : EngineModule (ℕ → K)} {policy : List ℕ → ℕ → K}

/-- However a batch is padded, divided among the data-parallel ranks, cut into micro-batches, packed
and sharded over sequence-parallel ranks: the old log-probabilities are those of the response tokens
after their own prompts and responses, and likewise the entropies, in the order of the batch. -/
theorem computeOldLogProb_eq (hactor : actor.Causal policy) (cfg : EngineConfig)
    {promptWidth responseWidth : ℕ} {batch : List (PaddedRow K promptWidth responseWidth)}
    (hprompts : ∀ row ∈ batch, row.prompt ≠ [])
    (haccept : cfg.Accepts (batch.map fun row => row.attentionMask.count true)) :
    computeOldLogProb functional actor cfg batch = some
      (batch.map fun row => padRight responseWidth 0
        (tokenLogProbs functional policy row.temperature row.prompt row.response),
      batch.map fun row => padRight responseWidth 0
        (tokenEntropies functional policy row.temperature row.prompt row.response)) := by
  rw [computeOldLogProb, inferPadded_eq (entropyHead functional) hactor cfg hprompts haccept,
    inferPadded_eq (logProbHead functional) hactor cfg hprompts haccept]
  simp only [Option.bind_eq_bind, Option.bind_some, Option.pure_def, responseOutputs_entropyHead]
  rfl

/-- A rank packs two rows and shares them with another rank. -/
def twoRanks : EngineConfig where
  mesh := ⟨2, 2, Nat.two_pos, Nat.two_pos⟩
  useRemovePadding := true
  padTokenId := 0
  microBatching _ := .fixed 1 2
  removePadding_of_sequenceParallel _ := rfl

def fourRows : List (PaddedRow ℚ 2 2) :=
  [⟨[0, 1, 2, 0], [false, true, true, false], 1, rfl, rfl⟩,
    ⟨[1, 2, 2, 0], [true, true, true, true], 1, rfl, rfl⟩,
    ⟨[0, 2, 1, 1], [false, true, true, true], 1, rfl, rfl⟩,
    ⟨[1, 1, 0, 0], [true, true, false, false], 1, rfl, rfl⟩]

/-- A model that is sure of every token: its logits are its log-probabilities up to rounding. -/
def surePolicy (context : List ℕ) (token : ℕ) : ℚ :=
  if token = context.length % 3 then 0 else -1000

def sureFunctions : TokenFunctions ℚ := ⟨fun logits token => logits token, fun _ => 0⟩

theorem computeOldLogProb_eq_fourRows :
    computeOldLogProb sureFunctions (referenceModule surePolicy) twoRanks fourRows =
      some ([[-1000, 0], [0, 0], [0, -1000], [0, 0]], [[0, 0], [0, 0], [0, 0], [0, 0]]) := by
  rw [computeOldLogProb_eq sureFunctions (referenceModule_causal surePolicy) twoRanks]
  · decide +kernel
  · decide
  · refine ⟨by decide, ?_⟩
    intro r hr
    cases r with
    | zero => exact ⟨by decide, by decide, cons_ne_nil _ _⟩
    | succ r =>
        cases r with
        | zero => exact ⟨by decide, by decide, cons_ne_nil _ _⟩
        | succ r => exact absurd hr (by simp [twoRanks])

/-- They are computed for the batches that the ranks can cut, if no prompt is empty. -/
theorem computeOldLogProb_isSome_iff (hactor : actor.Causal policy) (cfg : EngineConfig)
    {promptWidth responseWidth : ℕ} (batch : List (PaddedRow K promptWidth responseWidth)) :
    (computeOldLogProb functional actor cfg batch).isSome ↔
      cfg.Accepts (batch.map fun row => row.attentionMask.count true) ∧
        ∀ row ∈ batch, row.prompt ≠ [] := by
  have hinfer : ∀ head : K → (ℕ → K) → ℕ → K, (inferPadded actor head cfg batch).isSome ↔
      cfg.Accepts (batch.map fun row => row.attentionMask.count true) ∧
        ∀ row ∈ batch, row.prompt ≠ [] :=
    fun head => inferPadded_isSome_iff head hactor cfg
  rw [computeOldLogProb, Option.bind_eq_bind, Option.isSome_bind]
  constructor
  · intro h
    rw [Option.any_eq_true] at h
    rcases h with ⟨entropys, hsome, _⟩
    exact (hinfer _).mp (Option.isSome_of_eq_some hsome)
  · intro h
    rcases Option.isSome_iff_exists.mp ((hinfer (entropyHead functional)).mpr h) with
      ⟨entropys, hentropys⟩
    rcases Option.isSome_iff_exists.mp ((hinfer (logProbHead functional)).mpr h) with
      ⟨oldLogProbs, hlogProbs⟩
    rw [hentropys, hlogProbs]
    rfl

/-- The reference model gives its log-probabilities of the same tokens. -/
theorem computeRefLogProb_eq {reference : EngineModule (ℕ → K)}
    (hreference : reference.Causal policy) (cfg : EngineConfig)
    {promptWidth responseWidth : ℕ} {batch : List (PaddedRow K promptWidth responseWidth)}
    (hprompts : ∀ row ∈ batch, row.prompt ≠ [])
    (haccept : cfg.Accepts (batch.map fun row => row.attentionMask.count true)) :
    computeRefLogProb functional reference cfg batch = some (batch.map fun row =>
      padRight responseWidth 0
        (tokenLogProbs functional policy row.temperature row.prompt row.response)) := by
  rw [computeRefLogProb, inferPadded_eq (logProbHead functional) hreference cfg hprompts haccept]
  rfl

/-- The trainer without padding computes the same ones. -/
theorem computeStoredLogProb_eq (hactor : actor.Causal policy) (cfg : EngineConfig)
    {batch : List (SampledRow K)} (hprompts : ∀ row ∈ batch, row.prompts ≠ [])
    (haccept : cfg.Accepts (batch.map fun row => (row.prompts ++ row.responses).length)) :
    computeStoredLogProb functional actor cfg batch = some
      (batch.map fun row =>
        tokenLogProbs functional policy row.temperature row.prompts row.responses,
      batch.map fun row =>
        tokenEntropies functional policy row.temperature row.prompts row.responses) := by
  rw [computeStoredLogProb, inferNested_eq (entropyHead functional) hactor cfg hprompts haccept,
    inferNested_eq (logProbHead functional) hactor cfg hprompts haccept]
  simp only [Option.bind_eq_bind, Option.bind_some, Option.pure_def, responseOutputs_entropyHead]
  rfl

omit [LinearOrder K] in
/-- The value of a response token is that of the state it is chosen in. -/
theorem computeValues_eq {critic : EngineModule K} {value : List ℕ → K}
    (hcritic : critic.Causal value) (cfg : EngineConfig) {promptWidth responseWidth : ℕ}
    {batch : List (PaddedRow K promptWidth responseWidth)}
    (hprompts : ∀ row ∈ batch, row.prompt ≠ [])
    (haccept : cfg.Accepts (batch.map fun row => row.attentionMask.count true)) :
    computeValues critic cfg batch = some (batch.map fun row => padRight responseWidth 0
      ((range row.response.length).map fun k => value (row.prompt ++ row.response.take k))) := by
  rw [computeValues, inferPadded_eq valueHead hcritic cfg hprompts haccept]
  congr 1
  apply map_congr_left
  intro row _
  congr 1
  apply ext_getElem
  · simp [responseOutputs]
  · intro k hk hk'
    simp [responseOutputs, valueHead]

end Trainers

end SearchR1.EngineForward
