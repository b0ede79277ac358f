import SearchR1.Verification.Engine.Forward

/-! # Padding, and what is read at the places of the responses -/

namespace SearchR1.EngineForward

open MicroBatches WorkerGroup List

variable {K Out β : Type}

/-! ## Offsets -/

theorem scanl_add (l : List ℕ) (a b : ℕ) :
    l.scanl (· + ·) (a + b) = (l.scanl (· + ·) b).map (a + ·) := by
  induction l generalizing b with
  | nil => rfl
  | cons c l ih => rw [scanl_cons, scanl_cons, Nat.add_assoc, ih, map_cons]

theorem cumsum_cons (a : ℕ) (l : List ℕ) : cumsum (a :: l) = a :: (cumsum l).map (a + ·) := by
  have hzero : l.scanl (· + ·) 0 = 0 :: cumsum l := by
    cases l with
    | nil => rfl
    | cons b l => rw [cumsum, scanl_cons, tail_cons]
  rw [cumsum, scanl_cons, tail_cons, Nat.zero_add, ← Nat.add_zero a, scanl_add, hzero, map_cons,
    Nat.add_zero]

theorem getLast_cumsum {l : List ℕ} (hne : l ≠ []) : (cumsum l).getLast? = some l.sum := by
  induction l with
  | nil => exact absurd rfl hne
  | cons a l ih =>
      rw [cumsum_cons]
      cases l with
      | nil => rfl
      | cons b l =>
          rw [getLast?_cons, getLast?_map, ih (cons_ne_nil b l), sum_cons]
          rfl

theorem forall₂_cumsum {rs ns : List ℕ} (h : Forall₂ (fun r n => r + 1 ≤ n) rs ns) :
    Forall₂ (fun r offset => r + 1 ≤ offset) rs (cumsum ns) := by
  induction h with
  | nil => exact Forall₂.nil
  | cons hrn _ ih =>
      rw [cumsum_cons]
      refine Forall₂.cons hrn (forall₂_map_right_iff.mpr (ih.imp ?_))
      intro r offset hle
      exact hle.trans (Nat.le_add_left offset _)

theorem shiftedSlice_append_left {values : List β} {r : ℕ} (rest : List β) :
    shiftedSlice (values ++ rest) r values.length = shiftedSlice values r values.length := by
  rw [shiftedSlice, shiftedSlice, take_append_of_le_length (Nat.sub_le _ _)]

theorem shiftedSlice_append_right {r offset : ℕ} (values rest : List β) (h : r + 1 ≤ offset) :
    shiftedSlice (values ++ rest) r (values.length + offset) = shiftedSlice rest r offset := by
  have htake : values.length + offset - 1 = values.length + (offset - 1) := by omega
  have hdrop : values.length + offset - r - 1 = values.length + (offset - r - 1) := by omega
  rw [shiftedSlice, shiftedSlice, htake, hdrop, take_length_add_append, drop_length_add_append]

/-- The slices of a packed tensor are slices of its rows. -/
theorem zipWith_shiftedSlice {responseLens : List ℕ} {outputs : List (List β)}
    (h : Forall₂ (fun r row => r + 1 ≤ row.length) responseLens outputs) :
    zipWith (shiftedSlice outputs.flatten) responseLens (cumsum (outputs.map length)) =
      zipWith (fun r row => shiftedSlice row r row.length) responseLens outputs := by
  induction h with
  | nil => rfl
  | @cons r row responseLens outputs hrow hrows ih =>
      have hoffsets := forall₂_cumsum (forall₂_map_right_iff.mpr hrows)
      have hcongr := zipWith_congr (fun r offset => shiftedSlice (row ++ outputs.flatten) r
        (row.length + offset)) (shiftedSlice outputs.flatten) _ _
        (hoffsets.imp fun r offset hle => shiftedSlice_append_right row outputs.flatten hle)
      rw [map_cons, cumsum_cons, flatten_cons, zipWith_cons_cons, zipWith_cons_cons,
        zipWith_map_right, hcongr, ih, shiftedSlice_append_left]

/-! ## Rows without their padding -/

theorem select_computePositionIdWithMask (mask : List Bool) :
    Masked.select id mask (computePositionIdWithMask mask) = range (mask.count true) := by
  have hfrom : ∀ start, Masked.select id mask
      ((cumsum (mask.map Bool.toNat)).map fun sum => start + sum - 1) =
        range' start (mask.count true) := by
    induction mask with
    | nil => intro start; rfl
    | cons keep mask ih =>
        intro start
        rw [map_cons, cumsum_cons, map_cons, map_map]
        cases keep with
        | true =>
            have hnext := ih (start + 1)
            rw [Masked.select_cons_of_pos id rfl, count_cons_self, range'_succ, ← hnext]
            congr 2
            apply map_congr_left
            intro sum _
            simp only [Function.comp_apply, Bool.toNat_true]
            omega
        | false =>
            rw [Masked.select_cons_of_neg id rfl, count_cons_of_ne Bool.false_ne_true, ← ih start]
            congr 1
            apply map_congr_left
            intro sum _
            simp only [Function.comp_apply, Bool.toNat_false, Nat.zero_add]
  have hzero := hfrom 0
  rw [← range_eq_range'] at hzero
  rw [← hzero, computePositionIdWithMask]
  congr 1
  apply map_congr_left
  intro sum _
  rw [Nat.zero_add]

theorem length_select_id {mask : List Bool} {ids : List β} (h : ids.length = mask.length) :
    (Masked.select id mask ids).length = mask.count true := by
  rw [Masked.length_select id h, count_eq_length_filter]
  congr 1
  apply filter_congr
  intro keep _
  cases keep <;> rfl

section Rows

variable {promptWidth responseWidth : ℕ}

/-- The tokens of a row's prompt. -/
def PaddedRow.prompt (row : PaddedRow K promptWidth responseWidth) : List ℕ :=
  Masked.select id (row.attentionMask.take promptWidth) (row.inputIds.take promptWidth)

/-- The tokens of a row's response. -/
def PaddedRow.response (row : PaddedRow K promptWidth responseWidth) : List ℕ :=
  Masked.select id (row.attentionMask.drop promptWidth) (row.inputIds.drop promptWidth)

/-- A row without its padding. -/
def PaddedRow.unpadded (row : PaddedRow K promptWidth responseWidth) : Sequence K :=
  ⟨row.prompt ++ row.response, range (row.prompt ++ row.response).length, row.temperature⟩

theorem PaddedRow.length_prompt (row : PaddedRow K promptWidth responseWidth) :
    row.prompt.length = (row.attentionMask.take promptWidth).count true :=
  length_select_id (by
    rw [length_take, length_take, row.length_inputIds, row.length_attentionMask])

theorem PaddedRow.length_response (row : PaddedRow K promptWidth responseWidth) :
    row.response.length = (row.attentionMask.drop promptWidth).count true :=
  length_select_id (by
    rw [length_drop, length_drop, row.length_inputIds, row.length_attentionMask])

theorem PaddedRow.prompt_append_response (row : PaddedRow K promptWidth responseWidth) :
    row.prompt ++ row.response = Masked.select id row.attentionMask row.inputIds := by
  have hlength : (row.inputIds.take promptWidth).length =
      (row.attentionMask.take promptWidth).length := by
    rw [length_take, length_take, row.length_inputIds, row.length_attentionMask]
  rw [PaddedRow.prompt, PaddedRow.response, ← Masked.select_append id hlength,
    take_append_drop, take_append_drop]

theorem PaddedRow.length_unpadded (row : PaddedRow K promptWidth responseWidth) :
    row.unpadded.inputIds.length = row.attentionMask.count true := by
  rw [PaddedRow.unpadded, row.prompt_append_response,
    length_select_id (row.length_inputIds.trans row.length_attentionMask.symm)]

/-- Unpadding the whole batch at once unpads its rows. -/
theorem leftRight2NoPadding_eq (batch : List (PaddedRow K promptWidth responseWidth)) :
    leftRight2NoPadding batch = batch.map PaddedRow.unpadded := by
  have hselect : Masked.select id (batch.flatMap PaddedRow.attentionMask)
      (batch.flatMap PaddedRow.inputIds) =
        (batch.map fun row => row.unpadded.inputIds).flatten := by
    induction batch with
    | nil => rfl
    | cons row batch ih =>
        rw [flatMap_cons, flatMap_cons, map_cons, flatten_cons, ← ih,
          Masked.select_append id (row.length_inputIds.trans row.length_attentionMask.symm)]
        exact congrArg (· ++ _) row.prompt_append_response.symm
  have hlengths : (batch.map fun row => row.attentionMask.count true) =
      (batch.map fun row => row.unpadded.inputIds).map length := by
    rw [map_map]
    exact map_congr_left fun row _ => row.length_unpadded.symm
  rw [leftRight2NoPadding]
  simp only [hselect, hlengths, Jagged.splitLengths_flatten, zipWith_map_right, zipWith_self]
  apply map_congr_left
  intro row _
  rw [select_computePositionIdWithMask, ← row.length_unpadded]
  rfl

end Rows

/-! ## What is read for a response -/

/-- For every response token, the output at the token before it: that for the prompt and the
response so far. -/
def responseOutputs (head : K → Out → ℕ → β) (next : List ℕ → Out) (temperature : K)
    (prompt response : List ℕ) : List β :=
  response.zipIdx.map fun token =>
    head temperature (next (prompt ++ response.take token.2)) token.1

variable (head : K → Out → ℕ → β) (next : List ℕ → Out)

/-- The slice of a row that is read for its response. -/
theorem shiftedSlice_of_dropLast {row : Sequence K} {prompt response : List ℕ} {outputs : List β}
    (hids : row.inputIds = prompt ++ response) (hprompt : prompt ≠ [])
    (hlength : outputs.length = row.inputIds.length)
    (houtputs : outputs.dropLast = shiftedOutputs head next row) :
    shiftedSlice outputs response.length outputs.length =
      responseOutputs head next row.temperature prompt response := by
  rw [hids] at hlength
  have hpos := length_pos_of_ne_nil hprompt
  have hdrop : outputs.length - response.length - 1 = prompt.length - 1 := by
    rw [hlength, length_append]
    omega
  have htail : (prompt ++ response).tail.drop (prompt.length - 1) = response := by
    rw [← drop_one, drop_drop, Nat.add_sub_cancel' hpos, drop_left]
  have hcontext : (prefixOutputs next (prompt ++ response)).dropLast.drop (prompt.length - 1) =
      (range response.length).map fun k => next (prompt ++ response.take k) := by
    apply ext_getElem
    · rw [length_drop, length_dropLast, length_prefixOutputs, length_map, length_range,
        length_append]
      omega
    · intro k hk hk'
      have hsucc : prompt.length - 1 + k + 1 = prompt.length + k := by omega
      simp only [prefixOutputs, getElem_drop, getElem_dropLast, getElem_map, getElem_range, hsucc,
        take_length_add_append]
  rw [shiftedSlice, ← dropLast_eq_take, houtputs, hdrop, shiftedOutputs, hids, drop_zipWith, htail,
    hcontext, responseOutputs]
  apply ext_getElem
  · simp
  · intro k hk hk'
    simp

/-- A batch whose rows are read as sequences of a prompt and a response. -/
structure ReadAs {α : Type} (toSequence : α → Sequence K) (prompt response : α → List ℕ)
    (batch : List α) : Prop where
  wellFormed : ∀ a ∈ batch, (toSequence a).WellFormed
  inputIds_eq : ∀ a ∈ batch, (toSequence a).inputIds = prompt a ++ response a
  prompt_ne_nil : ∀ a ∈ batch, prompt a ≠ []

section Inference

variable [One K] {self : EngineModule Out} {next} (hcausal : self.Causal next) {α : Type}
  {toSequence : α → Sequence K} {prompt response : α → List ℕ} {batch : List α}
  (hread : ReadAs toSequence prompt response batch)

include hcausal hread in
/-- The response of every row is read at its place in what the workers return. -/
theorem inferBatch_responses {cfg : EngineConfig}
    (haccept : cfg.Accepts (batch.map fun a => (toSequence a).inputIds.length)) :
    ∃ outputs, inferBatch self head cfg (batch.map toSequence) = some outputs ∧
      outputs.map length = batch.map (fun a => (prompt a).length + (response a).length) ∧
      zipWith (shiftedSlice outputs.flatten) (batch.map fun a => (response a).length)
          (cumsum (outputs.map length)) =
        batch.map fun a => responseOutputs head next (toSequence a).temperature (prompt a)
          (response a) := by
  have hwell : ∀ row ∈ batch.map toSequence, row.WellFormed :=
    forall_mem_map.mpr hread.wellFormed
  have hlens : cfg.Accepts ((batch.map toSequence).map fun row => row.inputIds.length) := by
    rw [map_map]
    exact haccept
  rcases inferBatch_reads hcausal head cfg hwell hlens with ⟨outputs, houtputs, hrows⟩
  rw [map_map] at hrows
  have hpair : Forall₂ (fun a outputs => outputs.length = (prompt a).length + (response a).length ∧
      (response a).length + 1 ≤ outputs.length ∧
        shiftedSlice outputs (response a).length outputs.length =
          responseOutputs head next (toSequence a).temperature (prompt a) (response a))
      batch outputs := by
    rw [forall₂_iff_get]
    have hlength := congrArg length hrows
    rw [length_map, length_map] at hlength
    refine ⟨hlength.symm, ?_⟩
    intro i hi hi'
    have hmem : batch.get ⟨i, hi⟩ ∈ batch := getElem_mem hi
    have hget := congrArg (fun l => l[i]?) hrows
    simp only [getElem?_map, getElem?_eq_getElem hi, getElem?_eq_getElem hi', Option.map_some,
      Option.some_inj] at hget
    rcases Prod.mk.inj hget with ⟨hrowLength, hdropLast⟩
    have hids := hread.inputIds_eq _ hmem
    have hne := hread.prompt_ne_nil _ hmem
    have hpos := length_pos_of_ne_nil hne
    have hsum : (outputs.get ⟨i, hi'⟩).length =
        (prompt (batch.get ⟨i, hi⟩)).length + (response (batch.get ⟨i, hi⟩)).length := by
      rw [← length_append, ← hids]
      exact hrowLength
    exact ⟨hsum, by omega, shiftedSlice_of_dropLast head next hids hne hrowLength hdropLast⟩
  refine ⟨outputs, houtputs, ?_, ?_⟩
  · rw [← forall₂_eq_eq_eq, forall₂_map_left_iff, forall₂_map_right_iff]
    exact (hpair.imp fun _ _ h => h.1).flip
  · rw [zipWith_shiftedSlice (forall₂_map_left_iff.mpr (hpair.imp fun _ _ h => h.2.1)),
      zipWith_map_left]
    have hresponses := Jagged.map_zipWith_of_forall₂ (p := id)
      (g := fun a (outputs : List β) => shiftedSlice outputs (response a).length outputs.length)
      (fun _ _ h => h.2.2) hpair
    rwa [map_id] at hresponses

end Inference

theorem EngineConfig.Accepts.ne_nil {cfg : EngineConfig} {seqLens : List ℕ}
    (h : cfg.Accepts seqLens) : seqLens ≠ [] := by
  intro hnil
  apply (h.2 0 cfg.mesh.dpSize_pos).ne_nil
  rw [hnil, Mesh.rankRows, drop_nil, take_nil]

/-! ## Padded batches -/

section Padded

variable [One K] {self : EngineModule Out} {next} (hcausal : self.Causal next)
  {promptWidth responseWidth : ℕ} {batch : List (PaddedRow K promptWidth responseWidth)}

omit [One K] in
theorem readAs_unpadded (hprompts : ∀ row ∈ batch, row.prompt ≠ []) :
    ReadAs PaddedRow.unpadded PaddedRow.prompt PaddedRow.response batch where
  wellFormed row hrow := ⟨append_ne_nil_of_left_ne_nil (hprompts row hrow) _, rfl⟩
  inputIds_eq _ _ := rfl
  prompt_ne_nil := hprompts

include hcausal in
/-- A padded batch comes back with what was read for the tokens of its responses, padded with
zeros. -/
theorem inferPadded_eq [Zero β] (cfg : EngineConfig)
    (hprompts : ∀ row ∈ batch, row.prompt ≠ [])
    (haccept : cfg.Accepts (batch.map fun row => row.attentionMask.count true)) :
    inferPadded self head cfg batch = some (batch.map fun row => padRight responseWidth 0
      (responseOutputs head next row.temperature row.prompt row.response)) := by
  have hne : batch ≠ [] := fun hnil => haccept.ne_nil (by rw [hnil]; rfl)
  have hlens : (batch.map fun row => row.attentionMask.count true) =
      batch.map fun row => row.unpadded.inputIds.length :=
    map_congr_left fun row _ => row.length_unpadded.symm
  rw [hlens] at haccept
  rcases inferBatch_responses head hcausal (readAs_unpadded hprompts) haccept with
    ⟨outputs, houtputs, hlengths, hslices⟩
  have hprompt : (batch.map fun row => (row.attentionMask.take promptWidth).count true) =
      batch.map fun row => row.prompt.length :=
    map_congr_left fun row _ => row.length_prompt.symm
  have hresponse : (batch.map fun row => (row.attentionMask.drop promptWidth).count true) =
      batch.map fun row => row.response.length :=
    map_congr_left fun row _ => row.length_response.symm
  have hsum : zipWith (· + ·) (batch.map fun row => row.prompt.length)
      (batch.map fun row => row.response.length) = outputs.map length := by
    rw [hlengths, zipWith_map, zipWith_self]
  have hlast : (cumsum (outputs.map length)).getLast? = some outputs.flatten.length := by
    rw [getLast_cumsum, length_flatten]
    intro hnil
    rw [hlengths, map_eq_nil_iff] at hnil
    exact hne hnil
  have hpos : 0 ∉ batch.map fun row => row.prompt.length := by
    intro hzero
    rcases mem_map.mp hzero with ⟨row, hrow, hlength⟩
    exact hprompts row hrow (length_eq_zero_iff.mp hlength)
  have hpad : zipWith (fun respLen seqOffset =>
      padRight responseWidth 0 (shiftedSlice outputs.flatten respLen seqOffset))
      (batch.map fun row => row.response.length) (cumsum (outputs.map length)) =
        batch.map fun row => padRight responseWidth 0
          (responseOutputs head next row.temperature row.prompt row.response) := by
    have hmap := congrArg (map (padRight responseWidth 0)) hslices
    rw [map_zipWith, map_map] at hmap
    exact hmap
  rw [inferPadded, leftRight2NoPadding_eq, houtputs, Option.bind_eq_bind, Option.bind_some,
    noPadding2Padding, hprompt, hresponse]
  simp only [hsum]
  rw [if_pos ⟨hlast, hpos⟩, hpad]

theorem noPadding2Padding_isSome [Zero β] {promptLens responseLens : List ℕ}
    {maxResponseLen : ℕ} {values : List β}
    (h : (noPadding2Padding promptLens responseLens maxResponseLen values).isSome) :
    0 ∉ promptLens := by
  by_contra hzero
  rw [noPadding2Padding, if_neg fun hchecks => hchecks.2 hzero] at h
  cases h

include hcausal in
/-- Inference on a padded batch raises exactly when a rank cannot cut its rows or a prompt is
empty. -/
theorem inferPadded_isSome_iff [Zero β] (cfg : EngineConfig) :
    (inferPadded self head cfg batch).isSome ↔
      cfg.Accepts (batch.map fun row => row.attentionMask.count true) ∧
        ∀ row ∈ batch, row.prompt ≠ [] := by
  constructor
  · intro h
    rw [Option.isSome_iff_exists] at h
    rcases h with ⟨padded, hpadded⟩
    rw [inferPadded, Option.bind_eq_bind, Option.bind_eq_some_iff] at hpadded
    rcases hpadded with ⟨output, houtput, hpadding⟩
    have haccept : cfg.Accepts ((leftRight2NoPadding batch).map fun row => row.inputIds.length) := by
      by_contra hreject
      rw [inferBatch_eq_none head cfg hreject] at houtput
      cases houtput
    rw [leftRight2NoPadding_eq, map_map] at haccept
    refine ⟨?_, ?_⟩
    · rw [map_congr_left fun row _ => row.length_unpadded.symm]
      exact haccept
    · intro row hrow hprompt
      apply noPadding2Padding_isSome (Option.isSome_of_eq_some hpadding)
      rw [mem_map]
      exact ⟨row, hrow, by rw [← row.length_prompt, hprompt]; rfl⟩
  · intro h
    rw [inferPadded_eq head hcausal cfg h.2 h.1]
    rfl

end Padded

/-! ## Stored trajectories -/

section Stored

variable [One K] {self : EngineModule Out} {next} (hcausal : self.Causal next)
  {batch : List (SampledRow K)}

omit [One K] in
theorem readAs_toSequence (hprompts : ∀ row ∈ batch, row.prompts ≠ []) :
    ReadAs SampledRow.toSequence SampledRow.prompts SampledRow.responses batch where
  wellFormed row hrow := by
    refine ⟨append_ne_nil_of_left_ne_nil (hprompts row hrow) _, ?_⟩
    have hall := select_computePositionIdWithMask
      (replicate (row.prompts ++ row.responses).length true)
    rw [count_replicate_self, Masked.select_of_forall] at hall
    · exact hall
    · intro keep hkeep
      exact eq_of_mem_replicate hkeep
    · rw [computePositionIdWithMask, length_map, cumsum, length_tail, length_scanl, length_map]
      rfl
  inputIds_eq _ _ := rfl
  prompt_ne_nil := hprompts

include hcausal in
/-- A stored batch comes back with what was read for the tokens of its responses. -/
theorem inferNested_eq (cfg : EngineConfig) (hprompts : ∀ row ∈ batch, row.prompts ≠ [])
    (haccept : cfg.Accepts (batch.map fun row => (row.prompts ++ row.responses).length)) :
    inferNested self head cfg batch = some (batch.map fun row =>
      responseOutputs head next row.temperature row.prompts row.responses) := by
  rcases inferBatch_responses head hcausal (readAs_toSequence hprompts) haccept with
    ⟨outputs, houtputs, _, hslices⟩
  rw [inferNested, houtputs, Option.map_some, responseFromNested, hslices]
  rfl

end Stored

end SearchR1.EngineForward
