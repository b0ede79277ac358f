import SearchR1.Verification.ReplayBuffer.Staleness

/-! # The batches that the trainer balances -/

namespace SearchR1.ReplayBuffer

open PyText List SeqlenBalancing KarmarkarKarp

variable {cfg : FitConfig} {globalSteps : ℤ} {padUid : Text}

/-! ## The multiple -/

theorem dpSize_dvd (cfg : FitConfig) (globalSteps : ℤ) :
    cfg.dpSize ∣ requiredBatchMultiple cfg globalSteps := by
  cases hcritic : cfg.criticMiniBatchSize with
  | none =>
      simp only [requiredBatchMultiple, hcritic]
      split
      · exact Nat.dvd_lcm_left _ _
      · exact Nat.dvd_refl _
  | some size =>
      simp only [requiredBatchMultiple, hcritic]
      split
      · exact (Nat.dvd_lcm_left _ _).trans (Nat.dvd_lcm_left _ _)
      · exact Nat.dvd_lcm_left _ _

theorem critic_dvd {size : ℕ} (h : cfg.criticMiniBatchSize = some size) (globalSteps : ℤ) :
    size * cfg.rolloutN ∣ requiredBatchMultiple cfg globalSteps := by
  simp only [requiredBatchMultiple, h]
  split
  · exact (Nat.dvd_lcm_right _ _).trans (Nat.dvd_lcm_left _ _)
  · exact Nat.dvd_lcm_right _ _

theorem actor_dvd (h : cfg.criticWarmup ≤ globalSteps) :
    cfg.actorMiniBatchSize * cfg.rolloutN ∣ requiredBatchMultiple cfg globalSteps := by
  rw [requiredBatchMultiple, if_pos h]
  exact Nat.dvd_lcm_right _ _

/-! ## The padding -/

/-- What is added to a batch. -/
structure PaddingSpec (multiple : ℕ) (batch padding : List (Text × Tag)) : Prop where
  length_lt : padding.length < multiple
  dvd : multiple ∣ (batch ++ padding).length
  nodup : (padding.map Prod.fst).Nodup
  tag : ∀ item ∈ padding, item.2.isPadding = some true ∧ item.2.seqLen = some 2

theorem exists_paddingItems (hpad : IsPadUid padUid) {multiple : ℕ} (hpos : 0 < multiple)
    (batch : List (Text × Tag)) :
    ∃ padding, paddingItems padUid multiple batch = some padding ∧
      PaddingSpec multiple batch padding := by
  by_cases hzero : batch.length % multiple = 0
  · refine ⟨[], (if_neg hpos.ne').trans (if_pos hzero), ?_⟩
    exact ⟨hpos, by simpa using Nat.dvd_of_mod_eq_zero hzero, nodup_nil,
      fun item hitem => by cases hitem⟩
  · have hlt := Nat.mod_lt batch.length hpos
    refine ⟨_, (if_neg hpos.ne').trans (if_neg hzero), ?_⟩
    refine ⟨?_, ?_, ?_, ?_⟩
    · rw [length_map, length_range]
      omega
    · rw [length_append, length_map, length_range]
      refine ⟨batch.length / multiple + 1, ?_⟩
      have hdiv := Nat.div_add_mod batch.length multiple
      rw [Nat.mul_add, Nat.mul_one]
      omega
    · rw [map_map]
      apply nodup_range.map
      intro i i' he
      exact (trajectoryKey_injective hpad.not_mem hpad.not_mem he).2.1
    · intro item hitem
      rcases mem_map.mp hitem with ⟨i, -, rfl⟩
      exact ⟨rfl, rfl⟩

/-! ## The order -/

/-- The work that the trainer expects of an item. -/
def workload (item : Text × Tag) : ℕ := calculateWorkload (item.2.seqLen.getD 0)

/-- The ranks get equal chunks of a balanced batch. -/
def rankItems (dpSize : ℕ) (ordered : List (Text × Tag)) : List (List (Text × Tag)) :=
  Chunks.chunks (ordered.length / dpSize) dpSize ordered

theorem balancedOrder_eq {dpSize : ℕ} {batch : List (Text × Tag)}
    (hseq : ∀ item ∈ batch, ∃ len, item.2.seqLen = some len) :
    balancedOrder dpSize batch =
      (KarmarkarKarp.getSeqlenBalancedPartitions (fun i => workload (batch.get i)) dpSize true).map
        fun partitions => partitions.flatten.map batch.get := by
  have hmap : batch.mapM (fun item : Text × Tag => item.2.seqLen) =
      some (batch.map fun item => item.2.seqLen.getD 0) := by
    rw [PyLoop.mapM_some_iff, forall₂_map_right_iff, forall₂_same]
    intro item hitem
    rcases hseq item hitem with ⟨len, hlen⟩
    rw [hlen]
    rfl
  rw [balancedOrder, hmap]
  simp only [Option.bind_some]
  congr 2
  funext i
  simp [workload]

/-- The ranks of the balanced order are its partitions. -/
theorem rankItems_flatten {batch : List (Text × Tag)} {dpSize : ℕ}
    {partitions : List (List (Fin batch.length))} (hlength : partitions.length = dpSize)
    (hperm : partitions.flatten ~ finRange batch.length)
    (hequal : ∀ part ∈ partitions, part.length * dpSize = batch.length) :
    rankItems dpSize (partitions.flatten.map batch.get) =
      partitions.map fun part => part.map batch.get := by
  subst hlength
  have hlen : (partitions.flatten.map batch.get).length = batch.length := by
    rw [length_map, hperm.length_eq, length_finRange]
  have hsize : ∀ part ∈ partitions.map fun part => part.map batch.get,
      part.length = batch.length / partitions.length := by
    rw [forall_mem_map]
    intro part hpart
    rw [length_map]
    exact (Nat.div_eq_of_eq_mul_left (length_pos_of_mem hpart) (hequal part hpart).symm).symm
  have hchunks := Chunks.chunks_flatten hsize
  rw [length_map] at hchunks
  rw [rankItems, hlen, map_flatten, hchunks]

/-- Balancing is the padding and then the partitions. -/
theorem balanceBatch_eq {batch padding : List (Text × Tag)}
    (hseq : ∀ item ∈ batch, ∃ len, item.2.seqLen = some len)
    (hpadding : paddingItems padUid (requiredBatchMultiple cfg globalSteps) batch = some padding)
    (hspec : PaddingSpec (requiredBatchMultiple cfg globalSteps) batch padding) :
    balanceBatch cfg globalSteps padUid batch =
      ((KarmarkarKarp.getSeqlenBalancedPartitions
        (fun i => workload ((batch ++ padding).get i)) cfg.dpSize true).map
          fun partitions => partitions.flatten.map (batch ++ padding).get).map
            fun ordered => (padding, ordered) := by
  have hseq' : ∀ item ∈ batch ++ padding, ∃ len, item.2.seqLen = some len := by
    intro item hitem
    rcases mem_append.mp hitem with hitem | hitem
    · exact hseq item hitem
    · exact ⟨2, (hspec.tag item hitem).2⟩
  rw [balanceBatch, hpadding, Option.bind_some, balancedOrder_eq hseq']

theorem balanceBatch_isSome (hpad : IsPadUid padUid) {batch : List (Text × Tag)}
    (hseq : ∀ item ∈ batch, ∃ len, item.2.seqLen = some len) (hdp : 0 < cfg.dpSize)
    (hpos : 0 < requiredBatchMultiple cfg globalSteps) :
    (balanceBatch cfg globalSteps padUid batch).isSome ↔ batch ≠ [] := by
  rcases exists_paddingItems hpad hpos batch with ⟨padding, hpadding, hspec⟩
  have hdvd := (dpSize_dvd cfg globalSteps).trans hspec.dvd
  rw [balanceBatch_eq hseq hpadding hspec, Option.isSome_map, Option.isSome_map,
    getSeqlenBalancedPartitions_isSome, ValidCall]
  constructor
  · intro h he
    subst he
    have hzero := Nat.eq_zero_of_dvd_of_lt hspec.dvd (by simpa using hspec.length_lt)
    omega
  · intro hne
    refine ⟨hdp, Nat.le_of_dvd ?_ hdvd, fun _ => hdvd⟩
    rw [length_append]
    exact Nat.add_pos_left (length_pos_iff.mpr hne) _

/-- A batch is balanced unless it is empty. It is first filled up with the fewest items that make
it divisible for the ranks and for the mini-batches of the critic and the actor; then every rank
gets equally many items, with workloads that differ by no more than those of two items. -/
theorem balanceBatch_complete (cfg : FitConfig) (globalSteps : ℤ) {padUid : Text}
    (hpad : IsPadUid padUid) {batch : List (Text × Tag)}
    (hseq : ∀ item ∈ batch, ∃ len, item.2.seqLen = some len) (hdp : 0 < cfg.dpSize)
    (hpos : 0 < requiredBatchMultiple cfg globalSteps) :
    ((balanceBatch cfg globalSteps padUid batch).isSome ↔ batch ≠ []) ∧
    ∀ padding ordered, balanceBatch cfg globalSteps padUid batch = some (padding, ordered) →
      ordered ~ batch ++ padding ∧
      PaddingSpec (requiredBatchMultiple cfg globalSteps) batch padding ∧
      cfg.dpSize ∣ ordered.length ∧
      (∀ size, cfg.criticMiniBatchSize = some size → size * cfg.rolloutN ∣ ordered.length) ∧
      (cfg.criticWarmup ≤ globalSteps → cfg.actorMiniBatchSize * cfg.rolloutN ∣ ordered.length) ∧
      (∀ rank ∈ rankItems cfg.dpSize ordered, rank.length * cfg.dpSize = ordered.length) ∧
      ∀ bound, (∀ item ∈ ordered, ∀ item' ∈ ordered, workload item ≤ workload item' + bound) →
        ∀ rank ∈ rankItems cfg.dpSize ordered, ∀ rank' ∈ rankItems cfg.dpSize ordered,
          (rank.map workload).sum ≤ (rank'.map workload).sum + bound := by
  refine ⟨balanceBatch_isSome hpad hseq hdp hpos, ?_⟩
  rcases exists_paddingItems hpad hpos batch with ⟨padding₀, hpadding, hspec⟩
  intro padding ordered h
  rw [balanceBatch_eq hseq hpadding hspec] at h
  rcases Option.map_eq_some_iff.mp h with ⟨ordered', h, he⟩
  cases he
  rcases Option.map_eq_some_iff.mp h with ⟨partitions, hpartitions, rfl⟩
  have hpart := (partitionSpec_of_getSeqlenBalancedPartitions hpartitions
    (startBound_sum _ true)).2.1
  have hordered : partitions.flatten.map (batch ++ padding₀).get ~ batch ++ padding₀ := by
    have hmap := hpart.perm.map (batch ++ padding₀).get
    rwa [← ofFn_eq_map, ofFn_get] at hmap
  have hranks := rankItems_flatten hpart.length_eq hpart.perm (hpart.equal rfl)
  have hdvd := hordered.length_eq ▸ hspec.dvd
  refine ⟨hordered, hspec, (dpSize_dvd cfg globalSteps).trans hdvd,
    fun size hsize => (critic_dvd hsize globalSteps).trans hdvd,
    fun hwarm => (actor_dvd hwarm).trans hdvd, ?_, ?_⟩
  · rw [hranks, forall_mem_map, hordered.length_eq]
    intro part hmem
    rw [length_map]
    exact hpart.equal rfl part hmem
  · intro bound hbound
    rw [hranks]
    simp only [forall_mem_map, map_map]
    apply load_le_load_add hpartitions
    refine ⟨fun i j => hbound _ ?_ _ ?_, fun h => Bool.noConfusion h⟩
    · exact hordered.symm.subset (get_mem _ i)
    · exact hordered.symm.subset (get_mem _ j)

/-- Two ranks that train on two trajectories at a time. -/
def twoRanks : FitConfig :=
  { onePromptPerRank .wait 2 Nat.two_pos with
    criticMiniBatchSize := some 2
    actorMiniBatchSize := 2 }

theorem balanceBatch_complete_twoRanks :
    (balanceBatch twoRanks 1 (lit "pad")
      (sessionItems (lit "a") 1 0 [⟨1, 2, none, none⟩, ⟨2, 2, none, none⟩, ⟨1, 1, none, none⟩])
    ).isSome := by
  have hpad : IsPadUid (lit "pad") := ⟨[], rfl, fun _ h => absurd h not_mem_nil⟩
  refine (balanceBatch_complete twoRanks 1 hpad ?_ two_pos (by decide)).1.mpr (cons_ne_nil _ _)
  intro item hitem
  rcases mem_sessionItems.mp hitem with ⟨j, output, -, rfl⟩
  exact ⟨_, rfl⟩

/-! ## The trainer goes on -/

section Progress

variable {tq : TransferQueue} {s : System tq} {samples : List Sample}

/-- When all prompts have ended there is enough to sample. -/
theorem hasEnoughSamples_of_ended (hledger : Ledger cfg s samples) (hinv : Inv s samples)
    {updates : ℕ} {m₀ : Option Metadata} (hphase : s.phase = .sampling updates m₀) {m : Metadata}
    (hreads : m.Reads (tq.kvList s.store .train))
    (hended : ∀ uid task, s.tasks.get? uid = some task → uid ∉ taken samples → task.Ended) :
    hasEnoughSamples cfg.sampler m s.globalSteps cfg.sampleBatchSize := by
  have hnone : ∀ {status}, status = .pending ∨ status = .running → m.keysOf status = [] := by
    intro status hstatus
    apply eq_nil_iff_forall_not_mem.mpr
    intro uid huid
    rcases (hinv.mem_keysOf hreads).mp huid with ⟨task, htask, hnot, he⟩
    rcases hended uid task htask hnot with hfinal | hfinal <;> rw [hfinal] at he <;>
      rcases hstatus with rfl | rfl <;> cases he
  have hpending : m.pendingKeys = [] := hnone (.inl rfl)
  have hrunning : m.runningKeys = [] := hnone (.inr rfl)
  have hsub : openUids s samples ⊆ m.finishedKeys ++ m.failureKeys := by
    intro uid huid
    rcases mem_openUids.mp huid with ⟨hkey, hnot⟩
    rcases Inv.exists_task hkey with ⟨task, htask⟩
    rw [mem_append]
    rcases hended uid task htask hnot with he | he
    · have hmem : uid ∈ m.keysOf .finished :=
        (hinv.mem_keysOf hreads).mpr ⟨task, htask, hnot, he⟩
      exact .inl hmem
    · have hmem : uid ∈ m.keysOf .failure :=
        (hinv.mem_keysOf hreads).mpr ⟨task, htask, hnot, he⟩
      exact .inr hmem
  have hle := (subperm_of_subset (nodup_openUids hinv) hsub).length_le
  have hcount := hledger.length
  have hin := hledger.inStep
  rw [hphase] at hcount hin
  simp only [Phase.taken, Phase.toWarmUp, Phase.submitted, Nat.add_zero] at hcount
  rcases hin with ⟨hpos, hupdates⟩
  have hall : (cfg.parameterSyncStep - updates) * cfg.sampleBatchSize +
      updates * cfg.sampleBatchSize = cfg.trainBatchSize := by
    rw [← Nat.add_mul, Nat.sub_add_cancel hupdates, Ledger.sampleBatches]
  have hone : cfg.sampleBatchSize ≤ updates * cfg.sampleBatchSize :=
    Nat.le_mul_of_pos_left _ hpos
  rw [length_append] at hle
  rw [hasEnoughSamples, hpending, hrunning, if_neg (by simp), decide_eq_true_eq]
  omega

/-- Nothing blocks the trainer. It can always read the store, and once all prompts have ended there
is enough to sample, in every update of every step; what it sampled it can balance, unless the
prompts have not left a single trajectory. -/
theorem trainer_proceeds (h : Runs.Run (System.machine cfg tq) s samples) :
    (∀ updates m₀, s.phase = .sampling updates m₀ →
      ∃ metadata, syncMetadata tq s.store = .ok metadata ∧
        ((∀ uid task, s.tasks.get? uid = some task → uid ∉ samples.flatMap Sample.selected →
          task.Ended) →
          hasEnoughSamples cfg.sampler (metadata .train) s.globalSteps cfg.sampleBatchSize)) ∧
    ∀ updates batch padUid, s.phase = .balancing updates batch → IsPadUid padUid →
      0 < cfg.dpSize → 0 < requiredBatchMultiple cfg s.globalSteps →
      ((balanceBatch cfg s.globalSteps padUid batch).isSome ↔ batch ≠ []) := by
  have hinv := inv_of_run h
  constructor
  · intro updates m₀ hphase
    rcases hinv.exists_sync with ⟨metadata, hmetadata, hreads⟩
    exact ⟨metadata, hmetadata, fun hended =>
      hasEnoughSamples_of_ended (ledger_of_run h) hinv hphase hreads hended⟩
  · intro updates batch padUid hphase hpad hdp hpos
    apply balanceBatch_isSome hpad _ hdp hpos
    intro item hitem
    rcases hinv.batch updates batch hphase item hitem with ⟨task, -, hmem⟩
    rcases Task.exists_tag hmem with ⟨output, htag⟩
    exact ⟨_, by rw [htag]; rfl⟩

/-- A step whose prompt has finished. -/
theorem trainer_proceeds_onePrompt : ∃ (s : System dictQueue) (samples : List Sample),
    Runs.Run (System.machine (onePrompt .wait) dictQueue) s samples ∧
      ∃ metadata, syncMetadata dictQueue s.store = .ok metadata ∧
        hasEnoughSamples (onePrompt .wait).sampler (metadata .train) s.globalSteps 1 := by
  have huuid : IsUuid (lit "a") := by simp [IsUuid, lit]
  have hinit : Runs.Run (System.machine (onePrompt .wait) dictQueue) emptySystem [] :=
    .init ⟨fun _ => rfl, rfl, rfl, rfl⟩
  have hadd := hinit.step ⟨.addBatch [(lit "a", none)],
    ⟨rfl, nodup_singleton _, fun prompt h => mem_singleton.mp h ▸ huuid⟩, rfl⟩
  have hstart := hadd.step ⟨.task (lit "a") .start, trivial, rfl⟩
  have hreturn := hstart.step ⟨.task (lit "a") (.sessionReturns 0 []), trivial, rfl⟩
  have hfinish := hreturn.step ⟨.task (lit "a") .finish, trivial, rfl⟩
  rcases (trainer_proceeds hfinish).1 1 none rfl with ⟨metadata, hmetadata, henough⟩
  refine ⟨_, _, hfinish, metadata, hmetadata, henough ?_⟩
  intro uid task htask _
  have htask' := congrArg Prod.snd (mem_singleton.mp (Dict.mem_of_get? htask))
  rw [show task = _ from htask']
  exact .inl rfl

end Progress

end SearchR1.ReplayBuffer
