import SearchR1.Library.Runs
import SearchR1.Model.AgentLoopTQ
import SearchR1.Model.KarmarkarKarp

/-! # The training loop of the V1 trainer around the replay buffer

The trainer and the tasks of all prompts take turns in any order. -/

namespace SearchR1.ReplayBuffer

open PyText PyJson SeqlenBalancing

/-- What the loop reads of the configuration. The number of warm-up batches is 0 for the synchronous
trainer. The fields after it carry what `step` asserts and what a data loader needs. -/
structure FitConfig where
  sampler : SamplerConfig
  rolloutN : ℕ
  trainBatchSize : ℕ
  parameterSyncStep : ℕ
  numWarmupBatches : ℕ
  dpSize : ℕ
  /-- `critic.ppo_mini_batch_size`, with a critic. -/
  criticMiniBatchSize : Option ℕ
  actorMiniBatchSize : ℕ
  criticWarmup : ℤ
  divides : parameterSyncStep ∣ trainBatchSize
  trainBatchSize_pos : 0 < trainBatchSize

def FitConfig.sampleBatchSize (cfg : FitConfig) : ℕ := cfg.trainBatchSize / cfg.parameterSyncStep

/-! ## Balancing -/

/-- `_get_required_batch_multiple`. -/
def requiredBatchMultiple (cfg : FitConfig) (globalSteps : ℤ) : ℕ :=
  let multiple :=
    match cfg.criticMiniBatchSize with
    | some size => Nat.lcm cfg.dpSize (size * cfg.rolloutN)
    | none => cfg.dpSize
  if cfg.criticWarmup ≤ globalSteps then Nat.lcm multiple (cfg.actorMiniBatchSize * cfg.rolloutN)
  else multiple

/-- The tag of `construct_minimal_padding_template`. -/
def paddingTag (source : Tag) : Tag :=
  source.update
    { isPadding := some true, promptLen := some 1, responseLen := some 1, seqLen := some 2 }

/-- The synthetic items of `upsample_batch_to_divisible_size`; `none` when the remainder raises. -/
def paddingItems (padUid : Text) (batchMultiple : ℕ) (batch : List (Text × Tag)) :
    Option (List (Text × Tag)) :=
  if batchMultiple = 0 then none
  else
    let remainder := batch.length % batchMultiple
    if remainder = 0 then some []
    else some ((List.range (batchMultiple - remainder)).map fun i =>
      (trajectoryKey padUid i 0, paddingTag ((batch.head?.map Prod.snd).getD {})))

/-- The end of `_balance_batch`: the batch in the order of its balanced partitions; `none` when it
raises. -/
def balancedOrder (dpSize : ℕ) (batch : List (Text × Tag)) : Option (List (Text × Tag)) :=
  (batch.mapM fun item : Text × Tag => item.2.seqLen).bind fun seqlens =>
    (KarmarkarKarp.getSeqlenBalancedPartitions
      (fun i : Fin batch.length => calculateWorkload (seqlens.getD i 0)) dpSize true).map
      fun partitions => partitions.flatten.map batch.get

/-- `_balance_batch`: the items it adds and the batch in its new order. -/
def balanceBatch (cfg : FitConfig) (globalSteps : ℤ) (padUid : Text) (batch : List (Text × Tag)) :
    Option (List (Text × Tag) × List (Text × Tag)) :=
  (paddingItems padUid (requiredBatchMultiple cfg globalSteps) batch).bind fun padding =>
    (balancedOrder cfg.dpSize (batch ++ padding)).map fun ordered => (padding, ordered)

/-! ## The loop -/

/-- Where the trainer is. -/
inductive Phase where
  /-- It is about to add a batch, one of the warm-up or that of the next step. -/
  | idle (warmups : ℕ)
  /-- It is in `sample` in one of the last updates of the step, with what it last read. -/
  | sampling (updates : ℕ) (metadata : Option Metadata)
  /-- It is about to balance what it sampled. -/
  | balancing (updates : ℕ) (batch : List (Text × Tag))
  /-- The updates of the step are done. -/
  | stepEnd

structure System (tq : TransferQueue) where
  store : tq.Store
  tasks : Dict Text Task
  globalSteps : ℤ
  phase : Phase
  /-- `combined_keys` of the step. -/
  combinedKeys : List Text

/-- What can happen next. The lists that stand for chance are arguments: the new uids, the outputs
of the sessions and the order in which a set is read. -/
inductive Event where
  | addBatch (prompts : List (Text × Option ℕ))
  | task (uid : Text) (event : TaskEvent)
  | sync
  | take (order : List Text)
  | balance (padUid : Text)
  | endStep

/-- What `str(uuid.uuid4())` is made of. -/
def IsUuid (uid : Text) : Prop := ∀ c ∈ uid, c ∈ lit "0123456789abcdef-"

instance : DecidablePred IsUuid := fun uid =>
  inferInstanceAs (Decidable (∀ c ∈ uid, c ∈ lit "0123456789abcdef-"))

/-- `f"pad{uuid.uuid4().hex}"`. -/
def IsPadUid (uid : Text) : Prop := ∃ hex, uid = lit "pad" ++ hex ∧ IsUuid hex

variable {tq : TransferQueue}

/-- A new uid is that of no earlier prompt. -/
def Event.Enabled (cfg : FitConfig) (s : System tq) : Event → Prop
  | .addBatch prompts =>
      prompts.length = cfg.trainBatchSize ∧ (s.tasks.keys ++ prompts.map Prod.fst).Nodup ∧
        ∀ prompt ∈ prompts, IsUuid prompt.1
  | .balance padUid => IsPadUid padUid
  | .take order =>
      match s.phase with
      | .sampling _ (some m) => List.Perm order (m.finishedKeys ++ m.failureKeys)
      | _ => False
  | _ => True

/-- `_add_batch_to_generate` with `_submit_batch_to_rollout`. -/
def System.submit (cfg : FitConfig) (s : System tq) (prompts : List (Text × Option ℕ)) :
    System tq where
  store := tq.kvBatchPut s.store .train (prompts.map fun prompt =>
    (prompt.1, promptTag (Task.submit s.globalSteps (prompt.2.getD cfg.rolloutN))))
  tasks := s.tasks ++ prompts.map fun prompt =>
    (prompt.1, Task.submit s.globalSteps (prompt.2.getD cfg.rolloutN))
  globalSteps := s.globalSteps
  phase :=
    match s.phase with
    | .idle (warmups + 1) => .idle warmups
    | _ => .sampling cfg.parameterSyncStep none
  combinedKeys := s.combinedKeys

/-- One step of the trainer or of a task, with the sample that it takes; `none` when it cannot be
made. -/
def System.next (cfg : FitConfig) (s : System tq) : Event → Option (System tq × List Sample)
  | .addBatch prompts =>
      match s.phase with
      | .idle _ => some (s.submit cfg prompts, [])
      | _ => none
  | .task uid event =>
      (s.tasks.get? uid).bind fun task => (task.next uid event).map fun (task, items) =>
        ({ s with
          tasks := s.tasks.set uid task
          store := tq.kvBatchPut s.store .train items }, [])
  | .sync =>
      match s.phase with
      | .sampling updates m =>
          if m.any fun m => hasEnoughSamples cfg.sampler m s.globalSteps cfg.sampleBatchSize then
            none
          else
            (syncMetadata tq s.store).toOption.map fun metadata =>
              ({ s with phase := .sampling updates (some (metadata .train)) }, [])
      | _ => none
  | .take order =>
      match s.phase with
      | .sampling updates (some m) =>
          if hasEnoughSamples cfg.sampler m s.globalSteps cfg.sampleBatchSize then
            (takeSample cfg.sampler tq s.store .train m order s.globalSteps
              cfg.sampleBatchSize).map fun (sample, store) =>
                ({ s with store, phase := .balancing updates sample.kept }, [sample])
          else none
      | _ => none
  | .balance padUid =>
      match s.phase with
      | .balancing updates batch =>
          (balanceBatch cfg s.globalSteps padUid batch).map fun (padding, ordered) =>
            ({ s with
              store := tq.kvBatchPut s.store .train padding
              phase := if updates ≤ 1 then .stepEnd else .sampling (updates - 1) none
              combinedKeys := s.combinedKeys ++ ordered.map Prod.fst }, [])
      | _ => none
  | .endStep =>
      match s.phase with
      | .stepEnd =>
          some ({ s with
            store := tq.kvClear s.store .train s.combinedKeys
            globalSteps := s.globalSteps + 1
            phase := .idle 0
            combinedKeys := [] }, [])
      | _ => none

/-- The trainer and the tasks, interleaved in any way, from an empty store. -/
def System.machine (cfg : FitConfig) (tq : TransferQueue) : Runs.Machine (System tq) Sample where
  init s := (∀ p, tq.kvList s.store p = []) ∧ s.tasks = [] ∧ s.combinedKeys = [] ∧
    s.phase = .idle cfg.numWarmupBatches
  step s samples s' := ∃ event : Event, event.Enabled cfg s ∧
    s.next cfg event = some (s', samples)

end SearchR1.ReplayBuffer
