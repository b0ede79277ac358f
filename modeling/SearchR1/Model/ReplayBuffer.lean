import SearchR1.Library.Dict
import SearchR1.Library.Json
import Mathlib.Algebra.Order.Ring.Rat
import Mathlib.Data.List.Sort

/-! # The replay buffer of the V1 trainer

The trajectories are in the store of a library. The store is a parameter with what the trainer
relies on: to put a tag updates the tag that is there, and a cleared key is gone. -/

namespace SearchR1.ReplayBuffer

open PyText

/-! ## The store -/

inductive Partition where
  | train
  | val
  deriving DecidableEq

inductive Status where
  | pending
  | running
  | finished
  | failure
  | success
  | other (status : Text)
  deriving DecidableEq

/-- A tag, a dictionary with some of these keys. -/
structure Tag where
  isPrompt : Option Bool := none
  status : Option Status := none
  globalSteps : Option ℤ := none
  promptLen : Option ℕ := none
  responseLen : Option ℕ := none
  seqLen : Option ℕ := none
  minGlobalSteps : Option (Option ℤ) := none
  maxGlobalSteps : Option (Option ℤ) := none
  isPadding : Option Bool := none
  deriving DecidableEq

/-- `dict.update`. -/
def Tag.update (tag new : Tag) : Tag where
  isPrompt := new.isPrompt.or tag.isPrompt
  status := new.status.or tag.status
  globalSteps := new.globalSteps.or tag.globalSteps
  promptLen := new.promptLen.or tag.promptLen
  responseLen := new.responseLen.or tag.responseLen
  seqLen := new.seqLen.or tag.seqLen
  minGlobalSteps := new.minGlobalSteps.or tag.minGlobalSteps
  maxGlobalSteps := new.maxGlobalSteps.or tag.maxGlobalSteps
  isPadding := new.isPadding.or tag.isPadding

/-- `transfer_queue`, as far as the tags go. -/
structure TransferQueue where
  Store : Type
  kvList : Store → Partition → Dict Text Tag
  kvPut : Store → Partition → Text → Tag → Store
  kvClear : Store → Partition → List Text → Store
  nodup : ∀ store p, (kvList store p).keys.Nodup
  kvList_kvPut : ∀ store p key tag p' key', (kvList (kvPut store p key tag) p').get? key' =
    if p' = p ∧ key' = key then some ((((kvList store p).get? key).getD {}).update tag)
    else (kvList store p').get? key'
  kvList_kvClear : ∀ store p keys p' key', (kvList (kvClear store p keys) p').get? key' =
    if p' = p ∧ key' ∈ keys then none else (kvList store p').get? key'

/-- `kv_batch_put`. -/
def TransferQueue.kvBatchPut (tq : TransferQueue) (store : tq.Store) (p : Partition)
    (items : List (Text × Tag)) : tq.Store :=
  items.foldl (fun store item => tq.kvPut store p item.1 item.2) store

/-! ## The buffer -/

inductive MaxOffPolicyStrategy where
  | wait
  | drop
  deriving DecidableEq

/-- What `ReplayBuffer.__init__` asserts. -/
structure SamplerConfig where
  maxOffPolicyThreshold : ℕ
  maxOffPolicyStrategy : MaxOffPolicyStrategy
  threshold_pos : 0 < maxOffPolicyThreshold

/-- What the buffer knows of a partition: its trajectories, its prompts by their status and the
step each prompt is from. -/
structure Metadata where
  partition : Dict Text Tag := []
  pendingKeys : List Text := []
  runningKeys : List Text := []
  finishedKeys : List Text := []
  failureKeys : List Text := []
  promptGlobalSteps : Dict Text ℤ := []

inductive SyncError where
  | keyError (key : Text)
  | unknownStatus (status : Status)

/-- One item of a partition, in the order in which it is read. -/
def syncItem (m : Metadata) (item : Text × Tag) : Except SyncError Metadata :=
  if item.2.isPrompt.getD false then
    match item.2.globalSteps, item.2.status with
    | none, _ => .error (.keyError (lit "global_steps"))
    | some _, none => .error (.keyError (lit "status"))
    | some steps, some status =>
        let m := { m with promptGlobalSteps := m.promptGlobalSteps.set item.1 steps }
        match status with
        | .pending => .ok { m with pendingKeys := m.pendingKeys.insert item.1 }
        | .running => .ok { m with runningKeys := m.runningKeys.insert item.1 }
        | .finished => .ok { m with finishedKeys := m.finishedKeys.insert item.1 }
        | .failure => .ok { m with failureKeys := m.failureKeys.insert item.1 }
        | status => .error (.unknownStatus status)
  else
    .ok { m with
      partition := m.partition.set item.1 (((m.partition.get? item.1).getD {}).update item.2) }

def syncPartition (items : Dict Text Tag) : Except SyncError Metadata := items.foldlM syncItem {}

/-- `_sync_metadata_from_transfer_queue`. -/
def syncMetadata (tq : TransferQueue) (store : tq.Store) :
    Except SyncError (Partition → Metadata) :=
  (syncPartition (tq.kvList store .train)).bind fun train =>
    (syncPartition (tq.kvList store .val)).map fun val p =>
      match p with
      | .train => train
      | .val => val

/-- The versions that a trajectory from an earlier step spans. -/
def staleness (globalSteps promptGlobalSteps : ℤ) : ℤ := globalSteps - promptGlobalSteps + 1

/-- `_has_enough_samples`. -/
def hasEnoughSamples (cfg : SamplerConfig) (m : Metadata) (globalSteps : ℤ) (batchSize : ℕ) :
    Bool :=
  if cfg.maxOffPolicyStrategy = .wait ∧
      (m.pendingKeys ++ m.runningKeys).any fun key =>
        (m.promptGlobalSteps.get? key).any fun steps =>
          cfg.maxOffPolicyThreshold ≤ staleness globalSteps steps then
    false
  else batchSize ≤ m.finishedKeys.length + m.failureKeys.length

/-- `prompt_global_steps.get(uid, 0)`. -/
def Metadata.stepOf (m : Metadata) (uid : Text) : ℤ := (m.promptGlobalSteps.get? uid).getD 0

/-- The prompts that can be sampled, the oldest ones first; `order` is the order in which the set
of the finished and the failed ones is read. -/
def sampleableKeys (m : Metadata) (order : List Text) : List Text :=
  order.insertionSort fun uid uid' => m.stepOf uid ≤ m.stepOf uid'

def selectUids (m : Metadata) (order : List Text) (batchSize : ℕ) : List Text :=
  (sampleableKeys m order).take batchSize

/-- `key.split("_")[0]`. -/
def uidOfKey (key : Text) : Text := (key.splitOn (ch '_')).headD []

/-- The trajectories of the selected prompts. -/
def selectedItems (m : Metadata) (selected : List Text) : List (Text × Tag) :=
  m.partition.filter fun item => selected.contains (uidOfKey item.1)

/-- The metrics of the dropped trajectories. -/
structure DropMetrics where
  droppedSamples : ℕ
  stalenessMean : ℚ
  stalenessMax : Option ℤ
  stalenessMin : Option ℤ

def dropMetrics (globalSteps : ℤ) (steps : List ℤ) : DropMetrics where
  droppedSamples := steps.length
  stalenessMean := (((steps.map (staleness globalSteps)).sum : ℤ) : ℚ) / steps.length
  stalenessMax := (steps.map (staleness globalSteps)).max?
  stalenessMin := (steps.map (staleness globalSteps)).min?

/-- What `sample` returns, with the prompts it takes and the trajectories it drops. -/
structure Sample where
  globalSteps : ℤ
  selected : List Text
  kept : List (Text × Tag)
  dropped : List (Text × Tag)
  metrics : Option DropMetrics

/-- `_drop_max_off_policy_samples`: what is kept, what is dropped and the metrics; `none` when a
tag has no step. -/
def dropMaxOffPolicySamples (cfg : SamplerConfig) (globalSteps : ℤ) (batch : List (Text × Tag)) :
    Option (List (Text × Tag) × List (Text × Tag) × Option DropMetrics) :=
  if cfg.maxOffPolicyStrategy = .drop then
    (batch.mapM fun item : Text × Tag => item.2.globalSteps).map fun steps =>
      let isStale (steps : ℤ) : Bool := cfg.maxOffPolicyThreshold < staleness globalSteps steps
      let dropped := (batch.zip steps).filter fun e => isStale e.2
      (((batch.zip steps).filter fun e => !isStale e.2).map Prod.fst, dropped.map Prod.fst,
        if dropped = [] then none else some (dropMetrics globalSteps (dropped.map Prod.snd)))
  else some (batch, [], none)

/-- `sample` from the point where there are enough samples, and the store after it. -/
def takeSample (cfg : SamplerConfig) (tq : TransferQueue) (store : tq.Store) (p : Partition)
    (m : Metadata) (order : List Text) (globalSteps : ℤ) (batchSize : ℕ) :
    Option (Sample × tq.Store) :=
  let selected := selectUids m order batchSize
  let store := tq.kvClear store p selected
  (dropMaxOffPolicySamples cfg globalSteps (selectedItems m selected)).map
    fun (kept, dropped, metrics) =>
      ({ globalSteps, selected, kept, dropped, metrics },
        if dropped = [] then store else tq.kvClear store p (dropped.map Prod.fst))

end SearchR1.ReplayBuffer
