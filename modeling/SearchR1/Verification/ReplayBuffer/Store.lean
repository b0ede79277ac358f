import SearchR1.Model.V1Fit

/-! # What the store holds and what the buffer reads of it -/

namespace SearchR1.ReplayBuffer

open PyText

variable {tq : TransferQueue}

@[simp] theorem Tag.empty_update (tag : Tag) : ({} : Tag).update tag = tag := by
  cases tag
  simp [Tag.update]

/-- The tags of the training partition. -/
def TransferQueue.tag? (tq : TransferQueue) (store : tq.Store) (key : Text) : Option Tag :=
  (tq.kvList store .train).get? key

theorem tag?_kvPut (store : tq.Store) (key key' : Text) (tag : Tag) :
    tq.tag? (tq.kvPut store .train key tag) key' =
      if key' = key then some (((tq.tag? store key).getD {}).update tag)
      else tq.tag? store key' := by
  rw [TransferQueue.tag?, tq.kvList_kvPut]
  simp [TransferQueue.tag?]

theorem tag?_kvClear (store : tq.Store) (keys : List Text) (key : Text) :
    tq.tag? (tq.kvClear store .train keys) key =
      if key ∈ keys then none else tq.tag? store key := by
  rw [TransferQueue.tag?, tq.kvList_kvClear]
  simp [TransferQueue.tag?]

theorem mem_kvList {store : tq.Store} {item : Text × Tag} :
    item ∈ tq.kvList store .train ↔ tq.tag? store item.1 = some item.2 :=
  ⟨Dict.get?_of_mem (tq.nodup store .train), Dict.mem_of_get?⟩

theorem tag?_kvBatchPut_of_not_mem {items : List (Text × Tag)} {key : Text}
    (h : key ∉ items.map Prod.fst) (store : tq.Store) :
    tq.tag? (tq.kvBatchPut store .train items) key = tq.tag? store key := by
  induction items generalizing store with
  | nil => rfl
  | cons item items ih =>
      rw [List.map_cons, List.mem_cons, not_or] at h
      rw [TransferQueue.kvBatchPut, List.foldl_cons, ← TransferQueue.kvBatchPut, ih h.2,
        tag?_kvPut, if_neg h.1]

/-- Items with new keys are what the store then holds of them. -/
theorem tag?_kvBatchPut_of_mem {items : List (Text × Tag)} (hnodup : (items.map Prod.fst).Nodup)
    {store : tq.Store} (hnew : ∀ item ∈ items, tq.tag? store item.1 = none) {item : Text × Tag}
    (h : item ∈ items) : tq.tag? (tq.kvBatchPut store .train items) item.1 = some item.2 := by
  induction items generalizing store with
  | nil => cases h
  | cons first items ih =>
      rw [List.map_cons, List.nodup_cons] at hnodup
      rw [TransferQueue.kvBatchPut, List.foldl_cons, ← TransferQueue.kvBatchPut]
      rcases List.mem_cons.mp h with rfl | h
      · rw [tag?_kvBatchPut_of_not_mem hnodup.1, tag?_kvPut, if_pos rfl,
          hnew item List.mem_cons_self]
        simp
      · apply ih hnodup.2 _ h
        intro other hother
        have hne : other.1 ≠ first.1 := fun he =>
          hnodup.1 (he ▸ List.mem_map_of_mem (f := Prod.fst) hother)
        rw [tag?_kvPut, if_neg hne]
        exact hnew other (List.mem_cons_of_mem _ hother)

theorem kvList_val_kvBatchPut (store : tq.Store) (items : List (Text × Tag)) (key : Text) :
    (tq.kvList (tq.kvBatchPut store .train items) .val).get? key =
      (tq.kvList store .val).get? key := by
  induction items generalizing store with
  | nil => rfl
  | cons item items ih =>
      rw [TransferQueue.kvBatchPut, List.foldl_cons, ← TransferQueue.kvBatchPut, ih,
        tq.kvList_kvPut]
      simp

/-! ## Reading the tags -/

def Tag.marksPrompt (tag : Tag) : Bool := tag.isPrompt.getD false

theorem Tag.marksPrompt_update {tag new : Tag} (h : (tag.update new).marksPrompt) :
    tag.marksPrompt ∨ new.marksPrompt := by
  rw [marksPrompt, update] at h
  cases hnew : new.isPrompt with
  | none =>
      rw [hnew] at h
      exact .inl h
  | some marks =>
      rw [hnew] at h
      exact .inr (by rw [marksPrompt, hnew]; exact h)

theorem not_marksPrompt_kvBatchPut {items : List (Text × Tag)} {store : tq.Store} {key : Text}
    {tag : Tag} (hitems : ∀ item ∈ items, item.2.marksPrompt = false)
    (hold : ∀ old, tq.tag? store key = some old → old.marksPrompt = false)
    (h : tq.tag? (tq.kvBatchPut store .train items) key = some tag) : tag.marksPrompt = false := by
  induction items generalizing store with
  | nil => exact hold tag h
  | cons item items ih =>
      apply ih (fun other hother => hitems other (List.mem_cons_of_mem _ hother)) _ h
      intro old hput
      rw [tag?_kvPut] at hput
      split at hput
      · rename_i he
        rw [← Option.some.inj hput, Bool.eq_false_iff]
        intro hprompt
        rcases Tag.marksPrompt_update hprompt with hprompt | hprompt
        · cases hget : tq.tag? store item.1 with
          | none =>
              rw [hget] at hprompt
              cases hprompt
          | some old' =>
              rw [hget, Option.getD_some, hold old' (he ▸ hget)] at hprompt
              cases hprompt
        · rw [hitems item List.mem_cons_self] at hprompt
          cases hprompt
      · exact hold old hput

def Metadata.keysOf (m : Metadata) : Status → List Text
  | .pending => m.pendingKeys
  | .running => m.runningKeys
  | .finished => m.finishedKeys
  | .failure => m.failureKeys
  | _ => []

/-- The statuses that a prompt can have. -/
def Status.ofPrompt (status : Status) : Prop :=
  status = .pending ∨ status = .running ∨ status = .finished ∨ status = .failure

/-- What was read of a partition is what it held. -/
structure Metadata.Reads (m : Metadata) (items : List (Text × Tag)) : Prop where
  partition : m.partition = items.filter fun item => !item.2.marksPrompt
  keysOf : ∀ status uid, uid ∈ m.keysOf status ↔
    ∃ tag, (uid, tag) ∈ items ∧ tag.marksPrompt ∧ tag.status = some status
  nodup : ∀ status, (m.keysOf status).Nodup
  steps : ∀ uid tag, (uid, tag) ∈ items → tag.marksPrompt →
    m.promptGlobalSteps.get? uid = tag.globalSteps

/-- A prompt's tag can be read. -/
def Readable (tag : Tag) : Prop :=
  tag.marksPrompt → ∃ steps status, tag.globalSteps = some steps ∧ tag.status = some status ∧
    status.ofPrompt

/-- Reading a prompt adds it to the prompts with its status. -/
theorem syncItem_prompt (m : Metadata) {item : Text × Tag} {steps : ℤ} {status : Status}
    (hprompt : item.2.marksPrompt) (hsteps : item.2.globalSteps = some steps)
    (hstatus : item.2.status = some status) (hof : status.ofPrompt) :
    ∃ m', syncItem m item = .ok m' ∧ m'.partition = m.partition ∧
      m'.promptGlobalSteps = m.promptGlobalSteps.set item.1 steps ∧
      ∀ status', m'.keysOf status' =
        if status' = status then (m.keysOf status).insert item.1 else m.keysOf status' := by
  rw [Tag.marksPrompt] at hprompt
  rw [syncItem, if_pos hprompt, hsteps, hstatus]
  rcases hof with rfl | rfl | rfl | rfl <;>
    exact ⟨_, rfl, rfl, rfl, fun status' => by cases status' <;> rfl⟩

theorem syncItem_trajectory (m : Metadata) {item : Text × Tag} (h : item.2.marksPrompt = false) :
    syncItem m item = .ok { m with
      partition := m.partition.set item.1 (((m.partition.get? item.1).getD {}).update item.2) } := by
  rw [Tag.marksPrompt] at h
  rw [syncItem, if_neg (by simp [h])]

/-- Reading one more item. -/
theorem Metadata.Reads.syncItem {m : Metadata} {items : List (Text × Tag)} {item : Text × Tag}
    (h : m.Reads items) (hnew : item.1 ∉ items.map Prod.fst) (hread : Readable item.2) :
    ∃ m', ReplayBuffer.syncItem m item = .ok m' ∧ m'.Reads (items ++ [item]) := by
  have hnone : ∀ tag, (item.1, tag) ∉ items := fun tag hmem =>
    hnew (List.mem_map.mpr ⟨_, hmem, rfl⟩)
  cases hprompt : item.2.marksPrompt with
  | false =>
      refine ⟨_, syncItem_trajectory m hprompt, ?_, ?_, h.nodup, ?_⟩
      · have hkey : item.1 ∉ Dict.keys m.partition := by
          rw [h.partition]
          intro hmem
          rcases List.mem_map.mp hmem with ⟨other, hother, he⟩
          exact hnew (he ▸ List.mem_map_of_mem (f := Prod.fst) (List.mem_of_mem_filter hother))
        change m.partition.set _ _ = _
        rw [Dict.set_of_not_mem _ _ _ hkey, (Dict.get?_eq_none_iff _ _).mpr hkey, h.partition]
        simp [hprompt]
      · intro status uid
        refine (h.keysOf status uid).trans ?_
        constructor
        · intro hex
          rcases hex with ⟨tag, hmem, hrest⟩
          exact ⟨tag, List.mem_append_left _ hmem, hrest⟩
        · intro hex
          rcases hex with ⟨tag, hmem, htag, hrest⟩
          rcases List.mem_append.mp hmem with hmem | hmem
          · exact ⟨tag, hmem, htag, hrest⟩
          · rw [← List.mem_singleton.mp hmem, htag] at hprompt
            cases hprompt
      · intro uid tag hmem htag
        rcases List.mem_append.mp hmem with hmem | hmem
        · exact h.steps uid tag hmem htag
        · rw [← List.mem_singleton.mp hmem, htag] at hprompt
          cases hprompt
  | true =>
      rcases hread hprompt with ⟨steps, status, hsteps, hstatus, hof⟩
      rcases syncItem_prompt m hprompt hsteps hstatus hof with ⟨m', hm', hpartition, hset, hkeys⟩
      refine ⟨m', hm', ?_, ?_, ?_, ?_⟩
      · rw [hpartition, h.partition]
        simp [hprompt]
      · intro status' uid
        have hold := h.keysOf status' uid
        rw [hkeys status']
        split
        · rename_i hsame
          subst hsame
          rw [List.mem_insert_iff, hold]
          constructor
          · intro hcase
            rcases hcase with rfl | ⟨tag, hmem, hrest⟩
            · exact ⟨item.2, by simp, hprompt, hstatus⟩
            · exact ⟨tag, List.mem_append_left _ hmem, hrest⟩
          · intro hex
            rcases hex with ⟨tag, hmem, hrest⟩
            rcases List.mem_append.mp hmem with hmem | hmem
            · exact .inr ⟨tag, hmem, hrest⟩
            · exact .inl (congrArg Prod.fst (List.mem_singleton.mp hmem))
        · rename_i hother
          rw [hold]
          constructor
          · intro hex
            rcases hex with ⟨tag, hmem, hrest⟩
            exact ⟨tag, List.mem_append_left _ hmem, hrest⟩
          · intro hex
            rcases hex with ⟨tag, hmem, htag, hrest⟩
            rcases List.mem_append.mp hmem with hmem | hmem
            · exact ⟨tag, hmem, htag, hrest⟩
            · rw [← congrArg Prod.snd (List.mem_singleton.mp hmem), hrest] at hstatus
              exact absurd (Option.some.inj hstatus) hother
      · intro status'
        rw [hkeys status']
        split
        · exact (h.nodup status).insert
        · exact h.nodup status'
      · intro uid tag hmem htag
        rw [hset]
        rcases List.mem_append.mp hmem with hmem | hmem
        · have hne : uid ≠ item.1 := fun he => hnone tag (he ▸ hmem)
          rw [Dict.get?_set_of_ne _ _ hne]
          exact h.steps uid tag hmem htag
        · have he := List.mem_singleton.mp hmem
          rw [show uid = item.1 from congrArg Prod.fst he, Dict.get?_set_self, ← hsteps,
            ← congrArg Prod.snd he]

theorem exists_syncPartition {items : List (Text × Tag)} (hnodup : (items.map Prod.fst).Nodup)
    (hread : ∀ item ∈ items, Readable item.2) :
    ∃ m, syncPartition items = .ok m ∧ m.Reads items := by
  induction items using List.reverseRecOn with
  | nil =>
      refine ⟨{}, rfl, rfl, ?_, ?_, ?_⟩
      · intro status uid
        cases status <;> simp [Metadata.keysOf]
      · intro status
        cases status <;> exact List.nodup_nil
      · intro uid tag h
        cases h
  | append_singleton items item ih =>
      rw [List.map_append, List.nodup_append] at hnodup
      have hnew : item.1 ∉ items.map Prod.fst := fun hmem =>
        hnodup.2.2 item.1 hmem item.1 (by simp) rfl
      rcases ih hnodup.1 fun other hother => hread other (by simp [hother]) with ⟨m, hm, hreads⟩
      rcases hreads.syncItem hnew (hread item (by simp)) with ⟨m', hm', hreads'⟩
      refine ⟨m', ?_, hreads'⟩
      rw [syncPartition] at hm ⊢
      rw [List.foldlM_append, hm]
      simp only [List.foldlM_cons, List.foldlM_nil]
      exact congrArg (· >>= pure) hm'

/-- The metadata of the training partition, for a store with an empty other one. -/
theorem exists_syncMetadata {store : tq.Store} (hval : tq.kvList store .val = [])
    (hread : ∀ key tag, tq.tag? store key = some tag → Readable tag) :
    ∃ metadata, syncMetadata tq store = .ok metadata ∧
      (metadata .train).Reads (tq.kvList store .train) := by
  rcases exists_syncPartition (tq.nodup store .train)
    (fun item hitem => hread item.1 item.2 (mem_kvList.mp hitem)) with ⟨m, hm, hreads⟩
  rcases hempty : syncPartition [] with error | val
  · cases hempty
  · rcases hsync : syncMetadata tq store with error | metadata
      <;> rw [syncMetadata, hm, hval, hempty] at hsync
      <;> cases hsync
    exact ⟨_, rfl, hreads⟩

end SearchR1.ReplayBuffer
