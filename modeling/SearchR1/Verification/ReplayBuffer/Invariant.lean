import SearchR1.Verification.ReplayBuffer.Sampling
import SearchR1.Verification.ReplayBuffer.Tasks

/-! # What holds in every interleaving of the trainer and the tasks -/

namespace SearchR1.ReplayBuffer

open PyText List

variable {tq : TransferQueue} {cfg : FitConfig} {s s' : System tq} {samples : List Sample}

/-- The prompts that were taken. -/
def taken (samples : List Sample) : List Text := samples.flatMap Sample.selected

/-- The keys of all trajectories that were taken. -/
def takenKeys (samples : List Sample) : List Text :=
  samples.flatMap fun sample => sample.items.map Prod.fst

/-- The keys of the trajectories that were taken and kept. -/
def keptKeys (samples : List Sample) : List Text :=
  samples.flatMap fun sample => sample.kept.map Prod.fst

/-- The keys of the batch that the trainer is about to balance. -/
def Phase.batchKeys : Phase → List Text
  | .balancing _ batch => batch.map Prod.fst
  | _ => []

/-- The keys that the trainer clears at the end of the step. -/
def System.held (s : System tq) : List Text := s.combinedKeys ++ s.phase.batchKeys

/-- A trajectory of a prompt. -/
def System.Has (s : System tq) (uid : Text) (item : Text × Tag) : Prop :=
  ∃ task, s.tasks.get? uid = some task ∧ item ∈ task.trajectories uid

/-- What was read last, against what is now: the statuses of prompts that ended are final, and what
a finished prompt has was read. -/
structure Snapshot (s : System tq) (samples : List Sample) (m : Metadata) : Prop where
  keysOf : ∀ uid, (∃ status, uid ∈ m.keysOf status) ↔
    uid ∈ s.tasks.keys ∧ uid ∉ taken samples
  finished : ∀ uid ∈ m.finishedKeys, ∀ task, s.tasks.get? uid = some task →
    task.status = .finished ∧ ∀ item ∈ task.trajectories uid, item ∈ m.partition
  failure : ∀ uid ∈ m.failureKeys, ∀ task, s.tasks.get? uid = some task → task.status = .failure
  nodup : ∀ status, (m.keysOf status).Nodup
  steps : ∀ uid task, s.tasks.get? uid = some task → uid ∉ taken samples →
    m.promptGlobalSteps.get? uid = some task.globalSteps
  partitionNodup : m.partition.keys.Nodup
  partition : ∀ item ∈ m.partition,
    s.Has (uidOfKey item.1) item ∨ IsPadUid (uidOfKey item.1)

/-- The store against the tasks and the samples. -/
structure Inv (s : System tq) (samples : List Sample) : Prop where
  val : ∀ key, (tq.kvList s.store .val).get? key = none
  nodup : s.tasks.keys.Nodup
  uuid : ∀ uid ∈ s.tasks.keys, IsUuid uid
  sound : ∀ uid task, s.tasks.get? uid = some task → task.Sound
  takenNodup : (taken samples).Nodup
  takenEnded : ∀ uid ∈ taken samples, ∃ task, s.tasks.get? uid = some task ∧ task.Ended
  prompt : ∀ uid task, s.tasks.get? uid = some task →
    tq.tag? s.store uid = if uid ∈ taken samples then none else some (promptTag task)
  stored : ∀ uid item, s.Has uid item → item.1 ∉ takenKeys samples →
    tq.tag? s.store item.1 = some item.2
  known : ∀ key tag, tq.tag? s.store key = some tag → key ∈ s.tasks.keys ∨
    s.Has (uidOfKey key) (key, tag) ∧
      (uidOfKey key ∈ taken samples → key ∈ s.held ∨ key ∉ takenKeys samples) ∨
    ch '_' ∈ key ∧ IsPadUid (uidOfKey key) ∧ tag.marksPrompt = false ∧ key ∈ s.combinedKeys
  held : ∀ key ∈ s.held, ch '_' ∈ key ∧ (key ∈ keptKeys samples ∨ IsPadUid (uidOfKey key))
  batch : ∀ updates batch, s.phase = .balancing updates batch →
    ∀ item ∈ batch, s.Has (uidOfKey item.1) item
  produced : ∀ sample ∈ samples, ∀ item ∈ sample.items,
    uidOfKey item.1 ∈ sample.selected ∧ s.Has (uidOfKey item.1) item
  complete : ∀ sample ∈ samples, ∀ uid ∈ sample.selected, ∀ task,
    s.tasks.get? uid = some task → task.status = .finished →
      ∀ item ∈ task.trajectories uid, item ∈ sample.items
  snapshot : ∀ updates m, s.phase = .sampling updates (some m) → Snapshot s samples m

namespace Inv

theorem mem_keys {uid : Text} {task : Task} (h : s.tasks.get? uid = some task) :
    uid ∈ s.tasks.keys := by
  by_contra hnot
  rw [(Dict.get?_eq_none_iff _ _).mpr hnot] at h
  cases h

theorem exists_task {uid : Text} (h : uid ∈ s.tasks.keys) :
    ∃ task, s.tasks.get? uid = some task := by
  rw [← Option.isSome_iff_exists, Option.isSome_iff_ne_none, ne_eq, Dict.get?_eq_none_iff, not_not]
  exact h

/-- The prompt of a trajectory, read from its key. -/
theorem key_of_has (hinv : Inv s samples) {uid : Text} {item : Text × Tag} (h : s.Has uid item) :
    uidOfKey item.1 = uid ∧ ch '_' ∈ item.1 ∧ IsUuid uid := by
  rcases h with ⟨task, htask, hitem⟩
  have huuid := hinv.uuid uid (mem_keys htask)
  rcases Task.exists_key hitem with ⟨i, j, hkey⟩
  rw [hkey]
  exact ⟨uidOfKey_trajectoryKey huuid.not_mem i j, mem_trajectoryKey uid i j, huuid⟩

/-- What was not taken of a prompt that was not taken. -/
theorem not_mem_takenKeys (hinv : Inv s samples) {uid : Text} {item : Text × Tag}
    (h : s.Has uid item) (hnot : uid ∉ taken samples) : item.1 ∉ takenKeys samples := by
  intro hmem
  rcases mem_flatMap.mp hmem with ⟨sample, hsample, hmem⟩
  rcases mem_map.mp hmem with ⟨item', hitem', he⟩
  have huid := (hinv.produced sample hsample item' hitem').1
  rw [he, (hinv.key_of_has h).1] at huid
  exact hnot (mem_flatMap.mpr ⟨sample, hsample, huid⟩)

theorem not_mem_keys_of_mem (hinv : Inv s samples) {key : Text} (h : ch '_' ∈ key) :
    key ∉ s.tasks.keys := fun hkey => (hinv.uuid key hkey).not_mem h

/-- Every tag in the store can be read. -/
theorem readable (hinv : Inv s samples) {key : Text} {tag : Tag}
    (h : tq.tag? s.store key = some tag) : Readable tag := by
  intro hprompt
  rcases hinv.known key tag h with hkey | ⟨⟨task, -, hitem⟩, -⟩ | ⟨-, -, hpad, -⟩
  · rcases exists_task hkey with ⟨task, htask⟩
    rw [hinv.prompt key task htask] at h
    split at h
    · cases h
    · cases h
      exact ⟨_, _, rfl, rfl, (hinv.sound key task htask).status⟩
  · rcases Task.exists_tag hitem with ⟨output, rfl⟩
    cases hprompt
  · rw [hpad] at hprompt
    cases hprompt

/-- The prompts in the store are those that were not taken. -/
theorem prompt_iff (hinv : Inv s samples) {uid : Text} {tag : Tag} :
    tq.tag? s.store uid = some tag ∧ tag.marksPrompt ↔
      ∃ task, s.tasks.get? uid = some task ∧ uid ∉ taken samples ∧ tag = promptTag task := by
  constructor
  · intro h
    rcases hinv.known uid tag h.1 with hkey | ⟨⟨task, -, hitem⟩, -⟩ | ⟨-, -, hpad, -⟩
    · rcases exists_task hkey with ⟨task, htask⟩
      have htag := h.1
      rw [hinv.prompt uid task htask] at htag
      split at htag
      · cases htag
      · rename_i hnot
        exact ⟨task, htask, hnot, (Option.some.inj htag).symm⟩
    · rcases Task.exists_tag hitem with ⟨output, rfl⟩
      cases h.2
    · rw [hpad] at h
      exact absurd h.2 Bool.false_ne_true
  · intro h
    rcases h with ⟨task, htask, hnot, rfl⟩
    rw [hinv.prompt uid task htask, if_neg hnot]
    exact ⟨rfl, rfl⟩

/-- The prompts that are read with a status. -/
theorem mem_keysOf (hinv : Inv s samples) {m : Metadata}
    (hreads : m.Reads (tq.kvList s.store .train)) {status : Status} {uid : Text} :
    uid ∈ m.keysOf status ↔
      ∃ task, s.tasks.get? uid = some task ∧ uid ∉ taken samples ∧ task.status = status := by
  rw [hreads.keysOf]
  constructor
  · intro h
    rcases h with ⟨tag, hmem, hprompt, hstatus⟩
    rcases hinv.prompt_iff.mp ⟨mem_kvList.mp hmem, hprompt⟩ with ⟨task, htask, hnot, rfl⟩
    exact ⟨task, htask, hnot, Option.some.inj hstatus⟩
  · intro h
    rcases h with ⟨task, htask, hnot, rfl⟩
    rcases hinv.prompt_iff.mpr ⟨task, htask, hnot, rfl⟩ with ⟨htag, hprompt⟩
    exact ⟨_, mem_kvList.mpr htag, hprompt, rfl⟩

/-- What is read of the store is a snapshot. -/
theorem snapshot_of_reads (hinv : Inv s samples) {m : Metadata}
    (hreads : m.Reads (tq.kvList s.store .train)) : Snapshot s samples m := by
  refine ⟨?_, ?_, ?_, hreads.nodup, ?_, ?_, ?_⟩
  · intro uid
    constructor
    · intro h
      rcases h with ⟨status, huid⟩
      rcases (hinv.mem_keysOf hreads).mp huid with ⟨task, htask, hnot, -⟩
      exact ⟨mem_keys htask, hnot⟩
    · intro h
      rcases exists_task h.1 with ⟨task, htask⟩
      exact ⟨task.status, (hinv.mem_keysOf hreads).mpr ⟨task, htask, h.2, rfl⟩⟩
  · intro uid huid task htask
    have hkey : uid ∈ m.keysOf .finished := huid
    rcases (hinv.mem_keysOf hreads).mp hkey with ⟨task', htask', hnot, hstatus⟩
    rw [htask, Option.some_inj] at htask'
    subst htask'
    refine ⟨hstatus, ?_⟩
    intro item hitem
    rw [hreads.partition, mem_filter]
    have hhas : s.Has uid item := ⟨task, htask, hitem⟩
    refine ⟨mem_kvList.mpr (hinv.stored uid item hhas (hinv.not_mem_takenKeys hhas hnot)), ?_⟩
    rcases Task.exists_tag hitem with ⟨output, htag⟩
    rw [htag]
    rfl
  · intro uid huid task htask
    have hkey : uid ∈ m.keysOf .failure := huid
    rcases (hinv.mem_keysOf hreads).mp hkey with ⟨task', htask', -, hstatus⟩
    rw [htask, Option.some_inj] at htask'
    subst htask'
    exact hstatus
  · intro uid task htask hnot
    rcases hinv.prompt_iff.mpr ⟨task, htask, hnot, rfl⟩ with ⟨htag, hprompt⟩
    exact hreads.steps uid _ (mem_kvList.mpr htag) hprompt
  · rw [hreads.partition]
    exact (tq.nodup s.store .train).sublist (filter_sublist.map Prod.fst)
  · intro item hitem
    rw [hreads.partition, mem_filter] at hitem
    rcases hitem with ⟨hmem, htraj⟩
    rcases hinv.known item.1 item.2 (mem_kvList.mp hmem) with hkey | ⟨hhas, -⟩ | ⟨-, hpad, -⟩
    · rcases exists_task hkey with ⟨task, htask⟩
      have htag := mem_kvList.mp hmem
      rw [hinv.prompt item.1 task htask] at htag
      split at htag
      · cases htag
      · rw [← Option.some.inj htag] at htraj
        cases htraj
    · exact .inl hhas
    · exact .inr hpad

/-! ## The steps -/

theorem sync (hinv : Inv s samples) {updates : ℕ} {m₀ : Option Metadata} {m : Metadata}
    (hphase : s.phase = .sampling updates m₀) (hreads : m.Reads (tq.kvList s.store .train)) :
    Inv { s with phase := .sampling updates (some m) } samples := by
  have hheld : System.held { s with phase := .sampling updates (some m) } = s.held := by
    rw [System.held, System.held, hphase]
    rfl
  have hsnapshot := hinv.snapshot_of_reads hreads
  refine ⟨hinv.val, hinv.nodup, hinv.uuid, hinv.sound, hinv.takenNodup, hinv.takenEnded,
    hinv.prompt, hinv.stored, ?_, ?_, ?_, hinv.produced, hinv.complete, ?_⟩
  · rw [hheld]
    exact hinv.known
  · rw [hheld]
    exact hinv.held
  · intro updates' batch he
    cases he
  · intro updates' m' he
    cases he
    exact ⟨hsnapshot.keysOf, hsnapshot.finished, hsnapshot.failure, hsnapshot.nodup,
      hsnapshot.steps, hsnapshot.partitionNodup, hsnapshot.partition⟩

/-- The prompts that can be taken have ended and were not taken before. -/
theorem ended_of_mem (hinv : Inv s samples) {m : Metadata} (hsnap : Snapshot s samples m)
    {uid : Text} (h : uid ∈ m.finishedKeys ++ m.failureKeys) :
    uid ∉ taken samples ∧ IsUuid uid ∧ ∃ task, s.tasks.get? uid = some task ∧ task.Ended := by
  have hkeys : uid ∈ s.tasks.keys ∧ uid ∉ taken samples := by
    apply (hsnap.keysOf uid).mp
    rcases mem_append.mp h with h | h
    · exact ⟨.finished, h⟩
    · exact ⟨.failure, h⟩
  rcases exists_task hkeys.1 with ⟨task, htask⟩
  refine ⟨hkeys.2, hinv.uuid uid hkeys.1, task, htask, ?_⟩
  rcases mem_append.mp h with h | h
  · exact .inl (hsnap.finished uid h task htask).1
  · exact .inr (hsnap.failure uid h task htask)

theorem nodup_ended (hinv : Inv s samples) {m : Metadata} (hsnap : Snapshot s samples m) :
    (m.finishedKeys ++ m.failureKeys).Nodup := by
  rw [nodup_append]
  refine ⟨hsnap.nodup .finished, hsnap.nodup .failure, ?_⟩
  intro uid huid uid' huid' he
  subst he
  rcases hinv.ended_of_mem hsnap (mem_append_left _ huid) with ⟨-, -, task, htask, -⟩
  have hfinished := (hsnap.finished uid huid task htask).1
  rw [hsnap.failure uid huid' task htask] at hfinished
  cases hfinished

theorem taken_snoc (samples : List Sample) (sample : Sample) :
    taken (samples ++ [sample]) = taken samples ++ sample.selected := by
  simp [taken]

theorem takenKeys_snoc (samples : List Sample) (sample : Sample) :
    takenKeys (samples ++ [sample]) = takenKeys samples ++ sample.items.map Prod.fst := by
  simp [takenKeys]

theorem keptKeys_snoc (samples : List Sample) (sample : Sample) :
    keptKeys (samples ++ [sample]) = keptKeys samples ++ sample.kept.map Prod.fst := by
  simp [keptKeys]

theorem take (hinv : Inv s samples) {updates : ℕ} {m : Metadata} {order : List Text}
    {size : ℕ} {sample : Sample} {store' : tq.Store}
    (hphase : s.phase = .sampling updates (some m))
    (horder : order ~ m.finishedKeys ++ m.failureKeys)
    (hspec : TakeSpec cfg.sampler tq s.store m order s.globalSteps size sample store') :
    Inv { s with store := store', phase := .balancing updates sample.kept }
      (samples ++ [sample]) := by
  have hsnap := hinv.snapshot updates m hphase
  have hsel : ∀ uid ∈ sample.selected, uid ∈ m.finishedKeys ++ m.failureKeys := by
    intro uid huid
    rw [hspec.selected] at huid
    exact horder.subset (selectUids_subset m order size huid)
  have hnodup : sample.selected.Nodup := by
    rw [hspec.selected]
    exact nodup_selectUids m (horder.nodup_iff.mpr (hinv.nodup_ended hsnap)) size
  -- the trajectories of the sample are of the selected prompts
  have hitems : ∀ item ∈ sample.items,
      uidOfKey item.1 ∈ sample.selected ∧ s.Has (uidOfKey item.1) item := by
    intro item hitem
    rcases hspec.mem_items.mp hitem with ⟨hmem, huid⟩
    refine ⟨huid, (hsnap.partition item hmem).resolve_right ?_⟩
    intro hpad
    exact hpad.not_isUuid (hinv.ended_of_mem hsnap (hsel _ huid)).2.1
  have hdropped : ∀ {key}, key ∈ sample.dropped.map Prod.fst →
      ch '_' ∈ key ∧ uidOfKey key ∈ sample.selected := by
    intro key hkey
    rcases mem_map.mp hkey with ⟨item, hitem, rfl⟩
    rcases hitems item (mem_append_right _ hitem) with ⟨huid, hhas⟩
    exact ⟨(hinv.key_of_has hhas).2.1, huid⟩
  have hnone : ∀ {key tag}, tq.tag? store' key = some tag →
      (key ∉ sample.selected ∧ key ∉ sample.dropped.map Prod.fst) ∧
        tq.tag? s.store key = some tag := by
    intro key tag h
    rw [hspec.tag?] at h
    split at h
    · cases h
    · rename_i hnot
      exact ⟨not_or.mp hnot, h⟩
  refine ⟨?_, hinv.nodup, hinv.uuid, hinv.sound, ?_, ?_, ?_, ?_, ?_, ?_, ?_, ?_, ?_, ?_⟩
  · intro key
    exact (hspec.val key).trans (hinv.val key)
  · rw [taken_snoc, nodup_append]
    refine ⟨hinv.takenNodup, hnodup, ?_⟩
    intro uid huid uid' huid' he
    exact (hinv.ended_of_mem hsnap (hsel uid' huid')).1 (he ▸ huid)
  · intro uid huid
    rw [taken_snoc, mem_append] at huid
    rcases huid with huid | huid
    · exact hinv.takenEnded uid huid
    · exact (hinv.ended_of_mem hsnap (hsel uid huid)).2.2
  · intro uid task htask
    have huuid := hinv.uuid uid (mem_keys htask)
    have hnot : uid ∉ sample.dropped.map Prod.fst := fun h => huuid.not_mem (hdropped h).1
    simp only [hspec.tag?, taken_snoc, mem_append, hnot, or_false]
    rw [hinv.prompt uid task htask]
    by_cases hsample : uid ∈ sample.selected
    · rw [if_pos hsample, if_pos (.inr hsample)]
    · simp only [hsample, if_false, or_false]
  · intro uid item hhas hnot
    rw [takenKeys_snoc, mem_append, not_or] at hnot
    rw [hspec.tag?, if_neg, hinv.stored uid item hhas hnot.1]
    intro h
    rcases h with h | h
    · exact (hinv.ended_of_mem hsnap (hsel _ h)).2.1.not_mem (hinv.key_of_has hhas).2.1
    · rw [Sample.items, map_append] at hnot
      exact hnot.2 (mem_append_right _ h)
  · intro key tag htag
    rcases hnone htag with ⟨⟨-, hkept⟩, hold⟩
    rcases hinv.known key tag hold with hkey | ⟨hhas, hheld⟩ | hpad
    · exact .inl hkey
    · refine .inr (.inl ⟨hhas, ?_⟩)
      intro huid
      rw [taken_snoc, mem_append] at huid
      rw [System.held, takenKeys_snoc, mem_append, mem_append]
      by_cases hsample : key ∈ sample.items.map Prod.fst
      · rcases mem_append.mp (map_append (f := Prod.fst) ▸ hsample) with hmem | hmem
        · exact .inl (.inr hmem)
        · exact absurd hmem hkept
      · rcases huid with huid | huid
        · rcases hheld huid with hmem | hmem
          · rw [System.held, hphase, mem_append] at hmem
            exact .inl (.inl (hmem.resolve_right not_mem_nil))
          · exact .inr (not_or.mpr ⟨hmem, hsample⟩)
        · refine .inr (not_or.mpr ⟨?_, hsample⟩)
          intro hmem
          rcases mem_flatMap.mp hmem with ⟨earlier, hearlier, hmem⟩
          rcases mem_map.mp hmem with ⟨item, hitem, rfl⟩
          exact (hinv.ended_of_mem hsnap (hsel _ huid)).1
            (mem_flatMap.mpr ⟨earlier, hearlier, (hinv.produced earlier hearlier item hitem).1⟩)
    · exact .inr (.inr hpad)
  · intro key hkey
    rw [keptKeys_snoc, mem_append]
    rcases mem_append.mp hkey with hkey | hkey
    · rcases hinv.held key (mem_append_left _ hkey) with ⟨hmem, hkept⟩
      exact ⟨hmem, hkept.imp_left .inl⟩
    · refine ⟨?_, .inl (.inr hkey)⟩
      rcases mem_map.mp hkey with ⟨item, hitem, rfl⟩
      exact (hinv.key_of_has (hitems item (mem_append_left _ hitem)).2).2.1
  · intro updates' batch he
    cases he
    intro item hitem
    exact (hitems item (mem_append_left _ hitem)).2
  · intro earlier hearlier
    rcases mem_append.mp hearlier with hearlier | hearlier
    · exact hinv.produced earlier hearlier
    · rw [mem_singleton.mp hearlier]
      exact hitems
  · intro earlier hearlier
    rcases mem_append.mp hearlier with hearlier | hearlier
    · exact hinv.complete earlier hearlier
    · rw [mem_singleton.mp hearlier]
      intro uid huid task htask hfinished item hitem
      rcases mem_append.mp (hsel uid huid) with hmem | hmem
      · refine hspec.mem_items.mpr ⟨(hsnap.finished uid hmem task htask).2 item hitem, ?_⟩
        rw [(hinv.key_of_has ⟨task, htask, hitem⟩).1]
        exact huid
      · rw [hsnap.failure uid hmem task htask] at hfinished
        cases hfinished
  · intro updates' m' he
    cases he

/-- Preserved by what a task does: its prompt gets a new status, and new trajectories of it come
under keys that no trajectory had before. -/
theorem progress (hinv : Inv s samples) {uid : Text} {task task' : Task}
    {fresh : List (Text × Tag)} {store' : tq.Store} (htask : s.tasks.get? uid = some task)
    (hsteps : task'.globalSteps = task.globalSteps) (hsound : task'.Sound)
    (hended : task.Ended → task'.status = task.status) (hrunning : task.status ≠ .finished)
    (hmem : ∀ item, item ∈ task'.trajectories uid ↔ item ∈ task.trajectories uid ∨ item ∈ fresh)
    (hnew : ∀ item ∈ fresh, item.1 ∉ takenKeys samples)
    (hval : ∀ key, (tq.kvList store' .val).get? key = (tq.kvList s.store .val).get? key)
    (hprompt : tq.tag? store' uid = if uid ∈ taken samples then none else some (promptTag task'))
    (hstored : ∀ item ∈ fresh, tq.tag? store' item.1 = some item.2)
    (hother : ∀ key, key ≠ uid → key ∉ fresh.map Prod.fst →
      tq.tag? store' key = tq.tag? s.store key) :
    Inv { s with tasks := s.tasks.set uid task', store := store' } samples := by
  have hkeys : (s.tasks.set uid task').keys = s.tasks.keys := by
    rw [Dict.keys_set, if_pos (mem_keys htask)]
  have hget : ∀ other, (s.tasks.set uid task').get? other =
      if other = uid then some task' else s.tasks.get? other := by
    intro other
    split
    · rename_i he
      rw [he, Dict.get?_set_self]
    · rename_i he
      exact Dict.get?_set_of_ne _ _ he
  have hfresh : ∀ item ∈ fresh, uidOfKey item.1 = uid ∧ ch '_' ∈ item.1 := by
    intro item hitem
    rcases Task.exists_key ((hmem item).mpr (.inr hitem)) with ⟨i, j, hkey⟩
    rw [hkey]
    exact ⟨uidOfKey_trajectoryKey (hinv.uuid uid (mem_keys htask)).not_mem i j,
      mem_trajectoryKey uid i j⟩
  -- what a prompt has now
  have hhas : ∀ other item,
      System.Has { s with tasks := s.tasks.set uid task', store := store' } other item ↔
        s.Has other item ∨ other = uid ∧ item ∈ fresh := by
    intro other item
    simp only [System.Has, hget]
    by_cases he : other = uid
    · subst he
      simp only [if_true, Option.some_inj, exists_eq_left', htask, hmem, true_and]
    · simp only [he, if_false, false_and, or_false]
  have hold : ∀ {other item}, s.Has other item →
      System.Has { s with tasks := s.tasks.set uid task', store := store' } other item :=
    fun h => (hhas _ _).mpr (.inl h)
  refine ⟨fun key => (hval key).trans (hinv.val key), ?_, ?_, ?_, hinv.takenNodup, ?_, ?_, ?_, ?_,
    hinv.held, ?_, ?_, ?_, ?_⟩
  · exact hkeys ▸ hinv.nodup
  · exact hkeys ▸ hinv.uuid
  · intro other task₀ h
    rw [hget] at h
    split at h
    · cases h
      exact hsound
    · exact hinv.sound other task₀ h
  · intro other h
    rcases hinv.takenEnded other h with ⟨task₀, htask₀, he⟩
    by_cases hne : other = uid
    · subst hne
      rw [htask, Option.some_inj] at htask₀
      subst htask₀
      refine ⟨task', by rw [hget, if_pos rfl], ?_⟩
      rw [Task.Ended, hended he]
      exact he
    · exact ⟨task₀, by rw [hget, if_neg hne, htask₀], he⟩
  · intro other task₀ h
    rw [hget] at h
    by_cases hne : other = uid
    · rw [if_pos hne, Option.some_inj] at h
      rw [← h, hne]
      exact hprompt
    · rw [if_neg hne] at h
      rw [← hinv.prompt other task₀ h]
      apply hother other hne
      intro hkey
      rcases mem_map.mp hkey with ⟨item, hitem, rfl⟩
      exact (hinv.uuid _ (mem_keys h)).not_mem (hfresh item hitem).2
  · intro other item h hnot
    by_cases hkey : item.1 ∈ fresh.map Prod.fst
    · rcases mem_map.mp hkey with ⟨item', hitem', he⟩
      have hsame : item' = item := by
        have huuid := (hinv.uuid uid (mem_keys htask)).not_mem
        rcases (hhas _ _).mp h with hbefore | ⟨-, hitem⟩
        · have hother' := (hinv.key_of_has hbefore).1
          rw [← he, (hfresh item' hitem').1] at hother'
          subst hother'
          rcases hbefore with ⟨task₀, htask₀, hitem⟩
          rw [htask, Option.some_inj] at htask₀
          subst htask₀
          exact Task.eq_of_key_eq huuid ((hmem item').mpr (.inr hitem'))
            ((hmem item).mpr (.inl hitem)) he
        · exact Task.eq_of_key_eq huuid ((hmem item').mpr (.inr hitem'))
            ((hmem item).mpr (.inr hitem)) he
      rw [← hsame]
      exact hstored item' hitem'
    · rcases (hhas _ _).mp h with hbefore | ⟨-, hitem⟩
      · rcases hinv.key_of_has hbefore with ⟨-, hsep, -⟩
        have hne : item.1 ≠ uid := fun he =>
          (hinv.uuid uid (mem_keys htask)).not_mem (he ▸ hsep)
        rw [← hinv.stored other item hbefore hnot]
        exact hother item.1 hne hkey
      · exact absurd (mem_map_of_mem hitem) hkey
  · intro key tag h
    by_cases hkey : key ∈ fresh.map Prod.fst
    · rcases mem_map.mp hkey with ⟨item, hitem, rfl⟩
      have htag : tq.tag? store' item.1 = some tag := h
      rw [hstored item hitem, Option.some_inj] at htag
      refine .inr (.inl ⟨(hhas _ _).mpr (.inr ⟨(hfresh item hitem).1, htag ▸ hitem⟩), ?_⟩)
      exact fun _ => .inr (hnew item hitem)
    · by_cases hne : key = uid
      · refine .inl ?_
        rw [hkeys, hne]
        exact mem_keys htask
      · rcases hinv.known key tag ((hother key hne hkey).symm.trans h) with hk | ⟨hk, hrest⟩ | hk
        · exact .inl (hkeys ▸ hk)
        · exact .inr (.inl ⟨hold hk, hrest⟩)
        · exact .inr (.inr hk)
  · intro updates batch hphase item hitem
    exact hold (hinv.batch updates batch hphase item hitem)
  · intro sample hsample item hitem
    rcases hinv.produced sample hsample item hitem with ⟨huid, h⟩
    exact ⟨huid, hold h⟩
  · intro sample hsample other hother' task₀ h hfinished item hitem
    rw [hget] at h
    by_cases hne : other = uid
    · subst hne
      rcases hinv.takenEnded other (mem_flatMap.mpr ⟨sample, hsample, hother'⟩) with
        ⟨task₁, htask₁, he⟩
      rw [htask, Option.some_inj] at htask₁
      subst htask₁
      rw [if_pos rfl, Option.some_inj] at h
      subst h
      exact absurd ((hended he).symm.trans hfinished) hrunning
    · rw [if_neg hne] at h
      exact hinv.complete sample hsample other hother' task₀ h hfinished item hitem
  · intro updates m hphase
    have hsnap := hinv.snapshot updates m hphase
    refine ⟨?_, ?_, ?_, hsnap.nodup, ?_, hsnap.partitionNodup, ?_⟩
    · intro other
      rw [hsnap.keysOf, hkeys]
    · intro other h task₀ hget'
      rw [hget] at hget'
      by_cases hne : other = uid
      · subst hne
        exact absurd (hsnap.finished other h task htask).1 hrunning
      · rw [if_neg hne] at hget'
        exact hsnap.finished other h task₀ hget'
    · intro other h task₀ hget'
      rw [hget] at hget'
      by_cases hne : other = uid
      · subst hne
        rw [if_pos rfl, Option.some_inj] at hget'
        have hfailure := hsnap.failure other h task htask
        rw [← hget', hended (.inr hfailure), hfailure]
      · rw [if_neg hne] at hget'
        exact hsnap.failure other h task₀ hget'
    · intro other task₀ hget' hnot
      rw [hget] at hget'
      by_cases hne : other = uid
      · subst hne
        rw [if_pos rfl, Option.some_inj] at hget'
        rw [← hget', hsteps]
        exact hsnap.steps other task htask hnot
      · rw [if_neg hne] at hget'
        exact hsnap.steps other task₀ hget' hnot
    · intro item hitem
      exact (hsnap.partition item hitem).imp_left hold

end Inv

end SearchR1.ReplayBuffer
