import SearchR1.Verification.ReplayBuffer.Interleavings

/-! # The groups that a run takes out of the buffer -/

namespace SearchR1.ReplayBuffer

open PyText List

variable {tq : TransferQueue} {cfg : FitConfig} {s s' : System tq} {samples : List Sample}

/-- A sample takes as many prompts as it is asked for, each trajectory once. -/
structure Sample.Full (cfg : FitConfig) (sample : Sample) : Prop where
  length : sample.selected.length = cfg.sampleBatchSize
  nodup : (sample.items.map Prod.fst).Nodup
  drop : DropSpec cfg.sampler sample.globalSteps sample.items sample.kept sample.dropped

theorem full_of_run (h : Runs.Run (System.machine cfg tq) s samples) :
    ∀ sample ∈ samples, sample.Full cfg := by
  induction h with
  | init hinit =>
      intro sample hsample
      cases hsample
  | step hrun hstep ih =>
      rcases hstep with ⟨event, henabled, hnext⟩
      intro sample hsample
      rcases mem_append.mp hsample with hsample | hsample
      · exact ih sample hsample
      · cases System.step_of_next henabled hnext with
        | take updates m order taken' store' hphase horder henough hspec =>
            rw [mem_singleton.mp hsample]
            have hsnap := (inv_of_run hrun).snapshot updates m hphase
            refine ⟨?_, ?_, ?_⟩
            · rw [hspec.selected]
              apply length_selectUids
              rw [horder.length_eq, length_append]
              rw [hasEnoughSamples] at henough
              split at henough
              · cases henough
              · exact of_decide_eq_true henough
            · have hperm := hspec.drop.perm.map Prod.fst
              exact hperm.nodup_iff.mpr (hsnap.partitionNodup.sublist (filter_sublist.map Prod.fst))
            · rw [hspec.globalSteps_eq]
              exact ⟨Perm.refl _, hspec.drop.wait, hspec.drop.kept, hspec.drop.dropped⟩
        | submit => cases hsample
        | task => cases hsample
        | sync => cases hsample
        | balance => cases hsample
        | endStep => cases hsample

theorem nodup_takenKeys (h : Runs.Run (System.machine cfg tq) s samples) :
    (takenKeys samples).Nodup := by
  have hinv := inv_of_run h
  have hdisjoint := (nodup_flatMap.mp hinv.takenNodup).2
  apply nodup_flatMap.mpr
  refine ⟨fun sample hsample => (full_of_run h sample hsample).nodup, ?_⟩
  apply hdisjoint.imp_of_mem
  intro sample sample' hsample hsample' hne key hkey hkey'
  rcases mem_map.mp hkey with ⟨item, hitem, rfl⟩
  rcases mem_map.mp hkey' with ⟨item', hitem', he⟩
  have huid := (hinv.produced sample hsample item hitem).1
  have huid' := (hinv.produced sample' hsample' item' hitem').1
  rw [he] at huid'
  exact hne huid huid'

/-- However the trainer and the tasks interleave, no prompt and no trajectory is taken twice. Every
sample takes as many prompts as asked for, all of them ended; its trajectories are theirs, and of a
prompt that finished it takes every trajectory of every session. -/
theorem samples_take_groups (h : Runs.Run (System.machine cfg tq) s samples) :
    (samples.flatMap Sample.selected).Nodup ∧
    (samples.flatMap fun sample => sample.items.map Prod.fst).Nodup ∧
    ∀ sample ∈ samples, sample.selected.length = cfg.sampleBatchSize ∧
      (∀ item ∈ sample.items, ∃ uid ∈ sample.selected, s.Has uid item) ∧
      ∀ uid ∈ sample.selected, ∃ task, s.tasks.get? uid = some task ∧ task.Ended ∧
        (task.status = .finished → ∀ i outputs, task.sessions[i]? = some (.returned outputs) →
          ∀ item ∈ sessionItems uid task.globalSteps i outputs, item ∈ sample.items) := by
  have hinv := inv_of_run h
  refine ⟨hinv.takenNodup, nodup_takenKeys h, ?_⟩
  intro sample hsample
  refine ⟨(full_of_run h sample hsample).length, ?_, ?_⟩
  · intro item hitem
    exact ⟨_, hinv.produced sample hsample item hitem⟩
  · intro uid huid
    rcases hinv.takenEnded uid (mem_flatMap.mpr ⟨sample, hsample, huid⟩) with ⟨task, htask, he⟩
    refine ⟨task, htask, he, ?_⟩
    intro hfinished i outputs hi item hitem
    exact hinv.complete sample hsample uid huid task htask hfinished item
      (Task.mem_trajectories.mpr ⟨i, _, hi, hitem⟩)

/-- What one sample dropped no sample kept. -/
theorem not_mem_keptKeys_of_dropped (h : Runs.Run (System.machine cfg tq) s samples)
    {sample : Sample} (hsample : sample ∈ samples) {item : Text × Tag}
    (hitem : item ∈ sample.dropped) : item.1 ∉ keptKeys samples := by
  have hinv := inv_of_run h
  intro hkept
  rcases mem_flatMap.mp hkept with ⟨sample', hsample', hmem⟩
  by_cases he : sample' = sample
  · subst he
    have hnodup := (full_of_run h sample' hsample).nodup
    rw [Sample.items, map_append, nodup_append] at hnodup
    exact hnodup.2.2 item.1 hmem item.1 (mem_map_of_mem hitem) rfl
  · have : Std.Symm (Function.onFun List.Disjoint fun sample : Sample =>
        sample.items.map Prod.fst) := ⟨fun _ _ hne => hne.symm⟩
    have hkeys : List.Disjoint (sample'.items.map Prod.fst) (sample.items.map Prod.fst) :=
      (nodup_flatMap.mp (nodup_takenKeys h)).2.forall hsample' hsample he
    rcases mem_map.mp hmem with ⟨item', hitem', hsame⟩
    exact hkeys (hsame ▸ mem_map_of_mem (mem_append_left _ hitem'))
      (mem_map_of_mem (mem_append_right _ hitem))

/-- With the drop strategy a group is dropped as a whole or not at all: by the age of its prompt,
whatever its sessions did. What is dropped is not in the store any more. -/
theorem groups_drop_whole (h : Runs.Run (System.machine cfg tq) s samples)
    (hdrop : cfg.sampler.maxOffPolicyStrategy = .drop) :
    ∀ sample ∈ samples, ∀ uid ∈ sample.selected, ∃ task, s.tasks.get? uid = some task ∧
      (staleness sample.globalSteps task.globalSteps ≤ cfg.sampler.maxOffPolicyThreshold →
        ∀ item ∈ sample.items, uidOfKey item.1 = uid → item ∈ sample.kept) ∧
      (cfg.sampler.maxOffPolicyThreshold < staleness sample.globalSteps task.globalSteps →
        ∀ item ∈ sample.items, uidOfKey item.1 = uid →
          item ∈ sample.dropped ∧ tq.tag? s.store item.1 = none) := by
  have hinv := inv_of_run h
  intro sample hsample uid huid
  have hfull := full_of_run h sample hsample
  rcases hinv.takenEnded uid (mem_flatMap.mpr ⟨sample, hsample, huid⟩) with ⟨task, htask, -⟩
  -- a trajectory says the step of its prompt
  have hsteps : ∀ item ∈ sample.items, uidOfKey item.1 = uid →
      item.2.globalSteps = some task.globalSteps := by
    intro item hitem hkey
    rcases (hinv.produced sample hsample item hitem).2 with ⟨task', htask', hmem⟩
    rw [hkey, htask, Option.some_inj] at htask'
    subst htask'
    rcases Task.exists_tag hmem with ⟨output, htag⟩
    rw [htag]
    rfl
  refine ⟨task, htask, ?_, ?_⟩
  · intro hfresh item hitem hkey
    refine (mem_append.mp hitem).resolve_right ?_
    intro hmem
    rcases hfull.drop.dropped item hmem with ⟨steps, hget, hstale⟩
    rw [hsteps item hitem hkey, Option.some_inj] at hget
    subst hget
    omega
  · intro hstale item hitem hkey
    have hmem : item ∈ sample.dropped := by
      refine (mem_append.mp hitem).resolve_left ?_
      intro hmem
      rcases hfull.drop.kept hdrop item hmem with ⟨steps, hget, hfresh⟩
      rw [hsteps item hitem hkey, Option.some_inj] at hget
      subst hget
      omega
    refine ⟨hmem, ?_⟩
    rw [Option.eq_none_iff_forall_ne_some]
    intro tag htag
    have hhas := (hinv.produced sample hsample item hitem).2
    rcases hinv.known item.1 tag htag with hk | ⟨-, hk⟩ | ⟨-, hk, -⟩
    · exact hinv.not_mem_keys_of_mem (hinv.key_of_has hhas).2.1 hk
    · rcases hk (hkey ▸ mem_flatMap.mpr ⟨sample, hsample, huid⟩) with hk | hk
      · rcases (hinv.held item.1 hk).2 with hk | hk
        · exact not_mem_keptKeys_of_dropped h hsample hmem hk
        · exact hk.not_isUuid (hinv.key_of_has hhas).2.2
      · exact hk (mem_flatMap.mpr ⟨sample, hsample, mem_map_of_mem hitem⟩)
    · exact hk.not_isUuid (hinv.key_of_has hhas).2.2

/-- Between two steps nothing waits to be cleared. -/
theorem combinedKeys_of_idle (h : Runs.Run (System.machine cfg tq) s samples) {warmups : ℕ}
    (hphase : s.phase = .idle warmups) : s.combinedKeys = [] := by
  induction h generalizing warmups with
  | init hinit => exact hinit.2.2.1
  | step hrun hstep ih =>
      rcases hstep with ⟨event, henabled, hnext⟩
      cases System.step_of_next henabled hnext with
      | submit warmups' prompts hphase' => exact ih hphase'
      | task => exact ih hphase
      | sync => cases hphase
      | take => cases hphase
      | balance updates =>
          dsimp only at hphase
          split at hphase <;> cases hphase
      | endStep => rfl

/-- Between two steps the store holds the prompts that were not taken and the trajectories that
were not taken, and nothing else. Those of a taken prompt are of one that failed: they came after
it was taken, and they stay. -/
theorem store_between_steps (h : Runs.Run (System.machine cfg tq) s samples) {warmups : ℕ}
    (hphase : s.phase = .idle warmups) (key : Text) (tag : Tag) :
    tq.tag? s.store key = some tag ↔
      (∃ task, s.tasks.get? key = some task ∧ key ∉ samples.flatMap Sample.selected ∧
        tag = promptTag task) ∨
      ∃ uid task, s.tasks.get? uid = some task ∧ (key, tag) ∈ task.trajectories uid ∧
        (∀ sample ∈ samples, key ∉ sample.items.map Prod.fst) ∧
        (uid ∈ samples.flatMap Sample.selected → task.status = .failure) := by
  have hinv := inv_of_run h
  have hkeys := combinedKeys_of_idle h hphase
  have hnever : ∀ {key}, key ∉ takenKeys samples ↔
      ∀ sample ∈ samples, key ∉ sample.items.map Prod.fst := by
    intro key
    rw [takenKeys, mem_flatMap, not_exists]
    simp only [not_and]
  constructor
  · intro htag
    rcases hinv.known key tag htag with hk | ⟨⟨task, htask, hitem⟩, hk⟩ | ⟨-, -, -, hk⟩
    · left
      rcases Inv.exists_task hk with ⟨task, htask⟩
      rw [hinv.prompt key task htask] at htag
      split at htag
      · cases htag
      · rename_i hnot
        exact ⟨task, htask, hnot, (Option.some.inj htag).symm⟩
    · right
      have hnot : key ∉ takenKeys samples := by
        by_cases huid : uidOfKey key ∈ taken samples
        · refine (hk huid).resolve_left ?_
          rw [System.held, hkeys, hphase]
          exact not_mem_nil
        · have hhas : s.Has (uidOfKey key) (key, tag) := ⟨task, htask, hitem⟩
          exact hinv.not_mem_takenKeys hhas huid
      refine ⟨_, task, htask, hitem, hnever.mp hnot, ?_⟩
      intro huid
      rcases mem_flatMap.mp huid with ⟨sample, hsample, huid'⟩
      rcases hinv.takenEnded _ huid with ⟨task', htask', he⟩
      rw [htask, Option.some_inj] at htask'
      subst htask'
      refine he.resolve_left fun hfinished => hnever.mp hnot sample hsample ?_
      exact mem_map_of_mem (hinv.complete sample hsample _ huid' task htask hfinished _ hitem)
    · rw [hkeys] at hk
      cases hk
  · intro hcase
    rcases hcase with ⟨task, htask, hnot, rfl⟩ | ⟨uid, task, htask, hitem, hnot, -⟩
    · rw [hinv.prompt key task htask, if_neg (show key ∉ taken samples from hnot)]
    · exact hinv.stored uid (key, tag) ⟨task, htask, hitem⟩ (hnever.mpr hnot)

/-! ## A run with one prompt -/

/-- A store that is a dictionary for each partition. -/
structure DictStore where
  tags : Partition → Dict Text Tag
  nodup : ∀ p, (tags p).keys.Nodup

def DictStore.replace (store : DictStore) (p : Partition) (d : Dict Text Tag)
    (hnodup : d.keys.Nodup) : DictStore where
  tags p' := if p' = p then d else store.tags p'
  nodup p' := by
    split
    · exact hnodup
    · exact store.nodup p'

def DictStore.kvPut (store : DictStore) (p : Partition) (key : Text) (tag : Tag) : DictStore :=
  store.replace p ((store.tags p).set key ((((store.tags p).get? key).getD {}).update tag))
    (Dict.nodup_keys_set _ _ _ (store.nodup p))

def DictStore.kvClear (store : DictStore) (p : Partition) (keys : List Text) : DictStore :=
  store.replace p ((store.tags p).filter fun item => !keys.contains item.1)
    ((store.nodup p).sublist (filter_sublist.map Prod.fst))

theorem DictStore.kvList_kvPut (store : DictStore) (p : Partition) (key : Text) (tag : Tag)
    (p' : Partition) (key' : Text) : ((store.kvPut p key tag).tags p').get? key' =
      if p' = p ∧ key' = key then some ((((store.tags p).get? key).getD {}).update tag)
      else (store.tags p').get? key' := by
  by_cases hp : p' = p
  · subst hp
    by_cases hkey : key' = key
    · subst hkey
      simp [DictStore.kvPut, DictStore.replace]
    · simpa [DictStore.kvPut, DictStore.replace, hkey] using Dict.get?_set_of_ne _ _ hkey
  · simp [DictStore.kvPut, DictStore.replace, hp]

theorem get?_filter_not_contains (d : Dict Text Tag) (keys : List Text) (key : Text) :
    Dict.get? (d.filter fun item => !keys.contains item.1) key =
      if key ∈ keys then none else d.get? key := by
  induction d with
  | nil => simp
  | cons item items ih =>
      by_cases hitem : item.1 ∈ keys
      · rw [filter_cons_of_neg (by simpa using hitem), ih]
        by_cases hkey : key ∈ keys
        · rw [if_pos hkey, if_pos hkey]
        · rw [if_neg hkey, if_neg hkey, Dict.get?, if_neg]
          intro he
          exact hkey (he ▸ hitem)
      · rw [filter_cons_of_pos (by simpa using hitem), Dict.get?, ih, Dict.get?]
        by_cases he : item.1 = key
        · simp [he, he ▸ hitem]
        · simp [he]

theorem DictStore.kvList_kvClear (store : DictStore) (p : Partition) (keys : List Text)
    (p' : Partition) (key' : Text) : ((store.kvClear p keys).tags p').get? key' =
      if p' = p ∧ key' ∈ keys then none else (store.tags p').get? key' := by
  by_cases hp : p' = p
  · subst hp
    simp only [DictStore.kvClear, DictStore.replace, if_true, true_and]
    exact get?_filter_not_contains _ _ _
  · simp [DictStore.kvClear, DictStore.replace, hp]

def dictQueue : TransferQueue where
  Store := DictStore
  kvList := DictStore.tags
  kvPut := DictStore.kvPut
  kvClear := DictStore.kvClear
  nodup := DictStore.nodup
  kvList_kvPut := DictStore.kvList_kvPut
  kvList_kvClear := DictStore.kvList_kvClear

/-- One update a step, on a batch with a prompt for each of the ranks. -/
def onePromptPerRank (strategy : MaxOffPolicyStrategy) (dpSize : ℕ) (hpos : 0 < dpSize) :
    FitConfig where
  sampler := ⟨2, strategy, Nat.two_pos⟩
  rolloutN := 1
  trainBatchSize := dpSize
  parameterSyncStep := 1
  numWarmupBatches := 0
  dpSize := dpSize
  criticMiniBatchSize := none
  actorMiniBatchSize := 1
  criticWarmup := 0
  divides := one_dvd dpSize
  trainBatchSize_pos := hpos

def onePrompt (strategy : MaxOffPolicyStrategy) : FitConfig :=
  onePromptPerRank strategy 1 Nat.one_pos

def emptySystem : System dictQueue where
  store := ⟨fun _ => [], fun _ => nodup_nil⟩
  tasks := []
  globalSteps := 1
  phase := .idle 0
  combinedKeys := []

/-- A step takes the prompt that it submitted, and clears its trajectory. -/
theorem exists_run_onePrompt (strategy : MaxOffPolicyStrategy) :
    ∃ s sample, Runs.Run (System.machine (onePrompt strategy) dictQueue) s [sample] ∧
      s.phase = .idle 0 ∧ sample.selected = [lit "a"] ∧
      sample.kept.map Prod.fst = [lit "a_0_0"] := by
  have huuid : IsUuid (lit "a") := by simp [IsUuid, lit]
  have hpad : IsPadUid (lit "pad") := ⟨[], rfl, fun _ h => absurd h not_mem_nil⟩
  have hinit : Runs.Run (System.machine (onePrompt strategy) dictQueue) emptySystem [] :=
    .init ⟨fun _ => rfl, rfl, rfl, rfl⟩
  have hadd := hinit.step ⟨.addBatch [(lit "a", none)],
    ⟨rfl, nodup_singleton _, fun prompt h => mem_singleton.mp h ▸ huuid⟩, rfl⟩
  have hstart := hadd.step ⟨.task (lit "a") .start, trivial, rfl⟩
  have hreturn := hstart.step
    ⟨.task (lit "a") (.sessionReturns 0 [⟨3, 2, none, none⟩]), trivial, rfl⟩
  have hfinish := hreturn.step ⟨.task (lit "a") .finish, trivial, rfl⟩
  have hsync := hfinish.step ⟨.sync, trivial, rfl⟩
  cases strategy with
  | wait =>
      have htake := hsync.step ⟨.take [lit "a"], Perm.refl _, rfl⟩
      have hbalance := htake.step ⟨.balance (lit "pad"), hpad, rfl⟩
      exact ⟨_, _, hbalance.step ⟨.endStep, trivial, rfl⟩, rfl, rfl, rfl⟩
  | drop =>
      have htake := hsync.step ⟨.take [lit "a"], Perm.refl _, rfl⟩
      have hbalance := htake.step ⟨.balance (lit "pad"), hpad, rfl⟩
      exact ⟨_, _, hbalance.step ⟨.endStep, trivial, rfl⟩, rfl, rfl, rfl⟩

theorem samples_take_groups_onePrompt : ∃ s sample,
    Runs.Run (System.machine (onePrompt .wait) dictQueue) s [sample] ∧
      sample.selected = [lit "a"] ∧ sample.selected.length = 1 := by
  rcases exists_run_onePrompt .wait with ⟨s, sample, hrun, -, hselected, -⟩
  exact ⟨s, sample, hrun, hselected,
    ((samples_take_groups hrun).2.2 sample mem_cons_self).1⟩

theorem groups_drop_whole_onePrompt : ∃ s sample,
    Runs.Run (System.machine (onePrompt .drop) dictQueue) s [sample] ∧
      ∀ uid ∈ sample.selected, ∃ task, s.tasks.get? uid = some task ∧
        (staleness sample.globalSteps task.globalSteps ≤ 2 →
          ∀ item ∈ sample.items, uidOfKey item.1 = uid → item ∈ sample.kept) := by
  rcases exists_run_onePrompt .drop with ⟨s, sample, hrun, -, -, -⟩
  refine ⟨s, sample, hrun, ?_⟩
  intro uid huid
  rcases groups_drop_whole hrun rfl sample mem_cons_self uid huid with ⟨task, htask, hkept, -⟩
  exact ⟨task, htask, hkept⟩

theorem store_between_steps_onePrompt : ∃ s sample,
    Runs.Run (System.machine (onePrompt .wait) dictQueue) s [sample] ∧
      dictQueue.tag? s.store (lit "a") = none := by
  rcases exists_run_onePrompt .wait with ⟨s, sample, hrun, hphase, hselected, -⟩
  refine ⟨s, sample, hrun, ?_⟩
  rw [Option.eq_none_iff_forall_ne_some]
  intro tag htag
  have huuid : IsUuid (lit "a") := by simp [IsUuid, lit]
  rcases (store_between_steps hrun hphase (lit "a") tag).mp htag with
    ⟨task, -, hnot, -⟩ | ⟨uid, task, htask, hitem, -⟩
  · exact hnot (by simp [hselected])
  · exact huuid.not_mem ((inv_of_run hrun).key_of_has ⟨task, htask, hitem⟩).2.1

end SearchR1.ReplayBuffer
