import SearchR1.Verification.ReplayBuffer.Invariant

/-! # The invariant along every run -/

namespace SearchR1.ReplayBuffer

open PyText List

variable {tq : TransferQueue} {cfg : FitConfig} {s s' : System tq} {samples : List Sample}

/-- What a step of the trainer or of a task can be. -/
inductive System.Step (cfg : FitConfig) (s : System tq) : System tq → List Sample → Prop where
  | submit (warmups : ℕ) (prompts : List (Text × Option ℕ)) (hphase : s.phase = .idle warmups)
      (hlength : prompts.length = cfg.trainBatchSize)
      (hnodup : (s.tasks.keys ++ prompts.map Prod.fst).Nodup)
      (huuid : ∀ prompt ∈ prompts, IsUuid prompt.1) : Step cfg s (s.submit cfg prompts) []
  | task (uid : Text) (task task' : Task) (items : List (Text × Tag))
      (htask : s.tasks.get? uid = some task) (hstep : task.Step uid task' items) :
      Step cfg s { s with
        tasks := s.tasks.set uid task'
        store := tq.kvBatchPut s.store .train items } []
  | sync (updates : ℕ) (m₀ : Option Metadata) (metadata : Partition → Metadata)
      (hphase : s.phase = .sampling updates m₀) (h : syncMetadata tq s.store = .ok metadata) :
      Step cfg s { s with phase := .sampling updates (some (metadata .train)) } []
  | take (updates : ℕ) (m : Metadata) (order : List Text) (sample : Sample) (store' : tq.Store)
      (hphase : s.phase = .sampling updates (some m))
      (horder : order ~ m.finishedKeys ++ m.failureKeys)
      (henough : hasEnoughSamples cfg.sampler m s.globalSteps cfg.sampleBatchSize)
      (hspec : TakeSpec cfg.sampler tq s.store m order s.globalSteps cfg.sampleBatchSize sample
        store') :
      Step cfg s { s with store := store', phase := .balancing updates sample.kept } [sample]
  | balance (updates : ℕ) (batch padding ordered : List (Text × Tag)) (padUid : Text)
      (hphase : s.phase = .balancing updates batch) (hpad : IsPadUid padUid)
      (h : balanceBatch cfg s.globalSteps padUid batch = some (padding, ordered)) :
      Step cfg s { s with
        store := tq.kvBatchPut s.store .train padding
        phase := if updates ≤ 1 then .stepEnd else .sampling (updates - 1) none
        combinedKeys := s.combinedKeys ++ ordered.map Prod.fst } []
  | endStep (hphase : s.phase = .stepEnd) :
      Step cfg s { s with
        store := tq.kvClear s.store .train s.combinedKeys
        globalSteps := s.globalSteps + 1
        phase := .idle 0
        combinedKeys := [] } []

theorem System.step_of_next {event : Event} {new : List Sample} (henabled : event.Enabled cfg s)
    (h : s.next cfg event = some (s', new)) : s.Step cfg s' new := by
  cases event with
  | addBatch prompts =>
      rw [next] at h
      split at h
      · rename_i warmups hphase
        cases h
        exact .submit warmups prompts hphase henabled.1 henabled.2.1 henabled.2.2
      · cases h
  | task uid event =>
      rcases Option.bind_eq_some_iff.mp h with ⟨task, htask, h⟩
      rcases Option.map_eq_some_iff.mp h with ⟨⟨task', items⟩, hnext, he⟩
      cases he
      exact .task uid task task' items htask (Task.step_of_next hnext)
  | sync =>
      rw [next] at h
      split at h
      · rename_i updates m₀ hphase
        rw [Option.ite_none_left_eq_some] at h
        rcases Option.map_eq_some_iff.mp h.2 with ⟨metadata, hmetadata, he⟩
        cases he
        rcases hok : syncMetadata tq s.store with error | metadata'
        · rw [hok] at hmetadata
          cases hmetadata
        · rw [hok] at hmetadata
          cases hmetadata
          exact .sync updates m₀ metadata hphase hok
      · cases h
  | take order =>
      rw [next] at h
      rw [Event.Enabled] at henabled
      split at h
      · rename_i updates m hphase
        rw [hphase] at henabled
        rw [Option.ite_none_right_eq_some] at h
        rcases Option.map_eq_some_iff.mp h.2 with ⟨⟨sample, store'⟩, htake, he⟩
        cases he
        exact .take updates m order sample store' hphase henabled h.1 (takeSpec_of_some htake)
      · cases h
  | balance padUid =>
      rw [next] at h
      split at h
      · rename_i updates batch hphase
        rcases Option.map_eq_some_iff.mp h with ⟨⟨padding, ordered⟩, hbalance, he⟩
        cases he
        exact .balance updates batch padding ordered padUid hphase henabled hbalance
      · cases h
  | endStep =>
      rw [next] at h
      split at h
      · rename_i hphase
        cases h
        exact .endStep hphase
      · cases h

namespace Inv

/-- A trajectory that was taken is one of its prompt. -/
theorem has_of_mem_takenKeys (hinv : Inv s samples) {key : Text} (h : key ∈ takenKeys samples) :
    ∃ item, item.1 = key ∧ s.Has (uidOfKey key) item := by
  rcases mem_flatMap.mp h with ⟨sample, hsample, hmem⟩
  rcases mem_map.mp hmem with ⟨item, hitem, rfl⟩
  exact ⟨item, rfl, (hinv.produced sample hsample item hitem).2⟩

/-- A step of a task. -/
theorem task (hinv : Inv s samples) {uid : Text} {task task' : Task} {items : List (Text × Tag)}
    (htask : s.tasks.get? uid = some task) (hstep : task.Step uid task' items) :
    Inv { s with
      tasks := s.tasks.set uid task'
      store := tq.kvBatchPut s.store .train items } samples := by
  have huuid := hinv.uuid uid (mem_keys htask)
  have hsound := hstep.sound (hinv.sound uid task htask)
  have hended := hstep.status_of_ended
  have hrunning := hstep.not_finished
  cases hstep with
  | moves status hmove =>
      have hopen : ¬ task.Ended := by
        intro he
        rcases hmove with ⟨hstatus, -⟩ | ⟨hstatus, -⟩ <;> rcases he with he | he <;>
          rw [hstatus] at he <;> cases he
      have hnot : uid ∉ taken samples := by
        intro h
        rcases hinv.takenEnded uid h with ⟨task₀, htask₀, he⟩
        rw [htask, Option.some_inj] at htask₀
        exact hopen (htask₀ ▸ he)
      have hnew : ∀ item ∈ ([] : List (Text × Tag)), item.1 ∉ takenKeys samples := by
        intro item hitem
        cases hitem
      refine hinv.progress htask rfl hsound hended hrunning ?_ hnew
        (kvList_val_kvBatchPut _ _) ?_ ?_ ?_
      · intro item
        exact (or_iff_left not_mem_nil).symm
      · have htag := hinv.prompt uid task htask
        rw [if_neg hnot] at htag ⊢
        change tq.tag? (tq.kvPut s.store .train uid { status := some status }) uid = _
        rw [tag?_kvPut, if_pos rfl, htag]
        rfl
      · intro item hitem
        cases hitem
      · intro key hne _
        apply tag?_kvBatchPut_of_not_mem
        simpa using hne
  | ends i session hstatus hi hne =>
      have hsession : ∀ {item item' : Text × Tag},
          item ∈ sessionItems uid task.globalSteps i session.outputs →
          s.Has (uidOfKey item'.1) item' → item.1 ≠ item'.1 := by
        intro item item' hitem h he
        rcases mem_sessionItems.mp hitem with ⟨j, output, -, rfl⟩
        rw [← he, uidOfKey_trajectoryKey huuid.not_mem] at h
        rcases h with ⟨task₀, htask₀, hmem⟩
        rw [htask, Option.some_inj] at htask₀
        subst htask₀
        exact Task.not_mem_of_running huuid.not_mem hi hitem hmem he
      have hnone : ∀ item ∈ sessionItems uid task.globalSteps i session.outputs,
          tq.tag? s.store item.1 = none := by
        intro item hitem
        rcases mem_sessionItems.mp hitem with ⟨j, output, -, he⟩
        rw [Option.eq_none_iff_forall_ne_some]
        intro tag htag
        rcases hinv.known item.1 tag htag with h | ⟨h, -⟩ | ⟨-, hpad, -⟩
        · rw [he] at h
          exact hinv.not_mem_keys_of_mem (mem_trajectoryKey uid i j) h
        · have hhas : s.Has (uidOfKey (item.1, tag).1) (item.1, tag) := h
          exact hsession hitem hhas rfl
        · rw [he, uidOfKey_trajectoryKey huuid.not_mem] at hpad
          exact hpad.not_isUuid huuid
      have hkeys : uid ∉ (sessionItems uid task.globalSteps i session.outputs).map Prod.fst := by
        intro h
        rcases mem_map.mp h with ⟨item, hitem, he⟩
        rcases mem_sessionItems.mp hitem with ⟨j, output, -, rfl⟩
        exact huuid.ne_trajectoryKey uid i j he.symm
      refine hinv.progress htask rfl hsound hended hrunning
        (fun item => Task.mem_trajectories_set hi session) ?_ (kvList_val_kvBatchPut _ _) ?_ ?_ ?_
      · intro item hitem h
        rcases hinv.has_of_mem_takenKeys h with ⟨item', he, hhas⟩
        rw [← he] at hhas
        exact hsession hitem hhas he.symm
      · rw [tag?_kvBatchPut_of_not_mem hkeys]
        exact hinv.prompt uid task htask
      · intro item hitem
        exact tag?_kvBatchPut_of_mem (nodup_sessionItems huuid.not_mem _ _ _) hnone hitem
      · intro key _ hkey
        exact tag?_kvBatchPut_of_not_mem hkey _

/-- The tasks of a new batch. -/
def added (cfg : FitConfig) (s : System tq) (prompts : List (Text × Option ℕ)) : Dict Text Task :=
  prompts.map fun prompt => (prompt.1, Task.submit s.globalSteps (prompt.2.getD cfg.rolloutN))

theorem keys_added (cfg : FitConfig) (s : System tq) (prompts : List (Text × Option ℕ)) :
    (added cfg s prompts).keys = prompts.map Prod.fst := by
  simp [added, Dict.keys]

theorem keys_submit (cfg : FitConfig) (s : System tq) (prompts : List (Text × Option ℕ)) :
    (s.submit cfg prompts).tasks.keys = s.tasks.keys ++ prompts.map Prod.fst := by
  rw [← keys_added cfg s]
  exact map_append

theorem held_submit {warmups : ℕ} (hphase : s.phase = .idle warmups)
    (prompts : List (Text × Option ℕ)) : (s.submit cfg prompts).held = s.held := by
  cases warmups with
  | zero => simp [System.held, System.submit, hphase, Phase.batchKeys]
  | succ warmups => simp [System.held, System.submit, hphase, Phase.batchKeys]

/-- A batch of new prompts. -/
theorem submit (hinv : Inv s samples) {warmups : ℕ} {prompts : List (Text × Option ℕ)}
    (hphase : s.phase = .idle warmups) (hnodup : (s.tasks.keys ++ prompts.map Prod.fst).Nodup)
    (huuid : ∀ prompt ∈ prompts, IsUuid prompt.1) : Inv (s.submit cfg prompts) samples := by
  have hkeys := keys_submit cfg s prompts
  have hphase' : (∃ w, (s.submit cfg prompts).phase = .idle w) ∨
      ∃ n, (s.submit cfg prompts).phase = .sampling n none := by
    cases warmups with
    | zero => exact .inr ⟨_, by rw [System.submit, hphase]⟩
    | succ warmups => exact .inl ⟨_, by rw [System.submit, hphase]⟩
  have hnew : ∀ {uid}, uid ∈ prompts.map Prod.fst → uid ∉ s.tasks.keys ∧ IsUuid uid := by
    intro uid h
    refine ⟨fun hmem => (nodup_append.mp hnodup).2.2 uid hmem uid h rfl, ?_⟩
    rcases mem_map.mp h with ⟨prompt, hprompt, rfl⟩
    exact huuid prompt hprompt
  have hnot : ∀ {uid}, uid ∈ prompts.map Prod.fst → uid ∉ taken samples := by
    intro uid h hmem
    rcases hinv.takenEnded uid hmem with ⟨task, htask, -⟩
    exact (hnew h).1 (mem_keys htask)
  -- the tasks afterwards: those there were, and waiting ones
  have hget : ∀ {uid task}, (s.submit cfg prompts).tasks.get? uid = some task ↔
      s.tasks.get? uid = some task ∨ (uid, task) ∈ added cfg s prompts := by
    intro uid task
    have hadded : (added cfg s prompts).get? uid = some task ↔ (uid, task) ∈ added cfg s prompts :=
      ⟨Dict.mem_of_get?, Dict.get?_of_mem (by
        rw [keys_added]
        exact (nodup_append.mp hnodup).2.1)⟩
    change (s.tasks ++ added cfg s prompts).get? uid = some task ↔ _
    rw [Dict.get?_append, Option.or_eq_some_iff, hadded]
    refine or_congr_right ⟨fun h => h.2, fun h => ⟨?_, h⟩⟩
    apply (Dict.get?_eq_none_iff _ _).mpr
    apply (hnew _).1
    rw [← keys_added cfg s]
    exact mem_map_of_mem (f := Prod.fst) h
  have hhas : ∀ {uid item}, (s.submit cfg prompts).Has uid item ↔ s.Has uid item := by
    intro uid item
    simp only [System.Has, hget]
    constructor
    · intro h
      rcases h with ⟨task, h | h, hitem⟩
      · exact ⟨task, h, hitem⟩
      · rcases mem_map.mp h with ⟨prompt, -, he⟩
        cases he
        rw [Task.trajectories_submit] at hitem
        cases hitem
    · intro h
      rcases h with ⟨task, h, hitem⟩
      exact ⟨task, .inl h, hitem⟩
  have hfst : (prompts.map fun prompt => (prompt.1,
      promptTag (Task.submit s.globalSteps (prompt.2.getD cfg.rolloutN)))).map Prod.fst =
        prompts.map Prod.fst := by
    simp
  have hother : ∀ {key}, key ∉ prompts.map Prod.fst →
      tq.tag? (s.submit cfg prompts).store key = tq.tag? s.store key := by
    intro key h
    exact tag?_kvBatchPut_of_not_mem (hfst ▸ h) _
  have hprompt : ∀ {uid task}, (uid, task) ∈ added cfg s prompts →
      tq.tag? (s.submit cfg prompts).store uid = some (promptTag task) := by
    intro uid task h
    rcases mem_map.mp h with ⟨prompt, hmem, he⟩
    cases he
    have hnone : ∀ item ∈ prompts.map fun prompt => (prompt.1,
        promptTag (Task.submit s.globalSteps (prompt.2.getD cfg.rolloutN))),
        tq.tag? s.store item.1 = none := by
      intro item hitem
      have hfresh := hnew (hfst ▸ mem_map_of_mem (f := Prod.fst) hitem)
      rw [Option.eq_none_iff_forall_ne_some]
      intro tag htag
      rcases hinv.known item.1 tag htag with h | ⟨h, -⟩ | ⟨h, -⟩
      · exact hfresh.1 h
      · exact hfresh.2.not_mem (hinv.key_of_has h).2.1
      · exact hfresh.2.not_mem h
    have hput := tag?_kvBatchPut_of_mem (hfst ▸ (nodup_append.mp hnodup).2.1) hnone
      (mem_map.mpr ⟨prompt, hmem, rfl⟩)
    exact hput
  have hitem : ∀ {uid item}, s.Has uid item → item.1 ∉ prompts.map Prod.fst := fun h hmem =>
    (hnew hmem).2.not_mem (hinv.key_of_has h).2.1
  refine ⟨?_, hkeys ▸ hnodup, ?_, ?_, hinv.takenNodup, ?_, ?_, ?_, ?_, ?_, ?_, ?_, ?_, ?_⟩
  · exact fun key => (kvList_val_kvBatchPut _ _ key).trans (hinv.val key)
  · intro uid h
    rw [hkeys, mem_append] at h
    exact h.elim (hinv.uuid uid) fun h => (hnew h).2
  · intro uid task h
    rcases hget.mp h with h | h
    · exact hinv.sound uid task h
    · rcases mem_map.mp h with ⟨prompt, -, he⟩
      cases he
      exact Task.sound_submit _ _
  · intro uid h
    rcases hinv.takenEnded uid h with ⟨task, htask, he⟩
    exact ⟨task, hget.mpr (.inl htask), he⟩
  · intro uid task h
    rcases hget.mp h with h | h
    · rw [hother fun hmem => (hnew hmem).1 (mem_keys h)]
      exact hinv.prompt uid task h
    · rw [hprompt h, if_neg]
      apply hnot
      rw [← keys_added cfg s]
      exact mem_map_of_mem (f := Prod.fst) h
  · intro uid item h hnottaken
    rw [hother (hitem (hhas.mp h))]
    exact hinv.stored uid item (hhas.mp h) hnottaken
  · intro key tag h
    rw [hkeys, held_submit hphase]
    by_cases hkey : key ∈ prompts.map Prod.fst
    · exact .inl (mem_append_right _ hkey)
    · rw [hother hkey] at h
      rcases hinv.known key tag h with hk | ⟨hk, hrest⟩ | hk
      · exact .inl (mem_append_left _ hk)
      · exact .inr (.inl ⟨hhas.mpr hk, hrest⟩)
      · exact .inr (.inr hk)
  · rw [held_submit hphase]
    exact hinv.held
  · intro updates batch he
    rcases hphase' with ⟨w, hw⟩ | ⟨n, hn⟩
    · rw [hw] at he
      cases he
    · rw [hn] at he
      cases he
  · intro sample hsample item hmem
    rcases hinv.produced sample hsample item hmem with ⟨huid, h⟩
    exact ⟨huid, hhas.mpr h⟩
  · intro sample hsample uid huid task h
    rcases hget.mp h with h | h
    · exact hinv.complete sample hsample uid huid task h
    · refine absurd (mem_flatMap.mpr ⟨sample, hsample, huid⟩) (hnot ?_)
      rw [← keys_added cfg s]
      exact mem_map_of_mem (f := Prod.fst) h
  · intro updates m he
    rcases hphase' with ⟨w, hw⟩ | ⟨n, hn⟩
    · rw [hw] at he
      cases he
    · rw [hn] at he
      cases he

/-- The keys of a padding. -/
theorem key_of_padding {padUid : Text} (hpad : IsPadUid padUid) {multiple : ℕ}
    {batch padding : List (Text × Tag)} (h : paddingItems padUid multiple batch = some padding)
    {item : Text × Tag} (hitem : item ∈ padding) : uidOfKey item.1 = padUid ∧ ch '_' ∈ item.1 := by
  rw [paddingItems, Option.ite_none_left_eq_some] at h
  rcases h with ⟨-, h⟩
  dsimp only at h
  split at h
  · cases h
    cases hitem
  · cases h
    rcases mem_map.mp hitem with ⟨i, -, rfl⟩
    exact ⟨uidOfKey_trajectoryKey hpad.not_mem i 0, mem_trajectoryKey padUid i 0⟩

/-- A padding is made of a tag that marks no prompt. -/
theorem not_marksPrompt_of_padding {padUid : Text} {multiple : ℕ}
    {batch padding : List (Text × Tag)} (h : paddingItems padUid multiple batch = some padding)
    (hbatch : ∀ item ∈ batch, item.2.isPrompt = none) {item : Text × Tag} (hitem : item ∈ padding) :
    item.2.marksPrompt = false := by
  rw [paddingItems, Option.ite_none_left_eq_some] at h
  rcases h with ⟨-, h⟩
  dsimp only at h
  split at h
  · cases h
    cases hitem
  · cases h
    rcases mem_map.mp hitem with ⟨i, -, rfl⟩
    cases batch with
    | nil => rfl
    | cons first batch =>
        have hfirst := hbatch first mem_cons_self
        simp [Tag.marksPrompt, paddingTag, Tag.update, hfirst]

theorem balance (hinv : Inv s samples) {updates : ℕ} {batch padding ordered : List (Text × Tag)}
    {padUid : Text} (hphase : s.phase = .balancing updates batch) (hpad : IsPadUid padUid)
    (h : balanceBatch cfg s.globalSteps padUid batch = some (padding, ordered))
    {phase' : Phase} (hphase' : phase' = .stepEnd ∨ ∃ updates, phase' = .sampling updates none) :
    Inv { s with
      store := tq.kvBatchPut s.store .train padding
      phase := phase'
      combinedKeys := s.combinedKeys ++ ordered.map Prod.fst } samples := by
  rcases Option.bind_eq_some_iff.mp h with ⟨padding', hpadding, h⟩
  rcases Option.map_eq_some_iff.mp h with ⟨ordered', hordered, he⟩
  cases he
  have hheld' : System.held { s with
      store := tq.kvBatchPut s.store .train padding
      phase := phase'
      combinedKeys := s.combinedKeys ++ ordered.map Prod.fst } =
        s.combinedKeys ++ ordered.map Prod.fst := by
    rcases hphase' with rfl | ⟨n, rfl⟩ <;> exact append_nil _
  have hmem : ∀ {key}, key ∈ ordered.map Prod.fst ↔
      key ∈ batch.map Prod.fst ∨ key ∈ padding.map Prod.fst := by
    intro key
    rw [((balancedOrder_perm hordered).map Prod.fst).mem_iff, map_append, mem_append]
  have hkeys : ∀ {key}, key ∈ padding.map Prod.fst →
      ch '_' ∈ key ∧ IsPadUid (uidOfKey key) := by
    intro key hkey
    rcases mem_map.mp hkey with ⟨item, hitem, rfl⟩
    rcases key_of_padding hpad hpadding hitem with ⟨huid, hsep⟩
    exact ⟨hsep, huid.symm ▸ hpad⟩
  have hbatch : ∀ item ∈ batch, item.2.isPrompt = none := by
    intro item hitem
    rcases hinv.batch updates batch hphase item hitem with ⟨task, -, hmem⟩
    rcases Task.exists_tag hmem with ⟨output, htag⟩
    rw [htag]
    rfl
  have hsame : ∀ {key}, key ∉ padding.map Prod.fst →
      tq.tag? (tq.kvBatchPut s.store .train padding) key = tq.tag? s.store key :=
    fun hkey => tag?_kvBatchPut_of_not_mem hkey _
  refine ⟨?_, hinv.nodup, hinv.uuid, hinv.sound, hinv.takenNodup, hinv.takenEnded, ?_, ?_, ?_, ?_,
    ?_, hinv.produced, hinv.complete, ?_⟩
  · exact fun key => (kvList_val_kvBatchPut _ _ key).trans (hinv.val key)
  · intro uid task htask
    rw [hsame]
    · exact hinv.prompt uid task htask
    · intro hkey
      exact (hinv.uuid uid (mem_keys htask)).not_mem (hkeys hkey).1
  · intro uid item hhas hnot
    rw [hsame]
    · exact hinv.stored uid item hhas hnot
    · intro hkey
      rcases hinv.key_of_has hhas with ⟨huid, -, huuid⟩
      exact (hkeys hkey).2.not_isUuid (huid.symm ▸ huuid)
  · intro key tag htag
    rw [hheld']
    by_cases hkey : key ∈ padding.map Prod.fst
    · rcases hkeys hkey with ⟨hsep, hpadUid⟩
      refine .inr (.inr ⟨hsep, hpadUid, ?_, mem_append_right _ (hmem.mpr (.inr hkey))⟩)
      refine not_marksPrompt_kvBatchPut
        (fun item hitem => not_marksPrompt_of_padding hpadding hbatch hitem) ?_ htag
      intro old hold
      rcases hinv.known key old hold with hk | ⟨hk, -⟩ | ⟨-, -, hk, -⟩
      · exact absurd hk (hinv.not_mem_keys_of_mem hsep)
      · exact absurd (hinv.key_of_has hk).2.2 hpadUid.not_isUuid
      · exact hk
    · rcases hinv.known key tag ((hsame hkey).symm.trans htag) with hk | ⟨hk, hrest⟩ |
        ⟨hsep, hpadUid, hprompt, hk⟩
      · exact .inl hk
      · refine .inr (.inl ⟨hk, fun huid => (hrest huid).imp_left ?_⟩)
        intro hheld
        rw [System.held, hphase, mem_append] at hheld
        rw [mem_append]
        exact hheld.imp_right fun hk => hmem.mpr (.inl hk)
      · exact .inr (.inr ⟨hsep, hpadUid, hprompt, mem_append_left _ hk⟩)
  · intro key hkey
    rw [hheld', mem_append] at hkey
    rcases hkey with hkey | hkey
    · exact hinv.held key (mem_append_left _ hkey)
    · rcases hmem.mp hkey with hkey | hkey
      · apply hinv.held key
        rw [System.held, hphase]
        exact mem_append_right _ hkey
      · exact (hkeys hkey).imp_right .inr
  · intro updates' batch' he
    rcases hphase' with rfl | ⟨n, rfl⟩ <;> cases he
  · intro updates' m he
    rcases hphase' with rfl | ⟨n, rfl⟩ <;> cases he

theorem takenKeys_of_keptKeys {key : Text} (h : key ∈ keptKeys samples) :
    key ∈ takenKeys samples := by
  rcases mem_flatMap.mp h with ⟨sample, hsample, hmem⟩
  refine mem_flatMap.mpr ⟨sample, hsample, ?_⟩
  rw [Sample.items, map_append]
  exact mem_append_left _ hmem

theorem endStep (hinv : Inv s samples) (hphase : s.phase = .stepEnd) :
    Inv { s with
      store := tq.kvClear s.store .train s.combinedKeys
      globalSteps := s.globalSteps + 1
      phase := .idle 0
      combinedKeys := [] } samples := by
  have hheld : s.held = s.combinedKeys := by
    rw [System.held, hphase]
    exact append_nil _
  have hkeep : ∀ {key tag}, tq.tag? (tq.kvClear s.store .train s.combinedKeys) key = some tag →
      key ∉ s.combinedKeys ∧ tq.tag? s.store key = some tag := by
    intro key tag h
    rw [tag?_kvClear] at h
    split at h
    · cases h
    · rename_i hnot
      exact ⟨hnot, h⟩
  refine ⟨?_, hinv.nodup, hinv.uuid, hinv.sound, hinv.takenNodup, hinv.takenEnded, ?_, ?_, ?_, ?_,
    ?_, hinv.produced, hinv.complete, ?_⟩
  · intro key
    rw [tq.kvList_kvClear]
    simpa using hinv.val key
  · intro uid task htask
    rw [tag?_kvClear, if_neg]
    · exact hinv.prompt uid task htask
    · intro hmem
      exact (hinv.uuid uid (mem_keys htask)).not_mem (hinv.held uid (hheld ▸ hmem)).1
  · intro uid item h hnot
    rw [tag?_kvClear, if_neg]
    · exact hinv.stored uid item h hnot
    · intro hmem
      rcases (hinv.held item.1 (hheld ▸ hmem)).2 with hkept | hpad
      · exact hnot (takenKeys_of_keptKeys hkept)
      · rcases hinv.key_of_has h with ⟨hkey, -, huuid⟩
        exact hpad.not_isUuid (hkey ▸ huuid)
  · intro key tag h
    rcases hkeep h with ⟨hnot, hold⟩
    rcases hinv.known key tag hold with hk | ⟨hk, hrest⟩ | ⟨-, -, -, hk⟩
    · exact .inl hk
    · exact .inr (.inl ⟨hk, fun huid => .inr ((hrest huid).resolve_left (hheld ▸ hnot))⟩)
    · exact absurd hk hnot
  · intro key hkey
    cases hkey
  · intro updates batch he
    cases he
  · intro updates m he
    cases he

/-- The buffer never raises when it reads the store, and it reads what the store holds. -/
theorem exists_sync (hinv : Inv s samples) : ∃ metadata, syncMetadata tq s.store = .ok metadata ∧
    (metadata .train).Reads (tq.kvList s.store .train) :=
  exists_syncMetadata (Dict.eq_nil_of_get?_eq_none hinv.val) fun _ _ htag => hinv.readable htag

theorem step (hinv : Inv s samples) {new : List Sample} (h : s.Step cfg s' new) :
    Inv s' (samples ++ new) := by
  cases h with
  | submit warmups prompts hphase hlength hnodup huuid =>
      rw [append_nil]
      exact hinv.submit hphase hnodup huuid
  | task uid task task' items htask hstep =>
      rw [append_nil]
      exact hinv.task htask hstep
  | sync updates m₀ metadata hphase h =>
      rw [append_nil]
      rcases hinv.exists_sync with ⟨metadata', hmetadata', hreads⟩
      rw [h] at hmetadata'
      cases hmetadata'
      exact hinv.sync hphase hreads
  | take updates m order sample store' hphase horder henough hspec =>
      exact hinv.take hphase horder hspec
  | balance updates batch padding ordered padUid hphase hpad h =>
      rw [append_nil]
      refine hinv.balance hphase hpad h ?_
      split
      · exact .inl rfl
      · exact .inr ⟨_, rfl⟩
  | endStep hphase =>
      rw [append_nil]
      exact hinv.endStep hphase

theorem init (h : (System.machine cfg tq).init s) : Inv s [] := by
  rcases h with ⟨hstore, htasks, hkeys, hphase⟩
  have hnone : ∀ {uid task}, s.tasks.get? uid ≠ some task := by
    intro uid task he
    rw [htasks] at he
    cases he
  have hempty : ∀ {key tag}, tq.tag? s.store key ≠ some tag := by
    intro key tag he
    rw [TransferQueue.tag?, hstore] at he
    cases he
  have hheld : s.held = [] := by
    rw [System.held, hkeys, hphase]
    rfl
  refine ⟨?_, ?_, ?_, ?_, nodup_nil, ?_, ?_, ?_, ?_, ?_, ?_, ?_, ?_, ?_⟩
  · intro key
    rw [hstore]
    rfl
  · rw [htasks]
    exact nodup_nil
  · intro uid huid
    rw [htasks] at huid
    cases huid
  · intro uid task htask
    exact absurd htask hnone
  · intro uid huid
    cases huid
  · intro uid task htask
    exact absurd htask hnone
  · intro uid item hhas
    rcases hhas with ⟨task, htask, -⟩
    exact absurd htask hnone
  · intro key tag htag
    exact absurd htag hempty
  · intro key hkey
    rw [hheld] at hkey
    cases hkey
  · intro updates batch he
    rw [hphase] at he
    cases he
  · intro sample hsample
    cases hsample
  · intro sample hsample
    cases hsample
  · intro updates m he
    rw [hphase] at he
    cases he

end Inv

/-- The invariant holds in every interleaving. -/
theorem inv_of_run (h : Runs.Run (System.machine cfg tq) s samples) : Inv s samples := by
  apply h.invariant (I := Inv)
  · intro s hinit
    exact Inv.init hinit
  · intro s s' samples new hinv hstep
    rcases hstep with ⟨event, henabled, hnext⟩
    exact hinv.step (System.step_of_next henabled hnext)

end SearchR1.ReplayBuffer
