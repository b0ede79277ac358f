import SearchR1.Library.OldestFirst
import SearchR1.Verification.ReplayBuffer.Groups

/-! # How old the prompts are that a run takes -/

namespace SearchR1.ReplayBuffer

open PyText List

variable {tq : TransferQueue} {cfg : FitConfig} {s s' : System tq} {samples : List Sample}

/-- The step a prompt was submitted in. -/
def System.stepOf (s : System tq) (uid : Text) : ℤ :=
  ((s.tasks.get? uid).map Task.globalSteps).getD 0

/-- The prompts that were submitted and not taken. -/
def openUids (s : System tq) (samples : List Sample) : List Text :=
  s.tasks.keys.filter fun uid => !(taken samples).contains uid

/-- How many of them are from a step up to the given one. -/
def backlog (s : System tq) (samples : List Sample) (bound : ℤ) : ℕ :=
  (openUids s samples).countP fun uid => s.stepOf uid ≤ bound

/-- The prompts that the step has taken. -/
def Phase.taken (cfg : FitConfig) : Phase → ℕ
  | .idle _ => 0
  | .sampling updates _ => (cfg.parameterSyncStep - updates) * cfg.sampleBatchSize
  | .balancing updates _ => (cfg.parameterSyncStep - updates + 1) * cfg.sampleBatchSize
  | .stepEnd => cfg.trainBatchSize

/-- The prompts of the warm-up that are still to be submitted. -/
def Phase.toWarmUp (cfg : FitConfig) : Phase → ℕ
  | .idle warmups => warmups * cfg.trainBatchSize
  | _ => 0

/-- The prompts that the step has submitted. -/
def Phase.submitted (cfg : FitConfig) : Phase → ℕ
  | .idle _ => 0
  | _ => cfg.trainBatchSize

/-- The updates of the step that are left are some of all. -/
def Phase.InStep (cfg : FitConfig) : Phase → Prop
  | .sampling updates _ => 0 < updates ∧ updates ≤ cfg.parameterSyncStep
  | .balancing updates _ => 0 < updates ∧ updates ≤ cfg.parameterSyncStep
  | _ => True

/-- From which age on the trainer waits for a prompt, and has no prompt of the running step. -/
def waitAge (cfg : FitConfig) : ℤ := max cfg.sampler.maxOffPolicyThreshold 2

/-- How many prompts wait to be taken, and how many of them are old. -/
structure Ledger (cfg : FitConfig) (s : System tq) (samples : List Sample) : Prop where
  inStep : s.phase.InStep cfg
  recent : ∀ uid ∈ s.tasks.keys, s.stepOf uid ≤ s.globalSteps
  length : (openUids s samples).length + s.phase.taken cfg + s.phase.toWarmUp cfg =
    cfg.numWarmupBatches * cfg.trainBatchSize + s.phase.submitted cfg
  backlog : cfg.sampler.maxOffPolicyStrategy = .wait → ∀ j : ℕ,
    backlog s samples (s.globalSteps + 1 - waitAge cfg - j) ≤
      (cfg.numWarmupBatches - j) * cfg.trainBatchSize - s.phase.taken cfg

theorem nodup_openUids (hinv : Inv s samples) : (openUids s samples).Nodup := hinv.nodup.filter _

theorem mem_openUids {uid : Text} :
    uid ∈ openUids s samples ↔ uid ∈ s.tasks.keys ∧ uid ∉ taken samples := by
  rw [openUids, mem_filter, Bool.not_eq_true', contains_eq_mem, decide_eq_false_iff_not]

theorem stepOf_of_get? {uid : Text} {task : Task} (h : s.tasks.get? uid = some task) :
    s.stepOf uid = task.globalSteps := by
  rw [System.stepOf, h]
  rfl

/-- The metadata says of an open prompt which step it is from. -/
theorem Snapshot.stepOf_eq {m : Metadata} (h : Snapshot s samples m) {uid : Text}
    (huid : uid ∈ openUids s samples) :
    m.promptGlobalSteps.get? uid = some (s.stepOf uid) ∧ m.stepOf uid = s.stepOf uid := by
  rcases mem_openUids.mp huid with ⟨hkey, hnot⟩
  rcases Inv.exists_task hkey with ⟨task, htask⟩
  rw [Metadata.stepOf, h.steps uid task htask hnot, stepOf_of_get? htask]
  exact ⟨rfl, rfl⟩

/-- With the wait strategy the old prompts can all be taken. -/
theorem mem_order_of_old {m : Metadata} (hsnap : Snapshot s samples m)
    (hwait : cfg.sampler.maxOffPolicyStrategy = .wait)
    (henough : hasEnoughSamples cfg.sampler m s.globalSteps cfg.sampleBatchSize) {uid : Text}
    (huid : uid ∈ openUids s samples)
    (hold : cfg.sampler.maxOffPolicyThreshold ≤ staleness s.globalSteps (s.stepOf uid)) :
    uid ∈ m.finishedKeys ++ m.failureKeys := by
  rw [hasEnoughSamples, Bool.if_false_left] at henough
  rw [Bool.and_eq_true, Bool.not_eq_true', decide_eq_false_iff_not, not_and] at henough
  have hnone := henough.1 hwait
  have hready : uid ∉ m.pendingKeys ++ m.runningKeys := by
    intro hmem
    apply hnone
    rw [any_eq_true]
    refine ⟨uid, hmem, ?_⟩
    rw [(hsnap.stepOf_eq huid).1]
    exact decide_eq_true hold
  rw [mem_append, not_or] at hready
  rcases (hsnap.keysOf uid).mpr (mem_openUids.mp huid) with ⟨status, hstatus⟩
  rw [mem_append]
  cases status with
  | pending => exact absurd hstatus hready.1
  | running => exact absurd hstatus hready.2
  | finished => exact .inl hstatus
  | failure => exact .inr hstatus
  | success => cases hstatus
  | other status => cases hstatus

/-! ## The steps -/

theorem openUids_congr {samples' : List Sample} (hkeys : s'.tasks.keys = s.tasks.keys)
    (htaken : taken samples' = taken samples) : openUids s' samples' = openUids s samples := by
  rw [openUids, openUids, hkeys, htaken]

/-- A step of a task says nothing new about ages. -/
theorem stepOf_set {uid : Text} {task task' : Task} (htask : s.tasks.get? uid = some task)
    (hsteps : task'.globalSteps = task.globalSteps) (store : tq.Store) (other : Text) :
    System.stepOf { s with tasks := s.tasks.set uid task', store } other = s.stepOf other := by
  by_cases he : other = uid
  · subst he
    rw [stepOf_of_get? htask, ← hsteps]
    exact stepOf_of_get? (Dict.get?_set_self _ _ _)
  · simp only [System.stepOf]
    rw [Dict.get?_set_of_ne _ _ he]

theorem openUids_take (hsame : s'.tasks = s.tasks) (sample : Sample) :
    openUids s' (samples ++ [sample]) =
      (openUids s samples).filter (· ∉ sample.selected) := by
  rw [openUids, openUids, hsame, Inv.taken_snoc, filter_filter]
  apply filter_congr
  intro uid _
  simp only [contains_eq_mem, mem_append, ← decide_not, not_or, Bool.decide_and, Bool.and_comm]

theorem openUids_submit (hinv : Inv s samples) (prompts : List (Text × Option ℕ))
    (hnodup : (s.tasks.keys ++ prompts.map Prod.fst).Nodup) :
    openUids (s.submit cfg prompts) samples = openUids s samples ++ prompts.map Prod.fst := by
  rw [openUids, Inv.keys_submit, filter_append, ← openUids, filter_eq_self.mpr]
  intro uid huid
  rw [Bool.not_eq_true', contains_eq_mem, decide_eq_false_iff_not]
  intro htaken
  rcases hinv.takenEnded uid htaken with ⟨task, htask, -⟩
  exact (nodup_append.mp hnodup).2.2 uid (Inv.mem_keys htask) uid huid rfl

/-- A submitted prompt is from the running step. -/
theorem stepOf_submit (prompts : List (Text × Option ℕ))
    (hnodup : (s.tasks.keys ++ prompts.map Prod.fst).Nodup) (uid : Text) :
    (uid ∈ s.tasks.keys → (s.submit cfg prompts).stepOf uid = s.stepOf uid) ∧
      (uid ∈ prompts.map Prod.fst → (s.submit cfg prompts).stepOf uid = s.globalSteps) := by
  have hget : (s.submit cfg prompts).tasks.get? uid =
      (s.tasks.get? uid).or ((Inv.added cfg s prompts).get? uid) := Dict.get?_append _ _ _
  constructor
  · intro huid
    rcases Inv.exists_task huid with ⟨task, htask⟩
    rw [System.stepOf, System.stepOf, hget, htask]
    rfl
  · intro huid
    have hnot : uid ∉ s.tasks.keys := fun hmem =>
      (nodup_append.mp hnodup).2.2 uid hmem uid huid rfl
    have hadded : uid ∈ (Inv.added cfg s prompts).keys := by rwa [Inv.keys_added]
    rcases hsome : (Inv.added cfg s prompts).get? uid with _ | task
    · exact absurd hadded ((Dict.get?_eq_none_iff _ _).mp hsome)
    · rcases mem_map.mp (Dict.mem_of_get? hsome) with ⟨prompt, -, he⟩
      cases he
      rw [System.stepOf, hget, (Dict.get?_eq_none_iff _ _).mpr hnot, hsome]
      rfl

namespace Ledger

theorem sampleBatches (cfg : FitConfig) :
    cfg.parameterSyncStep * cfg.sampleBatchSize = cfg.trainBatchSize :=
  Nat.mul_div_cancel' cfg.divides

/-- The prompts of the running step are not old. -/
theorem bound_lt (cfg : FitConfig) (steps : ℤ) (j : ℕ) : steps + 1 - waitAge cfg - j < steps := by
  have hage : 2 ≤ waitAge cfg := le_max_right _ _
  omega

theorem backlog_submit (hinv : Inv s samples) {prompts : List (Text × Option ℕ)}
    (hnodup : (s.tasks.keys ++ prompts.map Prod.fst).Nodup) (j : ℕ) :
    ReplayBuffer.backlog (s.submit cfg prompts) samples (s.globalSteps + 1 - waitAge cfg - j) =
      ReplayBuffer.backlog s samples (s.globalSteps + 1 - waitAge cfg - j) := by
  have hnew : (prompts.map Prod.fst).countP (fun uid => decide
      ((s.submit cfg prompts).stepOf uid ≤ s.globalSteps + 1 - waitAge cfg - j)) = 0 := by
    rw [countP_eq_zero]
    intro uid huid
    rw [(stepOf_submit prompts hnodup uid).2 huid, decide_eq_true_eq, not_le]
    exact bound_lt cfg _ j
  rw [ReplayBuffer.backlog, openUids_submit hinv prompts hnodup, countP_append, hnew,
    ReplayBuffer.backlog, Nat.add_zero]
  apply countP_congr
  intro uid huid
  rw [(stepOf_submit prompts hnodup uid).1 (mem_openUids.mp huid).1]

theorem submit (hledger : Ledger cfg s samples) (hinv : Inv s samples) {warmups : ℕ}
    {prompts : List (Text × Option ℕ)} (hphase : s.phase = .idle warmups)
    (hlength : prompts.length = cfg.trainBatchSize)
    (hnodup : (s.tasks.keys ++ prompts.map Prod.fst).Nodup) :
    Ledger cfg (s.submit cfg prompts) samples := by
  have hrecent : ∀ uid ∈ (s.submit cfg prompts).tasks.keys,
      (s.submit cfg prompts).stepOf uid ≤ s.globalSteps := by
    intro uid huid
    rw [Inv.keys_submit] at huid
    rcases mem_append.mp huid with huid | huid
    · rw [(stepOf_submit prompts hnodup uid).1 huid]
      exact hledger.recent uid huid
    · rw [(stepOf_submit prompts hnodup uid).2 huid]
  have hcount := hledger.length
  have hbacklog := hledger.backlog
  rw [hphase] at hcount hbacklog
  simp only [Phase.taken, Phase.toWarmUp, Phase.submitted, Nat.add_zero, Nat.sub_zero]
    at hcount hbacklog
  cases warmups with
  | zero =>
      have hphase' : (s.submit cfg prompts).phase = .sampling cfg.parameterSyncStep none := by
        rw [System.submit, hphase]
      refine ⟨?_, hrecent, ?_, ?_⟩
      · rw [hphase']
        exact ⟨Nat.pos_of_dvd_of_pos cfg.divides cfg.trainBatchSize_pos, Nat.le_refl _⟩
      · rw [hphase', openUids_submit hinv prompts hnodup, length_append, length_map, hlength]
        simp only [Phase.taken, Phase.toWarmUp, Phase.submitted, Nat.sub_self, Nat.zero_mul]
        omega
      · intro hwait j
        rw [hphase', show (s.submit cfg prompts).globalSteps = s.globalSteps from rfl,
          backlog_submit hinv hnodup]
        simpa only [Phase.taken, Nat.sub_self, Nat.zero_mul, Nat.sub_zero] using hbacklog hwait j
  | succ warmups =>
      have hphase' : (s.submit cfg prompts).phase = .idle warmups := by
        rw [System.submit, hphase]
      refine ⟨?_, hrecent, ?_, ?_⟩
      · rw [hphase']
        trivial
      · rw [hphase', openUids_submit hinv prompts hnodup, length_append, length_map, hlength]
        simp only [Phase.taken, Phase.toWarmUp, Phase.submitted, Nat.add_zero]
        rw [Nat.succ_mul] at hcount
        omega
      · intro hwait j
        rw [hphase', show (s.submit cfg prompts).globalSteps = s.globalSteps from rfl,
          backlog_submit hinv hnodup]
        simpa only [Phase.taken, Nat.sub_zero] using hbacklog hwait j

/-- The prompts that can be taken are open ones. -/
theorem subset_openUids (hinv : Inv s samples) {m : Metadata} (hsnap : Snapshot s samples m) :
    m.finishedKeys ++ m.failureKeys ⊆ openUids s samples := by
  intro uid huid
  rcases hinv.ended_of_mem hsnap huid with ⟨hnot, -, task, htask, -⟩
  exact mem_openUids.mpr ⟨Inv.mem_keys htask, hnot⟩

/-- With the wait strategy a sample takes from the old prompts first, as many as it can. -/
theorem backlog_take (hinv : Inv s samples) {m : Metadata} (hsnap : Snapshot s samples m)
    (hsame : s'.tasks = s.tasks) {order : List Text}
    (horder : order ~ m.finishedKeys ++ m.failureKeys)
    (henough : hasEnoughSamples cfg.sampler m s.globalSteps cfg.sampleBatchSize) {sample : Sample}
    (hselected : sample.selected = selectUids m order cfg.sampleBatchSize)
    (hwait : cfg.sampler.maxOffPolicyStrategy = .wait) (j : ℕ) :
    ReplayBuffer.backlog s' (samples ++ [sample]) (s.globalSteps + 1 - waitAge cfg - j) =
      ReplayBuffer.backlog s samples (s.globalSteps + 1 - waitAge cfg - j) -
        cfg.sampleBatchSize := by
  have hperm := (sampleableKeys_perm m order).trans horder
  have hsub : sampleableKeys m order ⊆ openUids s samples := fun uid huid =>
    subset_openUids hinv hsnap (hperm.subset huid)
  have hstepOf : ∀ uid, s'.stepOf uid = s.stepOf uid := fun uid => by
    rw [System.stepOf, System.stepOf, hsame]
  rw [ReplayBuffer.backlog, openUids_take hsame, hselected]
  simp only [hstepOf, selectUids]
  apply OldestFirst.countP_left (nodup_openUids hinv)
    (hperm.nodup_iff.mpr (hinv.nodup_ended hsnap)) hsub
  · intro uid huid hold
    apply hperm.symm.subset
    apply mem_order_of_old hsnap hwait henough huid
    have hage : (cfg.sampler.maxOffPolicyThreshold : ℤ) ≤ waitAge cfg := le_max_left _ _
    have hle := of_decide_eq_true hold
    rw [staleness]
    omega
  · apply (sampleableKeys_pairwise m order).imp_of_mem
    intro uid uid' huid huid' hle hold
    rw [(hsnap.stepOf_eq (hsub huid)).2, (hsnap.stepOf_eq (hsub huid')).2] at hle
    exact decide_eq_true (hle.trans (of_decide_eq_true hold))

theorem take (hledger : Ledger cfg s samples) (hinv : Inv s samples) {updates : ℕ} {m : Metadata}
    {order : List Text} {sample : Sample} {store' : tq.Store}
    (hphase : s.phase = .sampling updates (some m))
    (horder : order ~ m.finishedKeys ++ m.failureKeys)
    (henough : hasEnoughSamples cfg.sampler m s.globalSteps cfg.sampleBatchSize)
    (hspec : TakeSpec cfg.sampler tq s.store m order s.globalSteps cfg.sampleBatchSize sample
      store') :
    Ledger cfg { s with store := store', phase := .balancing updates sample.kept }
      (samples ++ [sample]) := by
  have hsnap := hinv.snapshot updates m hphase
  have hin := hledger.inStep
  have hcount := hledger.length
  have hbacklog := hledger.backlog
  rw [hphase] at hin hcount hbacklog
  have htaken : (cfg.parameterSyncStep - updates + 1) * cfg.sampleBatchSize =
      (cfg.parameterSyncStep - updates) * cfg.sampleBatchSize + cfg.sampleBatchSize :=
    Nat.succ_mul _ _
  have hsame : System.tasks { s with store := store', phase := .balancing updates sample.kept } =
      s.tasks := rfl
  refine ⟨hin, hledger.recent, ?_, ?_⟩
  · have hsize : cfg.sampleBatchSize ≤ order.length := by
      rw [horder.length_eq, length_append]
      rw [hasEnoughSamples] at henough
      split at henough
      · cases henough
      · exact of_decide_eq_true henough
    have hlength := length_selectUids m hsize
    have hsub : selectUids m order cfg.sampleBatchSize ⊆ openUids s samples := fun uid huid =>
      subset_openUids hinv hsnap (horder.subset (selectUids_subset m order _ huid))
    have hnodup := nodup_selectUids m (horder.nodup_iff.mpr (hinv.nodup_ended hsnap))
      cfg.sampleBatchSize
    have hle := (subperm_of_subset hnodup hsub).length_le
    rw [openUids_take hsame, hspec.selected,
      OldestFirst.length_left (nodup_openUids hinv) hnodup hsub, hlength]
    simp only [Phase.taken, Phase.toWarmUp, Phase.submitted] at hcount ⊢
    omega
  · intro hwait j
    have hj := hbacklog hwait j
    have htake := backlog_take hinv hsnap hsame horder henough hspec.selected hwait j
    simp only [Phase.taken] at hj ⊢
    omega

theorem step (hledger : Ledger cfg s samples) (hinv : Inv s samples) {new : List Sample}
    (h : s.Step cfg s' new) : Ledger cfg s' (samples ++ new) := by
  cases h with
  | submit warmups prompts hphase hlength hnodup huuid =>
      rw [append_nil]
      exact hledger.submit hinv hphase hlength hnodup
  | task uid task task' items htask hstep =>
      rw [append_nil]
      have hkeys : (s.tasks.set uid task').keys = s.tasks.keys := by
        rw [Dict.keys_set, if_pos (Inv.mem_keys htask)]
      have hstepOf := stepOf_set htask hstep.globalSteps_eq
        (tq.kvBatchPut s.store .train items)
      have hopen : openUids { s with
          tasks := s.tasks.set uid task'
          store := tq.kvBatchPut s.store .train items } samples = openUids s samples :=
        openUids_congr hkeys rfl
      refine ⟨hledger.inStep, ?_, ?_, ?_⟩
      · intro other hother
        rw [hstepOf]
        exact hledger.recent other (hkeys ▸ hother)
      · rw [hopen]
        exact hledger.length
      · intro hwait j
        rw [ReplayBuffer.backlog, hopen]
        simp only [hstepOf]
        exact hledger.backlog hwait j
  | sync updates m₀ metadata hphase h =>
      rw [append_nil]
      have hin := hledger.inStep
      have hlength := hledger.length
      have hbacklog := hledger.backlog
      rw [hphase] at hin hlength hbacklog
      exact ⟨hin, hledger.recent, hlength, hbacklog⟩
  | take updates m order sample store' hphase horder henough hspec =>
      exact hledger.take hinv hphase horder henough hspec
  | balance updates batch padding ordered padUid hphase hpad h =>
      rw [append_nil]
      have hin := hledger.inStep
      have hcount := hledger.length
      have hbacklog := hledger.backlog
      rw [hphase] at hin hcount hbacklog
      simp only [Phase.taken, Phase.toWarmUp, Phase.submitted] at hcount hbacklog
      rcases hin with ⟨hpos, hle⟩
      by_cases hlast : updates ≤ 1
      · have hall : (cfg.parameterSyncStep - updates + 1) * cfg.sampleBatchSize =
            cfg.trainBatchSize := by
          rw [show cfg.parameterSyncStep - updates + 1 = cfg.parameterSyncStep by omega]
          exact sampleBatches cfg
        rw [hall] at hcount hbacklog
        simp only [if_pos hlast]
        exact ⟨trivial, hledger.recent, hcount, hbacklog⟩
      · have hnext : cfg.parameterSyncStep - (updates - 1) = cfg.parameterSyncStep - updates + 1 := by
          omega
        simp only [if_neg hlast]
        refine ⟨⟨by omega, by omega⟩, hledger.recent, ?_, ?_⟩
        · simp only [Phase.taken, Phase.toWarmUp, Phase.submitted, hnext]
          exact hcount
        · simp only [Phase.taken, hnext]
          exact hbacklog
  | endStep hphase =>
      rw [append_nil]
      have hcount := hledger.length
      have hbacklog := hledger.backlog
      rw [hphase] at hcount hbacklog
      simp only [Phase.taken, Phase.toWarmUp, Phase.submitted] at hcount hbacklog
      refine ⟨trivial, ?_, ?_, ?_⟩
      · intro uid huid
        exact (hledger.recent uid huid).trans (by simp)
      · change (openUids s samples).length + 0 + 0 * cfg.trainBatchSize = _ + 0
        omega
      · intro hwait j
        simp only [Phase.taken, Nat.sub_zero]
        cases j with
        | zero =>
            have hle : (openUids s samples).length ≤
                cfg.numWarmupBatches * cfg.trainBatchSize := by omega
            exact countP_le_length.trans hle
        | succ j =>
            have hj := hbacklog hwait j
            rw [← Nat.sub_sub, Nat.sub_mul, Nat.one_mul]
            rw [show s.globalSteps + 1 + 1 - waitAge cfg - ((j + 1 : ℕ) : ℤ) =
              s.globalSteps + 1 - waitAge cfg - j by push_cast; ring]
            exact hj

theorem init (h : (System.machine cfg tq).init s) : Ledger cfg s [] := by
  rcases h with ⟨-, htasks, -, hphase⟩
  have hopen : openUids s [] = [] := by
    rw [openUids, htasks]
    rfl
  refine ⟨?_, ?_, ?_, ?_⟩
  · rw [hphase]
    trivial
  · intro uid huid
    rw [htasks] at huid
    cases huid
  · rw [hopen, hphase]
    simp [Phase.taken, Phase.toWarmUp, Phase.submitted]
  · intro _ j
    rw [ReplayBuffer.backlog, hopen]
    exact Nat.zero_le _

end Ledger

theorem ledger_of_run (h : Runs.Run (System.machine cfg tq) s samples) : Ledger cfg s samples := by
  induction h with
  | init hinit => exact Ledger.init hinit
  | step hrun hstep ih =>
      rcases hstep with ⟨event, henabled, hnext⟩
      exact ih.step (inv_of_run hrun) (System.step_of_next henabled hnext)

/-- The step of a prompt stays. -/
theorem System.Step.stepOf_eq {new : List Sample} (h : s.Step cfg s' new) {uid : Text}
    (huid : uid ∈ s.tasks.keys) : uid ∈ s'.tasks.keys ∧ s'.stepOf uid = s.stepOf uid := by
  cases h with
  | submit warmups prompts hphase hlength hnodup huuid =>
      refine ⟨?_, (stepOf_submit prompts hnodup uid).1 huid⟩
      rw [Inv.keys_submit]
      exact mem_append_left _ huid
  | task other task task' items htask hstep =>
      refine ⟨?_, stepOf_set htask hstep.globalSteps_eq _ uid⟩
      rw [Dict.keys_set, if_pos (Inv.mem_keys htask)]
      exact huid
  | sync => exact ⟨huid, rfl⟩
  | take => exact ⟨huid, rfl⟩
  | balance => exact ⟨huid, rfl⟩
  | endStep => exact ⟨huid, rfl⟩

/-- When it is taken, a prompt is not older than the warm-up allows. -/
theorem staleness_of_take (hledger : Ledger cfg s samples) (hinv : Inv s samples) {updates : ℕ}
    {m : Metadata} (hphase : s.phase = .sampling updates (some m))
    (hwait : cfg.sampler.maxOffPolicyStrategy = .wait) {uid : Text}
    (huid : uid ∈ m.finishedKeys ++ m.failureKeys) :
    staleness s.globalSteps (s.stepOf uid) ≤ waitAge cfg + cfg.numWarmupBatches - 1 := by
  have hopen := Ledger.subset_openUids hinv (hinv.snapshot updates m hphase) huid
  have hnone := hledger.backlog hwait cfg.numWarmupBatches
  rw [Nat.sub_self, Nat.zero_mul, Nat.zero_sub, Nat.le_zero, backlog, countP_eq_zero] at hnone
  have hrecent := hnone uid hopen
  rw [decide_eq_true_eq, not_le] at hrecent
  rw [staleness]
  omega

/-- With the wait strategy no prompt is ever taken at an age above the threshold (or 2) plus the
warm-up batches less one, however long its sessions take and whatever the order of events. -/
theorem wait_bounds_staleness (h : Runs.Run (System.machine cfg tq) s samples)
    (hwait : cfg.sampler.maxOffPolicyStrategy = .wait) :
    ∀ sample ∈ samples, ∀ uid ∈ sample.selected, ∃ task, s.tasks.get? uid = some task ∧
      1 ≤ staleness sample.globalSteps task.globalSteps ∧
      staleness sample.globalSteps task.globalSteps ≤
        max (cfg.sampler.maxOffPolicyThreshold : ℤ) 2 + cfg.numWarmupBatches - 1 := by
  have hall : ∀ sample ∈ samples, ∀ uid ∈ sample.selected, uid ∈ s.tasks.keys ∧
      1 ≤ staleness sample.globalSteps (s.stepOf uid) ∧
      staleness sample.globalSteps (s.stepOf uid) ≤ waitAge cfg + cfg.numWarmupBatches - 1 := by
    induction h with
    | init hinit =>
        intro sample hsample
        cases hsample
    | step hrun hstep ih =>
        rcases hstep with ⟨event, henabled, hnext⟩
        have hstep := System.step_of_next henabled hnext
        have hinv := inv_of_run hrun
        have hledger := ledger_of_run hrun
        intro sample hsample uid huid
        rcases mem_append.mp hsample with hsample | hsample
        · rcases ih sample hsample uid huid with ⟨hkey, hbound⟩
          rw [(hstep.stepOf_eq hkey).2]
          exact ⟨(hstep.stepOf_eq hkey).1, hbound⟩
        · cases hstep with
          | take updates m order sample' store' hphase horder henough hspec =>
              rw [mem_singleton.mp hsample] at huid ⊢
              rw [hspec.selected] at huid
              have hmem := horder.subset (selectUids_subset m order _ huid)
              have hopen := Ledger.subset_openUids hinv (hinv.snapshot updates m hphase) hmem
              have hkey := (mem_openUids.mp hopen).1
              rw [hspec.globalSteps_eq]
              refine ⟨hkey, ?_, staleness_of_take hledger hinv hphase hwait hmem⟩
              exact le_add_of_nonneg_left (sub_nonneg.mpr (hledger.recent uid hkey))
          | submit => cases hsample
          | task => cases hsample
          | sync => cases hsample
          | balance => cases hsample
          | endStep => cases hsample
  intro sample hsample uid huid
  rcases hall sample hsample uid huid with ⟨hkey, hbound⟩
  rcases Inv.exists_task hkey with ⟨task, htask⟩
  rw [stepOf_of_get? htask] at hbound
  exact ⟨task, htask, hbound⟩

theorem wait_bounds_staleness_onePrompt : ∃ s sample,
    Runs.Run (System.machine (onePrompt .wait) dictQueue) s [sample] ∧
      ∀ uid ∈ sample.selected, ∃ task, s.tasks.get? uid = some task ∧
        staleness sample.globalSteps task.globalSteps = 1 := by
  rcases exists_run_onePrompt .wait with ⟨s, sample, hrun, -, -, -⟩
  refine ⟨s, sample, hrun, ?_⟩
  intro uid huid
  rcases wait_bounds_staleness hrun rfl sample mem_cons_self uid huid with ⟨task, htask, hlow, hup⟩
  exact ⟨task, htask, le_antisymm hup hlow⟩

end SearchR1.ReplayBuffer
