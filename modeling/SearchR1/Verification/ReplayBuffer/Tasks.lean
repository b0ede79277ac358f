import SearchR1.Verification.ReplayBuffer.Keys
import SearchR1.Verification.ReplayBuffer.Store

/-! # The tasks of the prompts -/

namespace SearchR1.ReplayBuffer

open PyText

variable {uid : Text} {task task' : Task} {items : List (Text × Tag)}

/-- A step moves the prompt on or ends one session. -/
inductive Task.Step (uid : Text) (task : Task) : Task → List (Text × Tag) → Prop where
  | moves (status : Status)
      (h : task.status = .pending ∧ status = .running ∨ task.status = .running ∧
        (status = .failure ∨ status = .finished ∧
          ∀ session ∈ task.sessions, ∃ outputs, session = .returned outputs)) :
      Step uid task { task with status } [(uid, { status := some status })]
  | ends (i : ℕ) (session : Session) (hstatus : task.status = .running ∨ task.status = .failure)
      (hi : task.sessions[i]? = some .running) (h : session ≠ .running) :
      Step uid task { task with sessions := task.sessions.set i session }
        (sessionItems uid task.globalSteps i session.outputs)

theorem Task.step_of_next {event : TaskEvent} (h : task.next uid event = some (task', items)) :
    task.Step uid task' items := by
  cases event with
  | start =>
      rw [next, Option.ite_none_right_eq_some] at h
      rcases h with ⟨hstatus, he⟩
      cases he
      exact .moves .running (.inl ⟨hstatus, rfl⟩)
  | sessionReturns i outputs =>
      rw [next, Option.ite_none_right_eq_some, sessionRuns, decide_eq_true_eq] at h
      rcases h with ⟨⟨hstatus, hi⟩, he⟩
      cases he
      exact .ends i (.returned outputs) hstatus hi (fun he => by cases he)
  | sessionRaises i =>
      rw [next, Option.ite_none_right_eq_some, sessionRuns, decide_eq_true_eq] at h
      rcases h with ⟨⟨hstatus, hi⟩, he⟩
      cases he
      exact .ends i .raised hstatus hi (fun he => by cases he)
  | finish =>
      rw [next, Option.ite_none_right_eq_some] at h
      rcases h with ⟨⟨hstatus, hall⟩, he⟩
      cases he
      apply Step.moves
      refine .inr ⟨hstatus, .inr ⟨rfl, ?_⟩⟩
      intro session hsession
      cases session with
      | running => exact absurd rfl (hall _ hsession).1
      | returned outputs => exact ⟨outputs, rfl⟩
      | raised => exact absurd rfl (hall _ hsession).2
  | fail =>
      rw [next, Option.ite_none_right_eq_some] at h
      rcases h with ⟨⟨hstatus, -⟩, he⟩
      cases he
      exact .moves .failure (.inr ⟨hstatus, .inl rfl⟩)

/-- A finished prompt has all trajectories of its sessions, one that waits has none. -/
structure Task.Sound (task : Task) : Prop where
  status : task.status.ofPrompt
  pending : task.status = .pending → ∀ session ∈ task.sessions, session = .running
  finished : task.status = .finished → ∀ session ∈ task.sessions, ∃ outputs,
    session = .returned outputs

def Task.Ended (task : Task) : Prop := task.status = .finished ∨ task.status = .failure

theorem Task.sound_submit (steps : ℤ) (n : ℕ) : (Task.submit steps n).Sound where
  status := .inl rfl
  pending _ session hsession := List.eq_of_mem_replicate hsession
  finished h := by cases h

theorem Task.Step.globalSteps_eq (h : task.Step uid task' items) :
    task'.globalSteps = task.globalSteps := by
  cases h with
  | moves => rfl
  | ends => rfl

theorem Task.Step.sound (h : task.Step uid task' items) (hsound : task.Sound) : task'.Sound := by
  cases h with
  | moves status hmove =>
      rcases hmove with ⟨-, rfl⟩ | ⟨-, rfl | ⟨rfl, hall⟩⟩
      · exact ⟨.inr (.inl rfl), (fun he => by cases he), fun he => by cases he⟩
      · exact ⟨.inr (.inr (.inr rfl)), (fun he => by cases he), fun he => by cases he⟩
      · exact ⟨.inr (.inr (.inl rfl)), (fun he => by cases he), fun _ => hall⟩
  | ends i session hstatus hi hne =>
      refine ⟨hsound.status, ?_, ?_⟩
      · intro he
        rcases hstatus with hstatus | hstatus <;> rw [hstatus] at he <;> cases he
      · intro he
        rcases hstatus with hstatus | hstatus <;> rw [hstatus] at he <;> cases he

/-- The status of a prompt that ended stays. -/
theorem Task.Step.status_of_ended (h : task.Step uid task' items) (hended : task.Ended) :
    task'.status = task.status := by
  cases h with
  | moves status hmove =>
      rcases hmove with ⟨hstatus, -⟩ | ⟨hstatus, -⟩ <;> rcases hended with he | he <;>
        rw [hstatus] at he <;> cases he
  | ends => rfl

/-- A finished prompt makes no step. -/
theorem Task.Step.not_finished (h : task.Step uid task' items) : task.status ≠ .finished := by
  intro he
  cases h with
  | moves status hmove =>
      rcases hmove with ⟨hstatus, -⟩ | ⟨hstatus, -⟩ <;> rw [hstatus] at he <;> cases he
  | ends i session hstatus =>
      rcases hstatus with hstatus | hstatus <;> rw [hstatus] at he <;> cases he

/-! ## Trajectories -/

theorem Task.mem_trajectories {item : Text × Tag} : item ∈ task.trajectories uid ↔
    ∃ i session, task.sessions[i]? = some session ∧
      item ∈ sessionItems uid task.globalSteps i session.outputs := by
  rw [trajectories, List.mem_flatten]
  constructor
  · intro h
    rcases h with ⟨group, hgroup, hitem⟩
    rcases List.mem_mapIdx.mp hgroup with ⟨i, hi, rfl⟩
    exact ⟨i, _, List.getElem?_eq_getElem hi, hitem⟩
  · intro h
    rcases h with ⟨i, session, hget, hitem⟩
    rcases List.getElem?_eq_some_iff.mp hget with ⟨hi, rfl⟩
    exact ⟨_, List.mem_mapIdx.mpr ⟨i, hi, rfl⟩, hitem⟩

theorem Task.exists_key {item : Text × Tag} (h : item ∈ task.trajectories uid) :
    ∃ i j, item.1 = trajectoryKey uid i j := by
  rcases mem_trajectories.mp h with ⟨i, session, -, hitem⟩
  rcases mem_sessionItems.mp hitem with ⟨j, output, -, rfl⟩
  exact ⟨i, j, rfl⟩

/-- The tag of a trajectory says the step of its prompt. -/
theorem Task.exists_tag {item : Text × Tag} (h : item ∈ task.trajectories uid) :
    ∃ output, item.2 = trajectoryTag task.globalSteps output := by
  rcases mem_trajectories.mp h with ⟨i, session, -, hitem⟩
  rcases mem_sessionItems.mp hitem with ⟨j, output, -, rfl⟩
  exact ⟨output, rfl⟩

/-- A key is that of one trajectory. -/
theorem Task.eq_of_key_eq (huid : ch '_' ∉ uid) {item item' : Text × Tag}
    (h : item ∈ task.trajectories uid) (h' : item' ∈ task.trajectories uid)
    (hkey : item.1 = item'.1) : item = item' := by
  rcases mem_trajectories.mp h with ⟨i, session, hi, hitem⟩
  rcases mem_trajectories.mp h' with ⟨i', session', hi', hitem'⟩
  rcases mem_sessionItems.mp hitem with ⟨j, output, hj, rfl⟩
  rcases mem_sessionItems.mp hitem' with ⟨j', output', hj', rfl⟩
  rcases trajectoryKey_injective huid huid hkey with ⟨-, rfl, rfl⟩
  rw [hi, Option.some_inj] at hi'
  subst hi'
  rw [hj, Option.some_inj] at hj'
  rw [hj']

/-- The trajectories after the end of a session that ran. -/
theorem Task.mem_trajectories_set {i : ℕ} (hi : task.sessions[i]? = some .running)
    (session : Session) {item : Text × Tag} :
    item ∈ ({ task with sessions := task.sessions.set i session } : Task).trajectories uid ↔
      item ∈ task.trajectories uid ∨
        item ∈ sessionItems uid task.globalSteps i session.outputs := by
  have hlt : i < task.sessions.length := (List.getElem?_eq_some_iff.mp hi).1
  rw [mem_trajectories, mem_trajectories]
  constructor
  · intro h
    rcases h with ⟨i', session', hget, hitem⟩
    by_cases he : i = i'
    · subst he
      rw [List.getElem?_set_self hlt, Option.some_inj] at hget
      exact .inr (hget ▸ hitem)
    · rw [List.getElem?_set_ne he] at hget
      exact .inl ⟨i', session', hget, hitem⟩
  · intro h
    rcases h with ⟨i', session', hget, hitem⟩ | hitem
    · by_cases he : i = i'
      · subst he
        rw [hi, Option.some_inj] at hget
        subst hget
        cases hitem
      · exact ⟨i', session', by rw [List.getElem?_set_ne he, hget], hitem⟩
    · exact ⟨i, session, List.getElem?_set_self hlt, hitem⟩

/-- The items of a session that still ran are new. -/
theorem Task.not_mem_of_running (huid : ch '_' ∉ uid) {i : ℕ}
    (hi : task.sessions[i]? = some .running) {outputs : List AgentLoopOutput} {item : Text × Tag}
    (h : item ∈ sessionItems uid task.globalSteps i outputs) {item' : Text × Tag}
    (h' : item' ∈ task.trajectories uid) : item.1 ≠ item'.1 := by
  intro hkey
  rcases mem_sessionItems.mp h with ⟨j, output, -, rfl⟩
  rcases mem_trajectories.mp h' with ⟨i', session, hget, hitem⟩
  rcases mem_sessionItems.mp hitem with ⟨j', output', hj, rfl⟩
  rcases trajectoryKey_injective huid huid hkey with ⟨-, rfl, -⟩
  rw [hi, Option.some_inj] at hget
  subst hget
  cases hj

theorem nodup_sessionItems (huid : ch '_' ∉ uid) (steps : ℤ) (i : ℕ)
    (outputs : List AgentLoopOutput) :
    ((sessionItems uid steps i outputs).map Prod.fst).Nodup := by
  have hkeys : (sessionItems uid steps i outputs).map Prod.fst =
      (List.range outputs.length).map (trajectoryKey uid i) := by
    apply List.ext_getElem
    · simp [sessionItems]
    · intro j hj hj'
      simp [sessionItems]
  rw [hkeys]
  exact List.nodup_range.map fun j j' he => (trajectoryKey_injective huid huid he).2.2

theorem Task.trajectories_submit (uid : Text) (steps : ℤ) (n : ℕ) :
    (Task.submit steps n).trajectories uid = [] := by
  apply List.eq_nil_iff_forall_not_mem.mpr
  intro item hitem
  rcases mem_trajectories.mp hitem with ⟨i, session, hget, hmem⟩
  have hsession := List.eq_of_mem_replicate (List.mem_of_getElem? hget)
  subst hsession
  cases hmem

end SearchR1.ReplayBuffer
