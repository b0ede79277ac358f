import SearchR1.Model.ReplayBuffer

/-! # The agent loops that write to the replay buffer -/

namespace SearchR1.ReplayBuffer

open PyText PyJson

/-- The key `{uid}_{session_id}_{index}` of a trajectory. -/
def trajectoryKey (uid : Text) (sessionId index : ℕ) : Text :=
  [ch '_'].intercalate [uid, natText sessionId, natText index]

/-- What the tag of an agent loop's output is made of. -/
structure AgentLoopOutput where
  promptLen : ℕ
  responseLen : ℕ
  minGlobalSteps : Option ℤ
  maxGlobalSteps : Option ℤ
  deriving DecidableEq

def trajectoryTag (globalSteps : ℤ) (output : AgentLoopOutput) : Tag where
  status := some .success
  promptLen := some output.promptLen
  responseLen := some output.responseLen
  seqLen := some (output.promptLen + output.responseLen)
  globalSteps := some globalSteps
  minGlobalSteps := some output.minGlobalSteps
  maxGlobalSteps := some output.maxGlobalSteps

/-- What `_agent_loop_postprocess` puts for a session. -/
def sessionItems (uid : Text) (globalSteps : ℤ) (sessionId : ℕ) (outputs : List AgentLoopOutput) :
    List (Text × Tag) :=
  outputs.mapIdx fun i output => (trajectoryKey uid sessionId i, trajectoryTag globalSteps output)

/-- One `_run_agent_loop` of a prompt. -/
inductive Session where
  | running
  | returned (outputs : List AgentLoopOutput)
  | raised
  deriving DecidableEq

def Session.outputs : Session → List AgentLoopOutput
  | .returned outputs => outputs
  | _ => []

/-- One `_run_prompt`, with the status it last put. -/
structure Task where
  globalSteps : ℤ
  status : Status
  sessions : List Session
  deriving DecidableEq

/-- `_submit_batch_to_rollout` makes a task of a prompt, with as many sessions as the prompt or the
configuration asks for. -/
def Task.submit (globalSteps : ℤ) (n : ℕ) : Task where
  globalSteps
  status := .pending
  sessions := List.replicate n .running

def promptTag (task : Task) : Tag where
  isPrompt := some true
  status := some task.status
  globalSteps := some task.globalSteps

/-- The trajectories that the sessions of a task have put. -/
def Task.trajectories (uid : Text) (task : Task) : List (Text × Tag) :=
  (task.sessions.mapIdx fun i session =>
    sessionItems uid task.globalSteps i session.outputs).flatten

/-- What happens in a task next. -/
inductive TaskEvent where
  | start
  | sessionReturns (sessionId : ℕ) (outputs : List AgentLoopOutput)
  | sessionRaises (sessionId : ℕ)
  | finish
  | fail
  deriving DecidableEq

/-- A session can end as soon as the task runs, also after the task failed because of another
session: `gather` does not wait for the others. -/
def Task.sessionRuns (task : Task) (sessionId : ℕ) : Bool :=
  (task.status = .running ∨ task.status = .failure) ∧ task.sessions[sessionId]? = some .running

/-- One step of a task, with what it puts; `none` when the task cannot make it. -/
def Task.next (uid : Text) (task : Task) : TaskEvent → Option (Task × List (Text × Tag))
  | .start =>
      if task.status = .pending then
        some ({ task with status := .running }, [(uid, { status := some .running })])
      else none
  | .sessionReturns i outputs =>
      if task.sessionRuns i then
        some ({ task with sessions := task.sessions.set i (.returned outputs) },
          sessionItems uid task.globalSteps i outputs)
      else none
  | .sessionRaises i =>
      if task.sessionRuns i then
        some ({ task with sessions := task.sessions.set i .raised }, [])
      else none
  | .finish =>
      if task.status = .running ∧ ∀ session ∈ task.sessions, session ≠ .running ∧ session ≠ .raised
      then
        some ({ task with status := .finished }, [(uid, { status := some .finished })])
      else none
  | .fail =>
      if task.status = .running ∧ .raised ∈ task.sessions then
        some ({ task with status := .failure }, [(uid, { status := some .failure })])
      else none

end SearchR1.ReplayBuffer
