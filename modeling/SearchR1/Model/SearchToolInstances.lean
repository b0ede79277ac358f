import SearchR1.Library.Dict
import SearchR1.Library.Runs
import SearchR1.Model.SearchTool
import Mathlib.Algebra.Field.Rat

/-! # The instances of the search tool

One tool object serves all trajectories of a worker, whose coroutines may switch at every
`await`. -/

namespace SearchR1.SearchToolInstances

open PyText PyJson SearchTool

/-! ## Records -/

inductive Status where
  | success
  | timeout
  | httpError
  | unknownError
  deriving DecidableEq

abbrev InstanceId := Text

/-- The attributes of the tool object that are keyed by instance. -/
@[ext] structure Instances where
  metricsByInstance : Dict InstanceId (Dict Status ℕ) := []
  latenciesByInstance : Dict InstanceId (List ℚ) := []

/-- `create`, once the instance has its id. -/
def create (t : Instances) (instanceId : InstanceId) : Instances where
  metricsByInstance := t.metricsByInstance.set instanceId []
  latenciesByInstance := t.latenciesByInstance.set instanceId []

/-- `_record_metrics`; it raises when there are metrics but no latencies. -/
def recordMetrics (t : Instances) (instanceId : InstanceId) (status : Status) (latencyMs : ℚ) :
    Option Instances := do
  let t := if (t.metricsByInstance.get? instanceId).isNone then create t instanceId else t
  let metrics ← t.metricsByInstance.get? instanceId
  let latencies ← t.latenciesByInstance.get? instanceId
  let count := (metrics.get? status).getD 0
  return {
    metricsByInstance := t.metricsByInstance.set instanceId (metrics.set status (count + 1))
    latenciesByInstance := t.latenciesByInstance.set instanceId (latencies ++ [latencyMs]) }

/-- The figures in the log line of a release. -/
structure Stats where
  calls : ℕ
  success : ℕ
  errors : ℕ
  avgLatency : ℚ

/-- `release`, with what it logs. -/
def release (t : Instances) (instanceId : InstanceId) : Instances × Option Stats :=
  let latencies := (t.latenciesByInstance.get? instanceId).getD []
  let metrics := (t.metricsByInstance.get? instanceId).getD []
  let stats := if latencies.isEmpty then none else some {
    calls := (metrics.map Prod.snd).sum
    success := (metrics.get? .success).getD 0
    errors := (metrics.get? .httpError).getD 0 + (metrics.get? .timeout).getD 0
    avgLatency := latencies.sum / latencies.length }
  ({ metricsByInstance := t.metricsByInstance.pop instanceId
     latenciesByInstance := t.latenciesByInstance.pop instanceId }, stats)

/-! ## The two parts of `execute` -/

variable {F : Type} (py : Python F) (cfg : Config)

/-- How `execute` comes to its call of the service, or ends before it. -/
inductive Started (F : Type) where
  | done (result : Except (Raised F) (ToolResponse × SearchMetrics))
  | waiting (query : Text) (topk : ℤ)

/-- `execute` up to its `await`. -/
def startExecute (parameters : Json F) : Started F :=
  match readQuery parameters with
  | .error e => .done (.error e)
  | .ok query =>
      if query = [] then .done (.ok (makeErrorResponse .emptyQuery (lit "Query is empty.") 0))
      else
        match readTopk py cfg parameters with
        | .error e => .done (.error e)
        | .ok topk => .waiting query topk

def status : Retrieval → Status
  | .text _ => .success
  | .timeout => .timeout
  | .clientError _ => .httpError
  | .exception _ => .unknownError

/-- The response to the outcome of a retrieval. -/
def respond (outcome : Retrieval) (latencyMs : ℚ) :
    Except (Raised F) (ToolResponse × SearchMetrics) :=
  match outcome with
  | .timeout =>
      let message := lit "Retrieval service timed out after " ++ natText cfg.timeout ++ lit "s."
      .ok (makeErrorResponse .timeout message latencyMs)
  | .clientError e =>
      let message := lit "HTTP error calling retrieval service: " ++ e
      .ok (makeErrorResponse .httpError message latencyMs)
  | .exception e => .ok (makeErrorResponse .unknownError (lit "Unexpected error: " ++ e) latencyMs)
  | .text responseText => do
      let docs ← readDocs py responseText
      let docs ← iterate docs
      let parts ← formatDocs py cfg 0 docs
      return makeResponse cfg parts latencyMs

/-- `execute` from its `await` on: the outcome is recorded before the response is made. -/
def resumeExecute (t : Instances) (instanceId : InstanceId) (outcome : Retrieval)
    (latencyMs : ℚ) : Option (Instances × Except (Raised F) (ToolResponse × SearchMetrics)) := do
  let t ← recordMetrics t instanceId (status outcome) latencyMs
  return (t, respond py cfg outcome latencyMs)

/-! ## Interleavings -/

/-- Where an instance stands; a live one may have calls that wait for the service. -/
inductive Phase where
  | absent
  | creating
  | live (waiting : List (Text × ℤ))
  | releasing

structure Session where
  tool : Instances := {}
  phase : InstanceId → Phase := fun _ => .absent

inductive Event where
  | created (instanceId : InstanceId)
  | recorded (instanceId : InstanceId) (status : Status) (latencyMs : ℚ)
  | released (instanceId : InstanceId)

def Event.instanceId : Event → InstanceId
  | .created instanceId => instanceId
  | .recorded instanceId _ _ => instanceId
  | .released instanceId => instanceId

def Session.enter (s : Session) (instanceId : InstanceId) (phase : Phase) : Session :=
  { s with phase := Function.update s.phase instanceId phase }

/-- What one instance does between two `await`s. An id is not in use when it is created, and an
instance is released when no call of it is under way; a call may be cancelled while it waits. -/
inductive Step (instanceId : InstanceId) : Session → List Event → Session → Prop where
  | create {s : Session} : s.phase instanceId = .absent →
      Step instanceId s [] (s.enter instanceId .creating)
  | created {s : Session} : s.phase instanceId = .creating →
      Step instanceId s [.created instanceId]
        ({ s with tool := SearchToolInstances.create s.tool instanceId }.enter instanceId (.live []))
  | executed {s : Session} {waiting : List (Text × ℤ)}
      {result : Except (Raised F) (ToolResponse × SearchMetrics)} (parameters : Json F) :
      s.phase instanceId = .live waiting → startExecute py cfg parameters = .done result →
      Step instanceId s [] s
  | wait {s : Session} {waiting : List (Text × ℤ)} {query : Text} {topk : ℤ}
      (parameters : Json F) : s.phase instanceId = .live waiting →
      startExecute py cfg parameters = .waiting query topk →
      Step instanceId s [] (s.enter instanceId (.live (waiting ++ [(query, topk)])))
  | resume {s : Session} {before after : List (Text × ℤ)} {call : Text × ℤ} {tool : Instances}
      {result : Except (Raised F) (ToolResponse × SearchMetrics)} (outcome : Retrieval)
      (latencyMs : ℚ) : s.phase instanceId = .live (before ++ call :: after) →
      resumeExecute py cfg s.tool instanceId outcome latencyMs = some (tool, result) →
      Step instanceId s [.recorded instanceId (status outcome) latencyMs]
        ({ s with tool }.enter instanceId (.live (before ++ after)))
  | cancel {s : Session} {before after : List (Text × ℤ)} {call : Text × ℤ} :
      s.phase instanceId = .live (before ++ call :: after) →
      Step instanceId s [] (s.enter instanceId (.live (before ++ after)))
  | release {s : Session} : s.phase instanceId = .live [] →
      Step instanceId s [.released instanceId]
        ({ s with tool := (SearchToolInstances.release s.tool instanceId).1 }.enter instanceId .releasing)
  | released {s : Session} : s.phase instanceId = .releasing →
      Step instanceId s [] (s.enter instanceId .absent)

/-- All instances on one tool object. -/
def machine : Runs.Machine Session Event where
  init s := s = {}
  step s new s' := ∃ instanceId, Step py cfg instanceId s new s'

/-- An interleaving leads to the session, with these events on the way. -/
def Reaches (s : Session) (events : List Event) : Prop := Runs.Run (machine py cfg) s events

end SearchR1.SearchToolInstances
