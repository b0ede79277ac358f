import SearchR1.Model.AsciiRuntime
import SearchR1.Model.SearchToolInstances

/-! # Isolation of the instances of the search tool -/

namespace SearchR1.SearchToolInstances

open PyText PyJson SearchTool

/-! ## The two parts of a call -/

/-- Without a switch the two parts are `execute`. -/
theorem execute_eq_startExecute {F : Type} (py : Python F) (cfg : Config) (parameters : Json F)
    (service : Service) :
    execute py cfg parameters service =
      match startExecute py cfg parameters with
      | .done result => result
      | .waiting query topk =>
          respond py cfg (service query topk).1 (service query topk).2 := by
  unfold execute startExecute
  cases readQuery parameters with
  | error e => rfl
  | ok query =>
      simp only [bind, Except.bind]
      by_cases hquery : query = []
      · rw [if_pos hquery, if_pos hquery]
        rfl
      · rw [if_neg hquery, if_neg hquery]
        cases readTopk py cfg parameters with
        | error e => rfl
        | ok topk =>
            simp only
            cases (service query topk).1 with
            | _ => rfl

/-! ## The calls of an instance -/

def ownEvents (instanceId : InstanceId) (events : List Event) : List Event :=
  events.filter fun e => e.instanceId = instanceId

def addCall (calls : List (Status × ℚ)) : Event → List (Status × ℚ)
  | .created _ => []
  | .recorded _ status latencyMs => calls ++ [(status, latencyMs)]
  | .released _ => calls

/-- The calls that an instance recorded since it was last created. -/
def callsSinceCreate (instanceId : InstanceId) (events : List Event) : List (Status × ℚ) :=
  (ownEvents instanceId events).foldl addCall []

variable {instanceId other : InstanceId}

theorem callsSinceCreate_append_own (events : List Event) {e : Event}
    (he : e.instanceId = instanceId) :
    callsSinceCreate instanceId (events ++ [e]) =
      addCall (callsSinceCreate instanceId events) e := by
  have hown : ownEvents instanceId [e] = [e] := by simp [ownEvents, he]
  rw [callsSinceCreate, ownEvents, List.filter_append, List.foldl_append]
  change (ownEvents instanceId [e]).foldl addCall _ = _
  rw [hown]
  rfl

theorem callsSinceCreate_append_other {events new : List Event}
    (hnew : ∀ e ∈ new, e.instanceId = instanceId) (hne : other ≠ instanceId) :
    callsSinceCreate other (events ++ new) = callsSinceCreate other events := by
  have hnil : new.filter (fun e => e.instanceId = other) = [] := by
    rw [List.filter_eq_nil_iff]
    intro e he
    have hown := hnew e he
    simpa [hown] using Ne.symm hne
  rw [callsSinceCreate, ownEvents, List.filter_append, hnil, List.append_nil]
  rfl

/-! ## Entries -/

/-- The metrics count the statuses of the calls. -/
structure Tallies (metrics : Dict Status ℕ) (calls : List (Status × ℚ)) : Prop where
  count : ∀ status, metrics.get? status =
    if status ∈ calls.map Prod.fst then some ((calls.map Prod.fst).count status) else none
  total : (metrics.map Prod.snd).sum = calls.length

/-- The entries of an instance are those of its calls. -/
structure Records (t : Instances) (instanceId : InstanceId) (calls : List (Status × ℚ)) :
    Prop where
  metrics : ∃ metrics, t.metricsByInstance.get? instanceId = some metrics ∧ Tallies metrics calls
  latencies : t.latenciesByInstance.get? instanceId = some (calls.map Prod.snd)

structure NoEntries (t : Instances) (instanceId : InstanceId) : Prop where
  metrics : t.metricsByInstance.get? instanceId = none
  latencies : t.latenciesByInstance.get? instanceId = none

structure SameEntries (t t' : Instances) (instanceId : InstanceId) : Prop where
  metrics : t'.metricsByInstance.get? instanceId = t.metricsByInstance.get? instanceId
  latencies : t'.latenciesByInstance.get? instanceId = t.latenciesByInstance.get? instanceId

theorem SameEntries.refl (t : Instances) (instanceId : InstanceId) :
    SameEntries t t instanceId := ⟨rfl, rfl⟩

variable {t t' : Instances}

theorem Records.congr {calls : List (Status × ℚ)} (h : Records t instanceId calls)
    (hsame : SameEntries t t' instanceId) : Records t' instanceId calls where
  metrics := by
    rw [hsame.metrics]
    exact h.metrics
  latencies := hsame.latencies.trans h.latencies

theorem NoEntries.congr (h : NoEntries t instanceId) (hsame : SameEntries t t' instanceId) :
    NoEntries t' instanceId where
  metrics := hsame.metrics.trans h.metrics
  latencies := hsame.latencies.trans h.latencies

/-! ## Operations -/

theorem records_create (t : Instances) (instanceId : InstanceId) :
    Records (create t instanceId) instanceId [] where
  metrics := ⟨[], Dict.get?_set_self _ _ _, fun _ => rfl, rfl⟩
  latencies := Dict.get?_set_self _ _ _

theorem sameEntries_create (t : Instances) (hne : other ≠ instanceId) :
    SameEntries t (create t instanceId) other where
  metrics := Dict.get?_set_of_ne _ _ hne
  latencies := Dict.get?_set_of_ne _ _ hne

theorem noEntries_release (t : Instances) (instanceId : InstanceId) :
    NoEntries (release t instanceId).1 instanceId where
  metrics := Dict.get?_pop_self _ _
  latencies := Dict.get?_pop_self _ _

theorem sameEntries_release (t : Instances) (hne : other ≠ instanceId) :
    SameEntries t (release t instanceId).1 other where
  metrics := Dict.get?_pop_of_ne _ hne
  latencies := Dict.get?_pop_of_ne _ hne

theorem Tallies.getD_eq {metrics : Dict Status ℕ} {calls : List (Status × ℚ)}
    (h : Tallies metrics calls) (status : Status) :
    (metrics.get? status).getD 0 = (calls.map Prod.fst).count status := by
  rw [h.count status]
  split
  · rfl
  · rename_i hmem
    rw [List.count_eq_zero_of_not_mem hmem]
    rfl

theorem sum_set_succ (metrics : Dict Status ℕ) (status : Status) :
    ((metrics.set status ((metrics.get? status).getD 0 + 1)).map Prod.snd).sum =
      (metrics.map Prod.snd).sum + 1 := by
  induction metrics with
  | nil => rfl
  | cons e metrics ih =>
      by_cases he : e.1 = status
      · simp only [Dict.set, Dict.get?, he, ite_true, Option.getD_some, List.map_cons,
          List.sum_cons]
        omega
      · simp only [Dict.set, Dict.get?, he, ite_false, List.map_cons, List.sum_cons, ih]
        omega

theorem Tallies.record {metrics : Dict Status ℕ} {calls : List (Status × ℚ)}
    (h : Tallies metrics calls) (status : Status) (latencyMs : ℚ) :
    Tallies (metrics.set status ((metrics.get? status).getD 0 + 1))
      (calls ++ [(status, latencyMs)]) where
  count := by
    intro status'
    rw [List.map_append, List.map_cons, List.map_nil, List.count_append]
    by_cases hs : status' = status
    · subst hs
      rw [Dict.get?_set_self, if_pos (List.mem_append_right _ (List.mem_singleton_self _)),
        h.getD_eq, List.count_singleton_self]
    · rw [Dict.get?_set_of_ne _ _ hs, h.count status', List.count_singleton,
        beq_eq_false_iff_ne.mpr (Ne.symm hs)]
      have hmem : status' ∈ calls.map Prod.fst ++ [status] ↔ status' ∈ calls.map Prod.fst := by
        rw [List.mem_append, List.mem_singleton, or_iff_left hs]
      by_cases hcalls : status' ∈ calls.map Prod.fst
      · rw [if_pos hcalls, if_pos (hmem.mpr hcalls)]
        rfl
      · rw [if_neg hcalls, if_neg (mt hmem.mp hcalls)]
  total := by
    rw [sum_set_succ, h.total, List.length_append]
    rfl

/-- Recording a call of an instance with entries succeeds and adds the call to them. -/
theorem Records.record {calls : List (Status × ℚ)} (h : Records t instanceId calls)
    (status : Status) (latencyMs : ℚ) :
    ∃ t', recordMetrics t instanceId status latencyMs = some t' ∧
      Records t' instanceId (calls ++ [(status, latencyMs)]) := by
  obtain ⟨metrics, hmetrics, htallies⟩ := h.metrics
  refine ⟨{
    metricsByInstance := t.metricsByInstance.set instanceId
      (metrics.set status ((metrics.get? status).getD 0 + 1))
    latenciesByInstance := t.latenciesByInstance.set instanceId
      (calls.map Prod.snd ++ [latencyMs]) }, ?_, ?_, ?_⟩
  · simp [recordMetrics, hmetrics, h.latencies]
  · exact ⟨_, Dict.get?_set_self _ _ _, htallies.record status latencyMs⟩
  · rw [List.map_append]
    exact Dict.get?_set_self _ _ _

/-- The figures of some calls. -/
def statsOf (calls : List (Status × ℚ)) : Option Stats :=
  if calls = [] then none else some {
    calls := calls.length
    success := (calls.map Prod.fst).count .success
    errors := (calls.map Prod.fst).count .httpError + (calls.map Prod.fst).count .timeout
    avgLatency := (calls.map Prod.snd).sum / calls.length }

theorem stats_release {calls : List (Status × ℚ)} (h : Records t instanceId calls) :
    (release t instanceId).2 = statsOf calls := by
  obtain ⟨metrics, hmetrics, htallies⟩ := h.metrics
  simp only [release, statsOf, hmetrics, h.latencies, Option.getD_some, htallies.getD_eq, htallies.total,
    List.isEmpty_iff, List.map_eq_nil_iff, List.length_map]

theorem sameEntries_recordMetrics {status : Status} {latencyMs : ℚ}
    (h : recordMetrics t instanceId status latencyMs = some t') (hne : other ≠ instanceId) :
    SameEntries t t' other := by
  unfold recordMetrics at h
  have hbase : SameEntries t (if (t.metricsByInstance.get? instanceId).isNone then
      create t instanceId else t) other := by
    split
    · exact sameEntries_create t hne
    · exact .refl t other
  simp only [Option.bind_eq_bind, Option.bind_eq_some_iff, Option.pure_def,
    Option.some_inj] at h
  obtain ⟨metrics, -, latencies, -, rfl⟩ := h
  exact ⟨(Dict.get?_set_of_ne _ _ hne).trans hbase.metrics,
    (Dict.get?_set_of_ne _ _ hne).trans hbase.latencies⟩

/-! ## Steps -/

/-- A live instance has the entries of its calls, another one has none. -/
def Entries (t : Instances) (instanceId : InstanceId) (calls : List (Status × ℚ)) : Phase → Prop
  | .live _ => Records t instanceId calls
  | _ => NoEntries t instanceId

theorem Entries.congr {calls : List (Status × ℚ)} {phase : Phase}
    (h : Entries t instanceId calls phase) (hsame : SameEntries t t' instanceId) :
    Entries t' instanceId calls phase := by
  cases phase with
  | live waiting => exact Records.congr h hsame
  | _ => exact NoEntries.congr h hsame

variable {F : Type} {py : Python F} {cfg : Config} {s s' : Session} {new : List Event}

theorem phase_enter (s : Session) (instanceId : InstanceId) (phase : Phase) :
    (s.enter instanceId phase).phase instanceId = phase := Function.update_self ..

theorem phase_enter_of_ne (s : Session) (hne : other ≠ instanceId) (phase : Phase) :
    (s.enter instanceId phase).phase other = s.phase other := Function.update_of_ne hne ..

/-- A step emits events of its own instance only. -/
theorem instanceId_of_step (h : Step py cfg instanceId s new s') :
    ∀ e ∈ new, e.instanceId = instanceId := by
  cases h with
  | created _ => simp [Event.instanceId]
  | resume _ _ _ _ => simp [Event.instanceId]
  | release _ => simp [Event.instanceId]
  | _ => simp

/-- A step leaves the entries and the phases of the other instances alone. -/
theorem frame_of_step (h : Step py cfg instanceId s new s') (hne : other ≠ instanceId) :
    SameEntries s.tool s'.tool other ∧ s'.phase other = s.phase other := by
  cases h with
  | create _ => exact ⟨.refl _ _, phase_enter_of_ne s hne _⟩
  | created _ => exact ⟨sameEntries_create s.tool hne, phase_enter_of_ne _ hne _⟩
  | executed _ _ _ => exact ⟨.refl _ _, rfl⟩
  | wait _ _ _ => exact ⟨.refl _ _, phase_enter_of_ne s hne _⟩
  | resume outcome latencyMs _ hresume =>
      unfold resumeExecute at hresume
      simp only [Option.bind_eq_bind, Option.bind_eq_some_iff, Option.pure_def,
        Option.some_inj, Prod.mk.injEq] at hresume
      obtain ⟨tool, hrecord, rfl, -⟩ := hresume
      exact ⟨sameEntries_recordMetrics hrecord hne, phase_enter_of_ne _ hne _⟩
  | cancel _ => exact ⟨.refl _ _, phase_enter_of_ne s hne _⟩
  | release _ => exact ⟨sameEntries_release s.tool hne, phase_enter_of_ne _ hne _⟩
  | released _ => exact ⟨.refl _ _, phase_enter_of_ne s hne _⟩

/-- A step keeps the entries of its instance true to its calls. -/
theorem entries_of_step {events : List Event} (h : Step py cfg instanceId s new s')
    (hentries : Entries s.tool instanceId (callsSinceCreate instanceId events)
      (s.phase instanceId)) :
    Entries s'.tool instanceId (callsSinceCreate instanceId (events ++ new))
      (s'.phase instanceId) := by
  cases h with
  | create hphase =>
      rw [hphase] at hentries
      rw [phase_enter]
      exact hentries
  | created hphase =>
      have hcalls : callsSinceCreate instanceId (events ++ [.created instanceId]) = [] :=
        callsSinceCreate_append_own events rfl
      rw [phase_enter, hcalls]
      exact records_create s.tool instanceId
  | executed _ _ _ =>
      rw [List.append_nil]
      exact hentries
  | wait _ hphase _ =>
      rw [hphase] at hentries
      rw [phase_enter, List.append_nil]
      exact hentries
  | resume outcome latencyMs hphase hresume =>
      rw [hphase] at hentries
      obtain ⟨tool, hrecord, hrecords⟩ := Records.record hentries (status outcome) latencyMs
      rw [resumeExecute, hrecord] at hresume
      obtain ⟨rfl, -⟩ := Prod.mk.inj (Option.some.inj hresume)
      have hcalls : callsSinceCreate instanceId
          (events ++ [.recorded instanceId (status outcome) latencyMs]) =
          callsSinceCreate instanceId events ++ [(status outcome, latencyMs)] :=
        callsSinceCreate_append_own events rfl
      rw [phase_enter, hcalls]
      exact hrecords
  | cancel hphase =>
      rw [hphase] at hentries
      rw [phase_enter, List.append_nil]
      exact hentries
  | release hphase =>
      rw [phase_enter]
      exact noEntries_release s.tool instanceId
  | released hphase =>
      rw [hphase] at hentries
      rw [phase_enter]
      exact hentries

/-! ## Runs -/

variable {events : List Event}

theorem entries_of_reaches (h : Reaches py cfg s events) (instanceId : InstanceId) :
    Entries s.tool instanceId (callsSinceCreate instanceId events) (s.phase instanceId) := by
  apply h.invariant (I := fun s events =>
    Entries s.tool instanceId (callsSinceCreate instanceId events) (s.phase instanceId))
  · rintro s rfl
    exact ⟨rfl, rfl⟩
  · rintro s s' events new hentries ⟨actor, hstep⟩
    by_cases hactor : instanceId = actor
    · subst hactor
      exact entries_of_step hstep hentries
    · obtain ⟨hsame, hphase⟩ := frame_of_step hstep hactor
      rw [hphase, callsSinceCreate_append_other (instanceId_of_step hstep) hactor]
      exact hentries.congr hsame

/-- No call of a live instance fails to be recorded. -/
theorem exists_resumeExecute_of_reaches (h : Reaches py cfg s events)
    {waiting : List (Text × ℤ)} (hphase : s.phase instanceId = .live waiting)
    (outcome : Retrieval) (latencyMs : ℚ) :
    ∃ tool, resumeExecute py cfg s.tool instanceId outcome latencyMs =
      some (tool, respond py cfg outcome latencyMs) := by
  have hentries := entries_of_reaches h instanceId
  rw [hphase] at hentries
  obtain ⟨tool, hrecord, -⟩ := Records.record hentries (status outcome) latencyMs
  exact ⟨tool, by rw [resumeExecute, hrecord]; rfl⟩

/-- What a release logs is about the calls of its instance. -/
theorem stats_of_reaches (h : Reaches py cfg s events) {waiting : List (Text × ℤ)}
    (hphase : s.phase instanceId = .live waiting) :
    (release s.tool instanceId).2 = statsOf (callsSinceCreate instanceId events) := by
  have hentries := entries_of_reaches h instanceId
  rw [hphase] at hentries
  exact stats_release hentries

/-- In every interleaving the entries of an instance are those of its own calls, no step changes
the entries of another instance, and without live instances there are no entries. -/
theorem isolated_of_reaches (h : Reaches py cfg s events) :
    (∀ instanceId, Entries s.tool instanceId (callsSinceCreate instanceId events)
      (s.phase instanceId)) ∧
    (∀ instanceId new s', Step py cfg instanceId s new s' → ∀ other, other ≠ instanceId →
      SameEntries s.tool s'.tool other) ∧
    ((∀ instanceId waiting, s.phase instanceId ≠ .live waiting) → s.tool = {}) := by
  refine ⟨entries_of_reaches h, ?_, ?_⟩
  · intro instanceId new s' hstep other hne
    exact (frame_of_step hstep hne).1
  · intro hreleased
    have hnone : ∀ instanceId, NoEntries s.tool instanceId := by
      intro instanceId
      have hentries := entries_of_reaches h instanceId
      cases hphase : s.phase instanceId with
      | live waiting => exact absurd hphase (hreleased instanceId waiting)
      | _ =>
          rw [hphase] at hentries
          exact hentries
    have hmetrics := Dict.eq_nil_of_get?_eq_none fun instanceId => (hnone instanceId).metrics
    have hlatencies := Dict.eq_nil_of_get?_eq_none fun instanceId => (hnone instanceId).latencies
    exact Instances.ext hmetrics hlatencies

/-! ## Two instances -/

theorem Reaches.step (instanceId : InstanceId) (h : Reaches py cfg s events)
    (hstep : Step py cfg instanceId s new s') : Reaches py cfg s' (events ++ new) :=
  Runs.Run.step h ⟨instanceId, hstep⟩

theorem step_resume_only {call : Text × ℤ} {tool : Instances}
    {result : Except (Raised F) (ToolResponse × SearchMetrics)} (outcome : Retrieval)
    (latencyMs : ℚ) (hphase : s.phase instanceId = .live [call])
    (hresume : resumeExecute py cfg s.tool instanceId outcome latencyMs = some (tool, result)) :
    Step py cfg instanceId s [.recorded instanceId (status outcome) latencyMs]
      ({ s with tool }.enter instanceId (.live [])) :=
  @Step.resume F py cfg instanceId s [] [] call tool result outcome latencyMs hphase hresume

/-- Two instances search at the same time; one is released before the other has its result. -/
theorem isolated_twoInstances :
    ∃ s : Session, s.tool.metricsByInstance = [(lit "b", [(.timeout, 1)])] ∧
      s.tool.latenciesByInstance = [(lit "b", [8])] ∧
      NoEntries s.tool (lit "a") ∧ Records s.tool (lit "b") [(.timeout, 8)] := by
  have hwait : startExecute asciiPython {} (.obj [(lit "query", .str (lit "q"))]) =
      .waiting (lit "q") 3 := rfl
  have hstart : Reaches asciiPython {} {} [] := .init rfl
  have hcreated := (hstart.step (lit "a") (.create rfl)).step (lit "a") (.created rfl)
  have hlive := (hcreated.step (lit "b") (.create rfl)).step (lit "b") (.created rfl)
  have hwaiting := (hlive.step (lit "a") (.wait _ rfl hwait)).step (lit "b") (.wait _ rfl hwait)
  have hresumed := hwaiting.step (lit "a") (step_resume_only (.text []) 5 rfl rfl)
  have hreleased := hresumed.step (lit "a") (.release rfl)
  have hdone := hreleased.step (lit "b") (step_resume_only .timeout 8 rfl rfl)
  have hisolated := (isolated_of_reaches hdone).1
  exact ⟨_, rfl, rfl, hisolated (lit "a"), hisolated (lit "b")⟩

end SearchR1.SearchToolInstances
