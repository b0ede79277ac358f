import SearchR1.Model.AgentLoop
import SearchR1.Model.AsciiRuntime
import SearchR1.Verification.Filtering.Classification
import SearchR1.Verification.Rollout.SearchOutcomes

/-! # The anomalies an accumulation keeps -/

namespace SearchR1.ToolAgentLoop

open PyText SearchTool TrajectoryFilter AgentLoop

/-! ## Totals -/

theorem total_eq_natCast {key : Text} (count : SearchMetrics → ℕ)
    (hkey : ∀ m, (key, (count m : ℚ)) ∈ metricNumbers m) (returned : List SearchMetrics) :
    total returned key = ((returned.map count).sum : ℕ) := by
  have hlookup : ∀ m, ((metricNumbers m).lookup key).getD 0 = (count m : ℚ) := by
    intro m
    rw [lookup_metricNumbers m (hkey m), Option.getD_some]
  simp only [total, hlookup]
  induction returned with
  | nil => rfl
  | cons m returned ih =>
      rw [List.map_cons, List.sum_cons, ih, List.map_cons, List.sum_cons, Nat.cast_add]

/-- A counter in the fields after some calls. -/
theorem Accumulated.counter {fields : Fields} {returned : List SearchMetrics}
    (h : Accumulated fields returned) (hreturned : returned ≠ []) {key : Text}
    (count : SearchMetrics → ℕ) (hkey : ∀ m, (key, (count m : ℚ)) ∈ metricNumbers m) :
    fields.get? key = some (.num ((returned.map count).sum : ℕ)) := by
  rcases List.exists_mem_of_ne_nil returned hreturned with ⟨m, -⟩
  have hmem : key ∈ metricKeys := List.mem_map_of_mem (f := Prod.fst) (hkey m)
  rw [h.number key hmem, if_neg hreturned, total_eq_natCast count hkey]

theorem total_pos_iff {key : Text} (count : SearchMetrics → ℕ)
    (hkey : ∀ m, (key, (count m : ℚ)) ∈ metricNumbers m) (returned : List SearchMetrics) :
    0 < total returned key ↔ ∃ m ∈ returned, 0 < count m := by
  rw [total_eq_natCast count hkey, Nat.cast_pos, List.sum_pos_iff_exists_pos_nat]
  simp only [List.mem_map, exists_exists_and_eq_and]

/-! ## What the detector reads -/

variable {fields : Fields} {returned : List SearchMetrics}

theorem searchTimeout_toolMetricsOf (h : Accumulated fields returned) :
    (toolMetricsOf fields).searchTimeout = some (total returned (lit "tool/search_timeout")) := by
  have hnumber := h.number (lit "tool/search_timeout") (by decide)
  simp only [toolMetricsOf, hnumber]
  by_cases hreturned : returned = []
  · simp [hreturned, readNumber, total]
  · simp [hreturned, readNumber]

theorem searchExceptionType_toolMetricsOf (h : Accumulated fields returned) :
    (toolMetricsOf fields).searchExceptionType =
      some ((firstException returned).getD .none).name := by
  have htype := h.exceptionType
  simp only [exceptionKey] at htype
  simp only [toolMetricsOf, htype]
  cases firstException returned <;> rfl

theorem name_eq_httpError_iff (e : ExceptionType) :
    e.name = lit "http_error" ↔ e = .httpError := by
  cases e <;> decide

theorem name_ne_parseError (e : ExceptionType) : e.name ≠ lit "parse_error" := by
  cases e <;> decide

theorem firstException_getD_eq_iff {e : ExceptionType} (he : e ≠ .none) :
    (firstException returned).getD .none = e ↔ firstException returned = some e := by
  cases firstException returned with
  | none => simp [Ne.symm he]
  | some e' => simp

theorem mem_of_firstException {e : ExceptionType} (h : firstException returned = some e) :
    ∃ m ∈ returned, m.exceptionType = e := by
  have hmem := List.mem_of_find?_eq_some h
  rwa [List.mem_map] at hmem

/-- A short trajectory is masked for a timeout, or for an http error that comes first. -/
theorem masked_iff (h : Accumulated fields returned) (hconsistent : ∀ m ∈ returned, Consistent m)
    (cfg : TrajectoryFilter.Config) (hcfg : cfg.maskOn = none) (traj : Trajectory)
    (hmetrics : traj.toolMetrics = toolMetricsOf fields)
    (hlength : traj.responseLength < traj.maxResponseLength) :
    (classifyTrajectory cfg traj).1 = true ↔
      (∃ m ∈ returned, m.exceptionType = .timeout) ∨
        firstException returned = some .httpError := by
  have htimeout : 0 < total returned (lit "tool/search_timeout") ↔
      ∃ m ∈ returned, m.exceptionType = .timeout := by
    rw [total_pos_iff SearchMetrics.timeout (by intro m; simp [metricNumbers])]
    apply exists_congr
    intro m
    apply and_congr_right
    intro hm
    rw [(hconsistent m hm).timeout]
    split <;> simp_all
  rw [classifyTrajectory_default hcfg, hmetrics, searchTimeout_toolMetricsOf h,
    searchExceptionType_toolMetricsOf h]
  simp only [isPositive, Option.any_some, decide_eq_true_eq, Option.some_inj, htimeout,
    name_eq_httpError_iff, name_ne_parseError, not_le.mpr hlength, or_false,
    firstException_getD_eq_iff (show ExceptionType.httpError ≠ .none by decide)]

/-! ## Timeouts and http errors -/

/-- Fields from outside the tools hold no metrics. -/
theorem accumulated_foreign (foreign : ForeignFields) : Accumulated foreign.fields [] := by
  apply accumulated_nil.congr
  intro key hkey
  rw [foreign.get?_of_toolKey hkey, Dict.get?_nil]

/-- A timeout or an http error masks the trajectory. -/
def SystemErrorsMask (returned : List SearchMetrics) (maxToolCalls : ℤ) (traj : Trajectory)
    (fields : Fields) : Prop :=
  (classifyTrajectory { maxToolCalls } { traj with toolMetrics := toolMetricsOf fields }).1 =
      true ↔
    ∃ m ∈ returned, m.exceptionType = .timeout ∨ m.exceptionType = .httpError

theorem or_iff_or_left_iff {p q r : Prop} (h : r → q) :
    ((p ∨ r) ↔ (p ∨ q)) ↔ (p ∨ ¬ q ∨ r) := by
  by_cases hp : p
  · simp [hp]
  · by_cases hq : q
    · simp [hp, hq]
    · simp [hp, hq, mt h hq]

/-- Of the texts only the first one is kept, so an http error after another failure is lost: the
decision is right exactly when there is a timeout, no http error, or an http error before all
other failures. -/
theorem systemErrorsMask_iff {F : Type} {w : Worker F} (foreign : ForeignFields)
    {returned : List SearchMetrics} (hreturned : ∀ m ∈ returned, Returned w m)
    (maxToolCalls : ℤ) {traj : Trajectory}
    (hlength : traj.responseLength < traj.maxResponseLength) :
    ∃ fields, accumulateAll foreign.fields returned = some fields ∧
      (SystemErrorsMask returned maxToolCalls traj fields ↔
        (∃ m ∈ returned, m.exceptionType = .timeout) ∨
        (∀ m ∈ returned, m.exceptionType ≠ .httpError) ∨
        firstException returned = some .httpError) := by
  rcases (accumulated_foreign foreign).steps returned with ⟨fields, hfields, hacc⟩
  rw [List.nil_append] at hacc
  refine ⟨fields, hfields, ?_⟩
  have hconsistent : ∀ m ∈ returned, Consistent m := by
    intro m hm
    rcases hreturned m hm with ⟨parameters, service, response, hexecute⟩
    exact consistent_of_execute hexecute
  have hmasked := masked_iff hacc hconsistent { maxToolCalls } rfl
    { traj with toolMetrics := toolMetricsOf fields } rfl hlength
  have hsplit : (∃ m ∈ returned, m.exceptionType = .timeout ∨ m.exceptionType = .httpError) ↔
      (∃ m ∈ returned, m.exceptionType = .timeout) ∨
        ∃ m ∈ returned, m.exceptionType = .httpError := by
    simp only [and_or_left, exists_or]
  have hnone : (∀ m ∈ returned, m.exceptionType ≠ .httpError) ↔
      ¬ ∃ m ∈ returned, m.exceptionType = .httpError := by
    simp only [not_exists, not_and, ne_eq]
  unfold SystemErrorsMask
  rw [hmasked, hsplit, hnone]
  exact or_iff_or_left_iff mem_of_firstException

/-- A response without documents. -/
def emptyResultMetrics : SearchMetrics := (makeResponse {} [] 8).2

def httpErrorMetrics : SearchMetrics := (makeErrorResponse .httpError (lit "503") 9).2

/-- A call of the search tool. -/
def searchCall : ToolParser.FunctionCall where
  name := lit "search"
  arguments := lit "\x7b\"query\": \"q\"\x7d"

theorem returned_emptyResultMetrics :
    Returned (asciiWorker { responseLength := 100 }) emptyResultMetrics :=
  returned_of_callTool searchCall
    (fun _ _ => (.text (lit "\x7b\"result\": []\x7d"), 8)) (by decide +kernel)

theorem returned_httpErrorMetrics :
    Returned (asciiWorker { responseLength := 100 }) httpErrorMetrics :=
  returned_of_callTool searchCall (fun _ _ => (.clientError (lit "503"), 9)) (by decide +kernel)

/-- An http error that comes first masks the trajectory. -/
theorem systemErrorsMask_httpError_emptyResult :
    ∃ fields, accumulateAll [(lit "global_steps", .num 1)]
        [httpErrorMetrics, emptyResultMetrics] = some fields ∧
      SystemErrorsMask [httpErrorMetrics, emptyResultMetrics] 10 { maxResponseLength := 100 }
        fields := by
  have hreturned : ∀ m ∈ [httpErrorMetrics, emptyResultMetrics],
      Returned (asciiWorker { responseLength := 100 }) m := by
    intro m hm
    simp only [List.mem_cons, List.not_mem_nil, or_false] at hm
    rcases hm with rfl | rfl
    · exact returned_httpErrorMetrics
    · exact returned_emptyResultMetrics
  rcases systemErrorsMask_iff (generationOf []).extraFields hreturned 10
    (show ({ maxResponseLength := 100 } : Trajectory).responseLength < 100 by decide)
    with ⟨fields, hfields, hiff⟩
  exact ⟨fields, hfields, hiff.mpr (.inr (.inr rfl))⟩

/-- The same two calls the other way round do not. -/
theorem not_systemErrorsMask_emptyResult_httpError :
    Returned (asciiWorker { responseLength := 100 }) emptyResultMetrics ∧
    Returned (asciiWorker { responseLength := 100 }) httpErrorMetrics ∧
    ∃ fields, accumulateAll [(lit "global_steps", .num 1)]
        [emptyResultMetrics, httpErrorMetrics] = some fields ∧
      ¬ SystemErrorsMask [emptyResultMetrics, httpErrorMetrics] 10 { maxResponseLength := 100 }
        fields := by
  refine ⟨returned_emptyResultMetrics, returned_httpErrorMetrics, ?_⟩
  rcases (accumulated_foreign (generationOf []).extraFields).steps
    [emptyResultMetrics, httpErrorMetrics] with ⟨fields, hfields, hacc⟩
  rw [List.nil_append] at hacc
  refine ⟨fields, hfields, ?_⟩
  have hconsistent : ∀ m ∈ [emptyResultMetrics, httpErrorMetrics], Consistent m := by
    intro m hm
    simp only [List.mem_cons, List.not_mem_nil, or_false] at hm
    rcases hm with rfl | rfl
    · exact consistent_makeResponse _ _ _
    · exact consistent_makeErrorResponse _ _ _
  have hmasked := masked_iff hacc hconsistent { maxToolCalls := 10 } rfl
    { maxResponseLength := 100, toolMetrics := toolMetricsOf fields } rfl
    (show (0 : ℤ) < 100 by decide)
  intro h
  rcases hmasked.mp (h.mpr ⟨httpErrorMetrics, by simp, .inr rfl⟩) with ⟨m, hm, htimeout⟩ | hfirst
  · simp only [List.mem_cons, List.not_mem_nil, or_false] at hm
    rcases hm with rfl | rfl <;> cases htimeout
  · cases hfirst

end SearchR1.ToolAgentLoop
