import SearchR1.Library.Monadic
import SearchR1.Model.ToolAgentLoop

/-! # The metrics a rollout accumulates -/

namespace SearchR1.ToolAgentLoop

open PyText SearchTool

/-! ## Single items -/

/-- The number an item is added to; a missing one counts as 0. -/
def numberAt (fields : Fields) (key : Text) : Option ℚ :=
  match (fields.get? key).getD (.num 0) with
  | .num q => some q
  | _ => none

theorem accumulateItem_num {fields : Fields} {key : Text} {prev : ℚ}
    (h : numberAt fields key = some prev) (v : ℚ) :
    accumulateItem fields (key, .num v) = some (fields.set key (.num (prev + v))) := by
  unfold numberAt at h
  unfold accumulateItem
  split at h
  · rename_i q hget
    cases h
    simp only [hget]
  · cases h

theorem accumulateItem_str (fields : Fields) (key v : Text) :
    accumulateItem fields (key, .str v) =
      some (if v ≠ lit "none" then fields.setdefault key (.str v) else fields) := by
  unfold accumulateItem
  simp only
  split <;> rfl

/-- Items with numbers under distinct keys are added to what the keys hold. -/
theorem foldlM_accumulateItem_num (table : List (Text × ℚ)) (hkeys : (table.map Prod.fst).Nodup)
    (fields : Fields) (h : ∀ e ∈ table, ∃ prev, numberAt fields e.1 = some prev) :
    ∃ fields', (table.map fun e => (e.1, Field.num e.2)).foldlM accumulateItem fields =
        some fields' ∧
      (∀ e ∈ table, ∀ prev, numberAt fields e.1 = some prev →
        fields'.get? e.1 = some (.num (prev + e.2))) ∧
      ∀ key ∉ table.map Prod.fst, fields'.get? key = fields.get? key := by
  induction table generalizing fields with
  | nil => exact ⟨fields, rfl, by simp, by simp⟩
  | cons e table ih =>
      rw [List.map_cons, List.nodup_cons] at hkeys
      rcases h e List.mem_cons_self with ⟨prev, hprev⟩
      have hother : ∀ key, key ≠ e.1 →
          (fields.set e.1 (.num (prev + e.2))).get? key = fields.get? key := fun key hkey =>
        Dict.get?_set_of_ne fields _ hkey
      have hne : ∀ e' ∈ table, e'.1 ≠ e.1 := by
        intro e' he' heq
        exact hkeys.1 (heq ▸ List.mem_map_of_mem he')
      have hnumber : ∀ e' ∈ table, numberAt (fields.set e.1 (.num (prev + e.2))) e'.1 =
          numberAt fields e'.1 := by
        intro e' he'
        rw [numberAt, hother _ (hne e' he'), numberAt]
      rcases ih hkeys.2 (fields.set e.1 (.num (prev + e.2))) (by
        intro e' he'
        rw [hnumber e' he']
        exact h e' (List.mem_cons_of_mem _ he')) with ⟨fields', hfold, hmem, hframe⟩
      refine ⟨fields', ?_, ?_, ?_⟩
      · rw [List.map_cons, List.foldlM_cons, accumulateItem_num hprev]
        exact hfold
      · intro e' he' prev' hprev'
        rcases List.mem_cons.mp he' with rfl | he'
        · rw [hframe _ hkeys.1, Dict.get?_set_self]
          rw [hprev] at hprev'
          cases hprev'
          rfl
        · exact hmem e' he' prev' (by rw [hnumber e' he', hprev'])
      · intro key hkey
        rw [List.map_cons, List.mem_cons, not_or] at hkey
        rw [hframe key hkey.2, hother key hkey.1]

/-! ## One call -/

/-- The numbers among the metrics of a call. -/
def metricNumbers (m : SearchMetrics) : List (Text × ℚ) :=
  [(lit "tool/search_called", m.called),
    (lit "tool/search_success", m.success),
    (lit "tool/search_failed", m.failed),
    (lit "tool/search_timeout", m.timeout),
    (lit "tool/search_empty_query", m.emptyQuery),
    (lit "tool/search_latency_ms", m.latencyMs),
    (lit "tool/search_num_docs", m.numDocs),
    (lit "tool/search_response_truncated", m.responseTruncated)]

def exceptionKey : Text := lit "tool/search_exception_type"

theorem metricItems_eq (m : SearchMetrics) :
    metricItems m = (metricNumbers m).map (fun e => (e.1, Field.num e.2)) ++
      [(exceptionKey, .str m.exceptionType.name)] := rfl

def metricKeys : List Text :=
  [lit "tool/search_called", lit "tool/search_success", lit "tool/search_failed",
    lit "tool/search_timeout", lit "tool/search_empty_query", lit "tool/search_latency_ms",
    lit "tool/search_num_docs", lit "tool/search_response_truncated"]

theorem map_fst_metricNumbers (m : SearchMetrics) :
    (metricNumbers m).map Prod.fst = metricKeys := rfl

theorem nodup_metricKeys : metricKeys.Nodup := by decide

theorem exceptionKey_not_mem_metricKeys : exceptionKey ∉ metricKeys := by decide

theorem isToolKey_of_mem_metricKeys {key : Text} (h : key ∈ exceptionKey :: metricKeys) :
    isToolKey key = true := by
  have hall : ∀ key ∈ exceptionKey :: metricKeys, isToolKey key = true := by decide
  exact hall key h

/-- The total of a metric over the calls. -/
def total (returned : List SearchMetrics) (key : Text) : ℚ :=
  (returned.map fun m => ((metricNumbers m).lookup key).getD 0).sum

/-- The first exception type that is not `none`. -/
def firstException (returned : List SearchMetrics) : Option ExceptionType :=
  (returned.map SearchMetrics.exceptionType).find? fun e => e ≠ .none

theorem ForeignFields.not_mem_of_toolKey (foreign : ForeignFields) {key : Text}
    (hkey : isToolKey key = true) : key ∉ foreign.fields.keys := by
  intro hmem
  rw [foreign.not_tool key hmem] at hkey
  cases hkey

theorem ForeignFields.get?_of_toolKey (foreign : ForeignFields) {key : Text}
    (hkey : isToolKey key = true) : foreign.fields.get? key = none :=
  (Dict.get?_eq_none_iff _ _).mpr (foreign.not_mem_of_toolKey hkey)

/-- What the extra fields hold after the calls: totals once there was a call, and the first
exception type. -/
structure Accumulated (fields : Fields) (returned : List SearchMetrics) : Prop where
  number : ∀ key ∈ metricKeys,
    fields.get? key = if returned = [] then none else some (.num (total returned key))
  exceptionType :
    fields.get? exceptionKey = (firstException returned).map fun e => .str e.name

theorem accumulated_nil : Accumulated [] [] where
  number _ _ := rfl
  exceptionType := rfl

/-- Fields that agree on the keys of the tools hold the same metrics. -/
theorem Accumulated.congr {fields fields' : Fields} {returned : List SearchMetrics}
    (h : Accumulated fields returned)
    (heq : ∀ key, isToolKey key = true → fields'.get? key = fields.get? key) :
    Accumulated fields' returned where
  number key hkey := by
    rw [heq key (isToolKey_of_mem_metricKeys (List.mem_cons_of_mem _ hkey))]
    exact h.number key hkey
  exceptionType := by
    rw [heq _ (isToolKey_of_mem_metricKeys List.mem_cons_self)]
    exact h.exceptionType

theorem Accumulated.numberAt {fields : Fields} {returned : List SearchMetrics}
    (h : Accumulated fields returned) {key : Text} (hkey : key ∈ metricKeys) :
    numberAt fields key = some (total returned key) := by
  unfold ToolAgentLoop.numberAt
  rw [h.number key hkey]
  by_cases hreturned : returned = []
  · simp [hreturned, total]
  · simp [hreturned]

theorem name_eq_none_iff (e : ExceptionType) : e.name = lit "none" ↔ e = .none := by
  cases e <;> decide

theorem lookup_metricNumbers (m : SearchMetrics) {e : Text × ℚ} (he : e ∈ metricNumbers m) :
    (metricNumbers m).lookup e.1 = some e.2 := by
  have hkeys : ((metricNumbers m).map Prod.fst).Nodup := nodup_metricKeys
  generalize metricNumbers m = table at he hkeys
  induction table with
  | nil => cases he
  | cons e' table ih =>
      rw [List.map_cons, List.nodup_cons] at hkeys
      rcases List.mem_cons.mp he with rfl | he
      · rw [List.lookup_cons, beq_self_eq_true]
      · have hne : e.1 ≠ e'.1 := fun heq => hkeys.1 (heq ▸ List.mem_map_of_mem he)
        rw [List.lookup_cons, beq_eq_false_iff_ne.mpr hne]
        exact ih he hkeys.2

theorem total_append (returned new : List SearchMetrics) (key : Text) :
    total (returned ++ new) key = total returned key + total new key := by
  simp [total]

theorem firstException_append (returned new : List SearchMetrics) :
    firstException (returned ++ new) = (firstException returned).or (firstException new) := by
  rw [firstException, List.map_append, List.find?_append]
  rfl

/-- Adding the metrics of a call. -/
theorem Accumulated.step {fields : Fields} {returned : List SearchMetrics}
    (h : Accumulated fields returned) (m : SearchMetrics) :
    ∃ fields', accumulate fields (metricItems m) = some fields' ∧
      Accumulated fields' (returned ++ [m]) := by
  rcases foldlM_accumulateItem_num (metricNumbers m) nodup_metricKeys fields (by
    intro e he
    exact ⟨_, h.numberAt (List.mem_map_of_mem he)⟩) with ⟨numbers, hfold, hmem, hframe⟩
  have hnumber : ∀ key ∈ metricKeys,
      numbers.get? key = some (.num (total (returned ++ [m]) key)) := by
    intro key hkey
    rw [← map_fst_metricNumbers m, List.mem_map] at hkey
    rcases hkey with ⟨e, he, rfl⟩
    rw [hmem e he _ (h.numberAt (List.mem_map_of_mem he)), total_append]
    simp [total, lookup_metricNumbers m he]
  have hexception : numbers.get? exceptionKey =
      (firstException returned).map fun e => .str e.name := by
    rw [hframe exceptionKey exceptionKey_not_mem_metricKeys, h.exceptionType]
  let name := m.exceptionType.name
  refine ⟨if name ≠ lit "none" then numbers.setdefault exceptionKey (.str name) else numbers,
    ?_, ?_, ?_⟩
  · rw [accumulate, metricItems_eq, List.foldlM_append, hfold]
    change (accumulateItem numbers (exceptionKey, .str name)).bind some = _
    rw [accumulateItem_str, Option.bind_some]
  · intro key hkey
    have hne : key ≠ exceptionKey := fun heq => exceptionKey_not_mem_metricKeys (heq ▸ hkey)
    have happend : returned ++ [m] ≠ [] := by simp
    rw [if_neg happend, ← hnumber key hkey]
    split
    · rw [Dict.get?_setdefault, if_neg hne]
    · rfl
  · rw [firstException_append]
    by_cases hnone : m.exceptionType = .none
    · rw [if_neg (by simpa using (name_eq_none_iff _).mpr hnone), hexception]
      simp [firstException, hnone]
    · have hname : m.exceptionType.name ≠ lit "none" := fun heq =>
        hnone ((name_eq_none_iff _).mp heq)
      have hnew : firstException [m] = some m.exceptionType := by simp [firstException, hnone]
      rw [if_pos hname, Dict.get?_setdefault, if_pos rfl, hexception, hnew]
      cases firstException returned <;> rfl

theorem Accumulated.steps {fields : Fields} {returned : List SearchMetrics}
    (h : Accumulated fields returned) (new : List SearchMetrics) :
    ∃ fields', accumulateAll fields new = some fields' ∧
      Accumulated fields' (returned ++ new) := by
  induction new generalizing fields returned with
  | nil => exact ⟨fields, rfl, by simpa using h⟩
  | cons m new ih =>
      rcases h.step m with ⟨next, hnext, hstep⟩
      rcases ih hstep with ⟨fields', hfields, hall⟩
      refine ⟨fields', ?_, by simpa using hall⟩
      rw [accumulateAll, List.foldlM_cons, hnext]
      exact hfields

/-! ## Distinct keys -/

theorem nodup_keys_accumulateItem {fields fields' : Fields} {item : Text × Field}
    (hnodup : fields.keys.Nodup) (h : accumulateItem fields item = some fields') :
    fields'.keys.Nodup := by
  unfold accumulateItem at h
  split at h
  · split at h
    · cases h
      exact Dict.nodup_keys_set _ _ _ hnodup
    · cases h
  · split at h
    · cases h
      exact Dict.nodup_keys_setdefault _ _ _ hnodup
    · cases h
      exact hnodup
  · cases h
    exact hnodup

theorem nodup_keys_accumulateAll {fields fields' : Fields} {returned : List SearchMetrics}
    (hnodup : fields.keys.Nodup) (h : accumulateAll fields returned = some fields') :
    fields'.keys.Nodup := by
  apply PyLoop.foldlM_invariant (I := fun fields : Fields => fields.keys.Nodup) _ hnodup h
  intro fields m _ fields' hfields hstep
  apply PyLoop.foldlM_invariant (I := fun fields : Fields => fields.keys.Nodup) _ hfields hstep
  intro fields item _ fields' hfields hitem
  exact nodup_keys_accumulateItem hfields hitem

/-! ## Generations -/

section Generation

variable {F : Type} (w : Worker F)

/-- A counter is rewritten or left alone. -/
theorem addSpecDecode_eq {output extraFields fields' : Fields} {key : Text}
    (h : addSpecDecode w output extraFields key = some fields') :
    fields' = extraFields ∨ ∃ v, fields' = extraFields.set key v := by
  unfold addSpecDecode at h
  split at h
  · rename_i new old _ _
    cases hold : old.toInt w.py with
    | none => simp [hold] at h
    | some a =>
        cases hnew : new.toInt w.py with
        | none => simp [hold, hnew] at h
        | some b =>
            simp only [hold, hnew, Option.pure_def, Option.bind_eq_bind, Option.bind_some,
              Option.some_inj] at h
            exact .inr ⟨_, h.symm⟩
  · cases h
    exact .inl rfl

theorem addSpecDecode_get? {output extraFields fields' : Fields} {key k : Text}
    (h : addSpecDecode w output extraFields key = some fields') (hk : k ≠ key) :
    fields'.get? k = extraFields.get? k := by
  rcases addSpecDecode_eq w h with rfl | ⟨v, rfl⟩
  · rfl
  · exact Dict.get?_set_of_ne extraFields v hk

theorem nodup_keys_addSpecDecode {output extraFields fields' : Fields} {key : Text}
    (hnodup : extraFields.keys.Nodup)
    (h : addSpecDecode w output extraFields key = some fields') : fields'.keys.Nodup := by
  rcases addSpecDecode_eq w h with rfl | ⟨v, rfl⟩
  · exact hnodup
  · exact Dict.nodup_keys_set _ _ _ hnodup

theorem foldlM_addSpecDecode_get? {output : Fields} (keys : List Text)
    {extraFields fields' : Fields} {k : Text}
    (h : keys.foldlM (addSpecDecode w output) extraFields = some fields') (hk : k ∉ keys) :
    fields'.get? k = extraFields.get? k := by
  apply PyLoop.foldlM_invariant (I := fun fields : Fields =>
    fields.get? k = extraFields.get? k) _ rfl h
  intro fields key hkey next hfields hnext
  have hne : k ≠ key := by
    rintro rfl
    exact hk hkey
  rw [addSpecDecode_get? w hnext hne, hfields]

/-- A generation leaves the fields of the tools alone. -/
theorem mergeOutputFields_get? {output : ForeignFields} {extraFields fields' : Fields}
    (h : mergeOutputFields w extraFields output.fields = some fields') {key : Text}
    (hkey : isToolKey key = true) : fields'.get? key = extraFields.get? key := by
  unfold mergeOutputFields at h
  split at h
  · cases h
    exact Dict.get?_update_of_not_mem _ _ _ (output.not_mem_of_toolKey hkey)
  · have hspec : key ∉ specDecodeExtraKeys := by
      intro hmem
      have hnone : ∀ k ∈ specDecodeExtraKeys, isToolKey k = false := by decide
      rw [hnone key hmem] at hkey
      cases hkey
    have hmax : key ≠ lit "max_global_steps" := by
      rintro rfl
      revert hkey
      decide
    rw [foldlM_addSpecDecode_get? w _ h hspec]
    split
    · exact Dict.get?_set_of_ne extraFields _ hmax
    · rfl

theorem nodup_keys_mergeOutputFields {extraFields output fields' : Fields}
    (hnodup : extraFields.keys.Nodup)
    (h : mergeOutputFields w extraFields output = some fields') : fields'.keys.Nodup := by
  unfold mergeOutputFields at h
  split at h
  · cases h
    exact Dict.nodup_keys_update _ _ hnodup
  · apply PyLoop.foldlM_invariant (I := fun fields : Fields => fields.keys.Nodup) _ _ h
    · intro fields key _ fields' hfields hstep
      exact nodup_keys_addSpecDecode w hfields hstep
    · split
      · exact Dict.nodup_keys_set _ _ _ hnodup
      · exact hnodup

end Generation

end SearchR1.ToolAgentLoop
