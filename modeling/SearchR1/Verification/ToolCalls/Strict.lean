import SearchR1.Model.BuildSftData
import SearchR1.Library.Monadic
import SearchR1.Library.JsonRoundTrip

/-! # What the strict validation of tool calls accepts -/

namespace SearchR1.BuildSftData

open PyText PyJson PyLoop

variable {F : Type}

/-- A payload that passes the validation, with what the checks have found in it. -/
structure SearchCall (F : Type) where
  payload : Dict Text (Json F)
  arguments : Dict Text (Json F)
  query : Text
  topk : ℤ
  name_eq : Dict.get? payload (lit "name") = some (.str (lit "search"))
  arguments_eq : Dict.get? payload (lit "arguments") = some (.obj arguments)
  query_eq : Dict.get? arguments (lit "query") = some (.str query)
  query_ne : strip query ≠ []
  topk_eq : asInt ((Dict.get? arguments (lit "topk")).getD (.int 3)) = some topk
  topk_mem : 1 ≤ topk ∧ topk ≤ 5

variable (py : Python F)

theorem isSearch_getD_iff (v : Option (Json F)) :
    isSearch (v.getD .null) ↔ v = some (.str (lit "search")) := by
  rcases v with _ | v
  · simp [isSearch]
  · cases v <;> simp [isSearch]

theorem isNonBlankStr_getD_iff (v : Option (Json F)) :
    isNonBlankStr (v.getD .null) ↔ ∃ query, v = some (.str query) ∧ strip query ≠ [] := by
  rcases v with _ | v
  · simp [isNonBlankStr]
  · cases v <;> simp [isNonBlankStr]

/-- The validation accepts the JSON objects that are search calls, and nothing else. -/
theorem parseToolCall_ok_iff {raw : Text} {payload : Dict Text (Json F)} :
    parseToolCall py raw = .ok payload ↔
      loads py.json raw = some (.obj payload) ∧ ∃ call : SearchCall F, call.payload = payload := by
  constructor
  · intro h
    unfold parseToolCall at h
    split at h
    · cases h
    · rename_i payload' hload
      simp only [Bool.not_eq_true'] at h
      split at h
      · cases h
      rename_i hname
      split at h
      · rename_i arguments hargs
        split at h
        · cases h
        rename_i hquery
        split at h
        · cases h
        rename_i n hn
        split at h
        · rename_i hrange
          obtain rfl := Except.ok.inj h
          have hname' := (isSearch_getD_iff _).mp (by simpa using hname)
          obtain ⟨query, hget, hne⟩ := (isNonBlankStr_getD_iff _).mp (by simpa using hquery)
          exact ⟨hload, ⟨payload', arguments, query, n, hname', hargs, hget, hne, hn, hrange⟩,
            rfl⟩
        · cases h
      · cases h
    · cases h
  · rintro ⟨hload, call, rfl⟩
    have hquery := (isNonBlankStr_getD_iff _).mpr ⟨call.query, call.query_eq, call.query_ne⟩
    have hname := (isSearch_getD_iff _).mpr call.name_eq
    simp [parseToolCall, hload, hname, call.arguments_eq, hquery, call.topk_eq, call.topk_mem]

theorem parseToolCalls_ok_iff {content : Text} {payloads : List (Dict Text (Json F))} :
    parseToolCalls py content = .ok payloads ↔
      List.Forall₂ (fun body payload => parseToolCall py body = .ok payload) (callBodies content)
        payloads :=
  mapM_ok_iff

/-- The bodies handed to the validation are the stripped blocks that are not blank. -/
theorem callBodies_eq (content : Text) :
    callBodies content =
      ((blocks toolCallOpen toolCallClose content).map strip).filter fun b => !b.isEmpty := by
  rw [callBodies, toolCallPattern, strippedBlocks, List.map_map]
  congr 1
  apply List.map_congr_left
  intro b _
  exact strip_strip b

end SearchR1.BuildSftData
