import SearchR1.Model.ToolParser

/-! # The lenient route of the Hermes parser -/

namespace SearchR1.ToolParser

open PyText PyJson

theorem braceMatch_append {inner : Bool} {s m : Text} (h : braceMatch inner s = some m)
    (t : Text) : braceMatch inner (s ++ t) = some m := by
  induction s generalizing inner m with
  | nil => cases h
  | cons c s ih =>
      simp only [braceMatch, List.cons_append] at h ⊢
      split at h
      · rename_i hc
        cases inner with
        | false => simpa [hc] using h
        | true =>
            simp only [ite_true, Option.map_eq_some_iff] at h
            obtain ⟨m', hm', rfl⟩ := h
            simp [hc, ih hm']
      · rename_i hc
        split at h
        · rename_i ho
          cases inner with
          | true => cases h
          | false =>
              simp only [Bool.false_eq_true, ite_false, Option.map_eq_some_iff] at h
              obtain ⟨m', hm', rfl⟩ := h
              have hne : ch '{' ≠ ch '}' := by decide
              simp [ho, hne, ih hm']
        · rename_i ho
          simp only [Option.map_eq_some_iff] at h
          obtain ⟨m', hm', rfl⟩ := h
          simp [hc, ho, ih hm']

theorem braceMatch_length_le {inner : Bool} {s m : Text} (h : braceMatch inner s = some m) :
    m.length ≤ s.length := by
  induction s generalizing inner m with
  | nil => cases h
  | cons c s ih =>
      have hmap : ∀ {i : Bool}, (braceMatch i s).map (c :: ·) = some m →
          m.length ≤ (c :: s).length := by
        intro i hm
        simp only [Option.map_eq_some_iff] at hm
        obtain ⟨m', hm', rfl⟩ := hm
        simpa using ih hm'
      simp only [braceMatch] at h
      split at h
      · cases inner with
        | false =>
            obtain rfl : [c] = m := by simpa using h
            simp
        | true => exact hmap (by simpa using h)
      · split at h
        · cases inner with
          | true => cases h
          | false => exact hmap (by simpa using h)
        · exact hmap h

theorem lenientSearch_length_le {s m : Text} (h : lenientSearch s = some m) :
    m.length ≤ s.length := by
  induction s with
  | nil => cases h
  | cons c s ih =>
      simp only [lenientSearch] at h
      split at h
      · split at h
        · rename_i m' hm'
          obtain rfl := Option.some.inj h
          simpa using braceMatch_length_le hm'
        · exact (ih h).trans (by simp)
      · exact (ih h).trans (by simp)

/-- Text without an opening brace in front does not change what is found. -/
theorem lenientSearch_append_left {w : Text} (hw : ∀ c ∈ w, c ≠ ch '{') (s : Text) :
    lenientSearch (w ++ s) = lenientSearch s := by
  induction w with
  | nil => rfl
  | cons c w ih =>
      have hc : c ≠ ch '{' := hw c (by simp)
      simp only [List.cons_append, lenientSearch, hc, ite_false]
      exact ih fun d hd => hw d (by simp [hd])

/-- A text that is matched as a whole is matched as a whole in front of any other text. -/
theorem lenientSearch_append_right {s : Text} (h : lenientSearch s = some s) (t : Text) :
    lenientSearch (s ++ t) = some s := by
  cases s with
  | nil => cases h
  | cons c s =>
      have hshort : lenientSearch s ≠ some (c :: s) := by
        intro hs
        have := lenientSearch_length_le hs
        rw [List.length_cons] at this
        omega
      simp only [lenientSearch, List.cons_append] at h ⊢
      split at h
      · rename_i hc
        split at h
        · rename_i m hm
          obtain rfl : m = s := by simpa using h
          simp [hc, braceMatch_append hm t]
        · exact absurd h hshort
      · exact absurd h hshort

/-- White space around a text that is matched as a whole is skipped. -/
theorem lenientSearch_of_strip {s : Text} (h : lenientSearch (strip s) = some (strip s)) :
    lenientSearch s = some (strip s) := by
  obtain ⟨w, t, hs, hw, -⟩ := trim_decompose isSpace s
  have hbrace : ∀ c ∈ w, c ≠ ch '{' := by
    rintro c hc rfl
    have h := hw _ hc
    revert h
    decide
  calc lenientSearch s = lenientSearch (w ++ (strip s ++ t)) := by
        rw [← List.append_assoc]
        exact congrArg lenientSearch hs
    _ = lenientSearch (strip s ++ t) := lenientSearch_append_left hbrace _
    _ = some (strip s) := lenientSearch_append_right h t

theorem lenientSearch_of_blank {s : Text} (h : strip s = []) : lenientSearch s = none := by
  have hall := (trim_eq_nil_iff isSpace s).mp h
  have hbrace : ∀ c ∈ s, c ≠ ch '{' := by
    rintro c hc rfl
    have h := hall _ hc
    revert h
    decide
  have happ := lenientSearch_append_left hbrace []
  rwa [List.append_nil] at happ

end SearchR1.ToolParser
