import SearchR1.Model.BuildSftData

/-! # The values that are read as messages -/

namespace SearchR1.BuildSftData

open PyText PyJson

variable {F : Type} {py : Python F}

theorem readMessage_some_iff {turn : Dict Text (Json F)} {m : Message} :
    readMessage py (.obj turn) = some m ↔
      readRole py (Dict.get? turn (lit "role")) = some m.role ∧
        readText [] (Dict.get? turn (lit "content")) = some m.content := by
  simp only [readMessage, Option.bind_eq_bind, Option.bind_eq_some_iff, Option.pure_def,
    Option.some.injEq]
  constructor
  · intro h
    rcases h with ⟨role, hrole, content, hcontent, rfl⟩
    exact ⟨hrole, hcontent⟩
  · intro h
    exact ⟨m.role, h.1, m.content, h.2, rfl⟩

/-- A text that is read is there, or is the default. -/
theorem getD_of_readText {default text : Text} {v : Option (Json F)}
    (h : readText default v = some text) : v.getD (.str default) = .str text := by
  cases v with
  | none => exact congrArg Json.str (Option.some.inj h)
  | some w =>
      cases w with
      | str t => exact congrArg Json.str (Option.some.inj h)
      | _ => cases h

/-- The four roles are told apart by their texts. -/
theorem eq_roleText_iff {t : Text} {role known : Role}
    (h : readRole py (some (.str t)) = some role) (hknown : isKnownRole known) :
    t = roleText known ↔ role = known := by
  obtain rfl := Option.some.inj h
  constructor
  · rintro rfl
    cases known with
    | other name => cases hknown
    | _ => decide
  · intro hrole
    split at hrole
    · rename_i ht
      rw [ht, ← hrole, roleText]
    split at hrole
    · rename_i ht
      rw [ht, ← hrole, roleText]
    split at hrole
    · rename_i ht
      rw [ht, ← hrole, roleText]
    split at hrole
    · rename_i ht
      rw [ht, ← hrole, roleText]
    · rw [← hrole] at hknown
      cases hknown

/-- A role is one of the four exactly when the value is its text. -/
theorem eq_some_roleText_iff {v : Option (Json F)} {role known : Role}
    (h : readRole py v = some role) (hknown : isKnownRole known) :
    v = some (.str (roleText known)) ↔ role = known := by
  have hother : ∀ name, Role.other name ≠ known := by
    rintro name rfl
    cases hknown
  cases v with
  | none =>
      obtain rfl := Option.some.inj h
      simp [hother]
  | some w =>
      cases w with
      | str t => simpa using eq_roleText_iff h hknown
      | arr vs => cases h
      | obj ms => cases h
      | _ =>
          obtain rfl := Option.some.inj h
          simp [hother]

end SearchR1.BuildSftData
