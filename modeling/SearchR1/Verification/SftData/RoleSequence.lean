import SearchR1.Model.BuildSftData

/-! # The role sequences the validation accepts -/

namespace SearchR1.BuildSftData

open PyText

/-- An assistant message with an opening tag; the role check looks for nothing else. -/
def Message.IsCall (m : Message) : Prop := m.role = .assistant ∧ contains toolCallOpen m.content

instance (m : Message) : Decidable m.IsCall := by
  unfold Message.IsCall
  infer_instance

/-- What may follow the first user message: user turns, assistant turns without a tag, and
assistant turns with one, each answered by a tool message. -/
inductive Turns : List Message → Prop where
  | nil : Turns []
  | user {m rest} (h : m.role = .user) : Turns rest → Turns (m :: rest)
  | plain {m rest} (h : m.role = .assistant) (ht : ¬ contains toolCallOpen m.content) :
      Turns rest → Turns (m :: rest)
  | call {m t rest} (h : m.IsCall) (ht : t.role = .tool) : Turns rest → Turns (m :: t :: rest)

/-- A role of a message that is not dropped before the check. -/
def Message.IsTurn (m : Message) : Prop := m.role = .user ∨ m.role = .assistant ∨ m.role = .tool

/-! ## Checking one message -/

theorem checkMessages_cons_ok {previous : Option Message} {m : Message} {rest : List Message} :
    checkMessages previous (m :: rest) = .ok () ↔ checkTool previous m = .ok () ∧
      checkAssistant m rest.head? = .ok () ∧ checkMessages (some m) rest = .ok () := by
  simp only [checkMessages]
  cases checkTool previous m with
  | error e => simp [bind, Except.bind]
  | ok u => cases checkAssistant m rest.head? <;> simp [bind, Except.bind]

theorem checkTool_ok_iff (previous : Option Message) (m : Message) :
    checkTool previous m = .ok () ↔ (m.role = .tool → ∃ p, previous = some p ∧ p.IsCall) := by
  unfold checkTool Message.IsCall
  by_cases hm : m.role = .tool
  · cases previous with
    | none => simp [hm]
    | some p =>
        by_cases hp : p.role = .assistant <;> by_cases ht : contains toolCallOpen p.content <;>
          simp [hm, hp, ht]
  · simp [hm]

theorem checkAssistant_ok_iff (m : Message) (next : Option Message) :
    checkAssistant m next = .ok () ↔ (m.IsCall → ∃ t, next = some t ∧ t.role = .tool) := by
  unfold checkAssistant Message.IsCall
  by_cases hm : m.role = .assistant ∧ contains toolCallOpen m.content
  · cases next with
    | none => simp [hm]
    | some t => by_cases ht : t.role = .tool <;> simp [hm, ht]
  · simp [hm]

theorem not_isCall_of_role {m : Message} (h : m.role ≠ .assistant) : ¬ m.IsCall :=
  fun hcall => h hcall.1

/-! ## Checking all messages -/

/-- A tool message is accepted only behind the call it answers, so the messages behind a
message that is no call form turns. -/
theorem turns_of_checkMessages (messages : List Message)
    (hturn : ∀ m ∈ messages, m.IsTurn) (previous : Option Message)
    (hprevious : ∀ p ∈ previous, ¬ p.IsCall)
    (hok : checkMessages previous messages = .ok ()) : Turns messages := by
  match messages with
  | [] => exact .nil
  | m :: rest =>
      rcases checkMessages_cons_ok.mp hok with ⟨htool, hassistant, hrest⟩
      have hturn' : ∀ m ∈ rest, m.IsTurn := fun m hm => hturn m (List.mem_cons_of_mem _ hm)
      by_cases hcall : m.IsCall
      · -- the call is followed by its tool message, which is no call
        rcases (checkAssistant_ok_iff m rest.head?).mp hassistant hcall with ⟨t, hnext, ht⟩
        match rest with
        | [] => cases hnext
        | t' :: rest =>
            obtain rfl : t' = t := Option.some.inj hnext
            rcases checkMessages_cons_ok.mp hrest with ⟨-, -, hrest⟩
            refine .call hcall ht (turns_of_checkMessages rest
              (fun m hm => hturn' m (List.mem_cons_of_mem _ hm)) (some t') ?_ hrest)
            rintro p ⟨⟩
            exact not_isCall_of_role (by simp [ht])
      · have hturns := turns_of_checkMessages rest hturn' (some m) (by simpa using hcall) hrest
        rcases hturn m (by simp) with hm | hm | hm
        · exact .user hm hturns
        · exact .plain hm (fun ht => hcall ⟨hm, ht⟩) hturns
        · rcases (checkTool_ok_iff previous m).mp htool hm with ⟨p, hp, hpcall⟩
          exact absurd hpcall (hprevious p hp)

theorem Turns.checkMessages {messages : List Message} (h : Turns messages)
    (previous : Option Message) : checkMessages previous messages = .ok () := by
  induction h generalizing previous with
  | nil => rfl
  | user h _ ih =>
      exact checkMessages_cons_ok.mpr ⟨(checkTool_ok_iff _ _).mpr (by simp [h]),
        (checkAssistant_ok_iff _ _).mpr fun hcall =>
          absurd hcall (not_isCall_of_role (by simp [h])), ih _⟩
  | plain h ht _ ih =>
      exact checkMessages_cons_ok.mpr ⟨(checkTool_ok_iff _ _).mpr (by simp [h]),
        (checkAssistant_ok_iff _ _).mpr fun hcall => absurd hcall.2 ht, ih _⟩
  | @call m t rest h ht _ ih =>
      refine checkMessages_cons_ok.mpr ⟨(checkTool_ok_iff _ _).mpr (by simp [h.1]),
        (checkAssistant_ok_iff _ _).mpr fun _ => ⟨t, rfl, ht⟩, checkMessages_cons_ok.mpr ⟨?_, ?_,
          ih _⟩⟩
      · exact (checkTool_ok_iff _ _).mpr fun _ => ⟨m, rfl, h⟩
      · exact (checkAssistant_ok_iff _ _).mpr fun hcall =>
          absurd hcall (not_isCall_of_role (by simp [ht]))

/-- A conversation in an accepted order. -/
structure WellOrdered (messages : List Message) : Prop where
  known : ∀ m ∈ messages, isKnownRole m.role
  turns : ∃ first rest, nonSystem messages = first :: rest ∧ first.role = .user ∧ Turns rest

theorem isTurn_of_mem_nonSystem {messages : List Message}
    (hknown : ∀ m ∈ messages, isKnownRole m.role) :
    ∀ m ∈ nonSystem messages, m.IsTurn := by
  intro m hm
  rcases List.mem_filter.mp hm with ⟨hmem, hrole⟩
  have hk := hknown m hmem
  cases hr : m.role with
  | system => simp [hr] at hrole
  | user => exact .inl hr
  | assistant => exact .inr (.inl hr)
  | tool => exact .inr (.inr hr)
  | other name => simp [hr, isKnownRole] at hk

/-- `validate_role_sequence` accepts exactly the conversations in that order. -/
theorem validateRoleSequence_ok_iff (messages : List Message) :
    validateRoleSequence messages = .ok () ↔ WellOrdered messages := by
  unfold validateRoleSequence
  cases hfind : messages.find? fun m => !isKnownRole m.role with
  | some m =>
      refine ⟨fun h => (by cases h), fun h => ?_⟩
      have hbad := List.find?_some hfind
      rw [h.known m (List.mem_of_find?_eq_some hfind)] at hbad
      cases hbad
  | none =>
      have hknown : ∀ m ∈ messages, isKnownRole m.role := by
        simpa using List.find?_eq_none.mp hfind
      have hturn := isTurn_of_mem_nonSystem hknown
      simp only
      cases hns : nonSystem messages with
      | nil =>
          refine ⟨fun h => (by cases h), fun h => ?_⟩
          rcases h.turns with ⟨first, rest, heq, -⟩
          rw [hns] at heq
          cases heq
      | cons first rest =>
          rw [hns] at hturn
          simp only
          split
          · rename_i hfirst
            refine ⟨fun h => (by cases h), fun h => ?_⟩
            rcases h.turns with ⟨first', rest', heq, huser, -⟩
            rw [hns] at heq
            rcases List.cons.inj heq with ⟨rfl, rfl⟩
            exact absurd huser hfirst
          · rename_i hfirst
            have huser : first.role = .user := not_not.mp hfirst
            constructor
            · intro hok
              rcases checkMessages_cons_ok.mp hok with ⟨-, -, hrest⟩
              refine ⟨hknown, first, rest, hns, huser, turns_of_checkMessages rest
                (fun m hm => hturn m (List.mem_cons_of_mem _ hm)) (some first) ?_ hrest⟩
              rintro p ⟨⟩
              exact not_isCall_of_role (by simp [huser])
            · intro h
              rcases h.turns with ⟨first', rest', heq, -, hturns⟩
              rw [hns] at heq
              rcases List.cons.inj heq with ⟨rfl, rfl⟩
              exact (Turns.user huser hturns).checkMessages none

end SearchR1.BuildSftData
