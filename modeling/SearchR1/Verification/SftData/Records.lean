import SearchR1.Verification.SftData.RoleSequence
import SearchR1.Verification.ToolCalls.Strict
import SearchR1.Model.AsciiRuntime
import Mathlib.Algebra.Order.BigOperators.Group.List
import Mathlib.Algebra.Order.Group.Nat

/-! # The records that are kept -/

namespace SearchR1.BuildSftData

open PyText PyJson PyLoop

variable {F : Type} (py : Python F)

/-! ## What a kept record has passed -/

/-- The eight checks, on a record with `n` tool calls. -/
structure Passes (args : Args) (e : Example) (n : ℕ) : Prop where
  toolCalls : validateToolCalls py e.trajectory = .ok ()
  count : countToolCalls py e.trajectory = n
  hasAnswer : hasFinalAnswer e.trajectory
  correct : emCheck py (extractFinalAnswer e.trajectory) e.answer
  responses : hasFailedToolResponse e.trajectory = false
  order : validateRoleSequence e.trajectory = .ok ()
  turns : (assistantContents e.trajectory).length ≤ args.maxTurns
  calls : (n : ℤ) ≤ args.maxToolCalls
  length : checkTokenLength e.trajectory args.tokenizer args.maxLength

theorem passes_of_examine {args : Args} {e : Example} {n : ℕ}
    (h : examine py args e = .ok n) : Passes py args e n := by
  unfold examine at h
  simp only at h
  split at h
  · cases h
  rename_i htool
  split at h
  · cases h
  rename_i hanswer
  split at h
  · cases h
  rename_i hcorrect
  split at h
  · cases h
  rename_i hfailed
  split at h
  · cases h
  rename_i horder
  split at h
  · cases h
  rename_i hturns
  split at h
  · cases h
  rename_i hcalls
  split at h
  · cases h
  rename_i hlength
  obtain rfl := Except.ok.inj h
  simp only [Bool.or_eq_true, not_or, Bool.not_eq_true', Bool.not_eq_false] at hcorrect
  exact {
    toolCalls := htool
    count := rfl
    hasAnswer := by simpa using hanswer
    correct := by simpa using hcorrect.2
    responses := by simpa using hfailed
    order := horder
    turns := not_lt.mp hturns
    calls := not_lt.mp hcalls
    length := by simpa using hlength }

/-- A record that some example produced. -/
def Produced (args : Args) (r : OutputRecord) : Prop :=
  ∃ e n, Passes py args e n ∧ r = outputRecord e n

theorem produced_processExample {args : Args} {st : State}
    (h : ∀ r ∈ st.output, Produced py args r) (e : Example) :
    ∀ r ∈ (processExample py args st e).output, Produced py args r := by
  intro r hr
  unfold processExample at hr
  simp only at hr
  split at hr
  · exact h r hr
  · rename_i n hn
    rcases List.mem_append.mp hr with hr | hr
    · exact h r hr
    · exact ⟨e, n, passes_of_examine py hn, List.mem_singleton.mp hr⟩

/-- Every record of the output passed all checks. -/
theorem produced_of_main {args : Args} {lines : List Text} {st : State}
    (h : main py args lines = some st) : ∀ r ∈ st.output, Produced py args r := by
  unfold main at h
  rcases Option.map_eq_some_iff.mp h with ⟨examples, -, rfl⟩
  refine List.foldlRecOn examples (processExample py args)
    (motive := fun st => ∀ r ∈ st.output, Produced py args r) ?_ ?_
  · intro r hr
    cases hr
  · intro st hst e _
    exact produced_processExample py hst e

/-! ## Tool calls of a kept record -/

theorem validateToolCalls_ok {trajectory : List Message}
    (h : validateToolCalls py trajectory = .ok ()) :
    ∃ calls, (assistantContents trajectory).mapM (parseToolCalls py) = .ok calls ∧
      (calls.map List.length).sum ≠ 0 := by
  unfold validateToolCalls at h
  cases hcalls : (assistantContents trajectory).mapM (parseToolCalls py) with
  | error e =>
      rw [hcalls] at h
      cases h
  | ok calls =>
      refine ⟨calls, rfl, ?_⟩
      intro hsum
      rw [hcalls] at h
      simp [hsum, bind, Except.bind] at h

/-- Every assistant message parses, and one of them holds a call. -/
theorem parseToolCalls_of_validate {trajectory : List Message}
    (h : validateToolCalls py trajectory = .ok ()) :
    (∀ content ∈ assistantContents trajectory, ∃ calls, parseToolCalls py content = .ok calls) ∧
      ∃ content ∈ assistantContents trajectory, ∃ calls,
        parseToolCalls py content = .ok calls ∧ calls ≠ [] := by
  rcases validateToolCalls_ok py h with ⟨calls, hcalls, hsum⟩
  constructor
  · rw [mapM_ok_iff] at hcalls
    clear hsum h
    generalize assistantContents trajectory = contents at hcalls
    induction hcalls with
    | nil => simp
    | cons hx _ ih => exact List.forall_mem_cons.mpr ⟨⟨_, hx⟩, ih⟩
  · rcases List.sum_pos_iff_exists_pos_nat.mp (Nat.pos_of_ne_zero hsum) with ⟨n, hn, hpos⟩
    rcases List.mem_map.mp hn with ⟨cs, hcs, rfl⟩
    have hne : cs ≠ [] := List.ne_nil_of_length_pos hpos
    rcases exists_of_mem_mapM hcalls hcs with ⟨content, hmem, hparse⟩
    exact ⟨content, hmem, cs, hparse, hne⟩

theorem length_of_parseToolCalls {content : Text} {calls : List (Dict Text (Json F))}
    (h : parseToolCalls py content = .ok calls) : calls.length = (callBodies content).length :=
  ((parseToolCalls_ok_iff py).mp h).length_eq.symm

theorem countToolCalls_of_validate {trajectory : List Message}
    (h : validateToolCalls py trajectory = .ok ()) :
    countToolCalls py trajectory =
      ((assistantContents trajectory).map fun c => (callBodies c).length).sum := by
  unfold countToolCalls
  congr 1
  apply List.map_congr_left
  intro content hcontent
  rcases (parseToolCalls_of_validate py h).1 content hcontent with ⟨calls, hcalls⟩
  simp only [hcalls, length_of_parseToolCalls py hcalls]

/-! ## The answer of a kept record -/

theorem exists_answer {trajectory : List Message} (h : hasFinalAnswer trajectory) :
    ∃ content, ((assistantContents trajectory).reverse.find?
      fun c => !(answerPattern c).isEmpty) = some content ∧
      answerPattern content ≠ [] ∧
      extractFinalAnswer trajectory = strip ((answerPattern content).getLast?.getD []) := by
  unfold hasFinalAnswer at h
  rcases List.any_eq_true.mp h with ⟨c, hc, hne⟩
  have hsome : ((assistantContents trajectory).reverse.find?
      fun c => !(answerPattern c).isEmpty).isSome := List.find?_isSome.mpr ⟨c, hc, hne⟩
  rcases Option.isSome_iff_exists.mp hsome with ⟨content, hfind⟩
  refine ⟨content, hfind, ?_, ?_⟩
  · simpa using List.find?_some hfind
  · simp [extractFinalAnswer, hfind]

/-! ## The shape of a kept record -/

/-- The conversation is in an accepted order, some assistant message holds a call, and the
last complete answer is correct. -/
structure KeptShape (r : OutputRecord) : Prop where
  ordered : WellOrdered r.messages
  call : ∃ content ∈ assistantContents r.messages, ∃ calls,
    parseToolCalls py content = .ok calls ∧ calls ≠ []
  answer : ∃ content, ((assistantContents r.messages).reverse.find?
      fun c => !(answerPattern c).isEmpty) = some content ∧
    answerPattern content ≠ [] ∧
    emCheck py (strip ((answerPattern content).getLast?.getD [])) r.metadata.answers

theorem keptShape_of_main {args : Args} {lines : List Text} {st : State}
    (h : main py args lines = some st) : ∀ r ∈ st.output, KeptShape py r := by
  intro r hr
  rcases produced_of_main py h r hr with ⟨e, n, hpass, rfl⟩
  rcases exists_answer hpass.hasAnswer with ⟨content, hfind, hne, hanswer⟩
  have hcorrect := hpass.correct
  rw [hanswer] at hcorrect
  exact {
    ordered := (validateRoleSequence_ok_iff _).mp hpass.order
    call := (parseToolCalls_of_validate py hpass.toolCalls).2
    answer := ⟨content, hfind, hne, hcorrect⟩ }

/-- A line of the input file. -/
def recordLine (trajectory : List (String × Text)) (answer : String) : Text :=
  dumps literalCodec (.obj
    [(lit "trajectory", .arr (trajectory.map fun m =>
        .obj [(lit "role", .str (lit m.1)), (lit "content", .str m.2)])),
      (lit "answer", .str (lit answer))])

/-- The answer stands beside the call, so the conversation ends in the tool message. -/
def answerBesideCall : Text :=
  recordLine
    [("user", lit "q"), ("assistant", searchCallText "x" ++ lit "<answer>y</answer>"),
      ("tool", lit "<information>d</information>")] "y"

theorem messages_answerBesideCall :
    ((main asciiPython {} [answerBesideCall]).map fun st => st.output.map OutputRecord.messages) =
      some [[⟨.user, lit "q"⟩, ⟨.assistant, searchCallText "x" ++ lit "<answer>y</answer>"⟩,
        ⟨.tool, lit "<information>d</information>"⟩]] := by
  decide +kernel

theorem keptShape_answerBesideCall : ∃ st r, main asciiPython {} [answerBesideCall] = some st ∧
    r ∈ st.output ∧ KeptShape asciiPython r := by
  rcases Option.map_eq_some_iff.mp messages_answerBesideCall with ⟨st, hst, hmap⟩
  rcases List.map_eq_singleton_iff.mp hmap with ⟨r, hr, -⟩
  have hmem : r ∈ st.output := by simp [hr]
  exact ⟨st, r, hst, hmem, keptShape_of_main asciiPython hst r hmem⟩

/-- User, then calls with their tool messages, then an answer without a call. -/
def IsAlternating (messages : List Message) : Prop :=
  ∃ (first : Message) (calls : List (Message × Message)) (last : Message),
    nonSystem messages = first :: calls.flatMap (fun p => [p.1, p.2]) ++ [last] ∧
    first.role = .user ∧ calls ≠ [] ∧ (∀ p ∈ calls, p.1.IsCall ∧ p.2.role = .tool) ∧
    last.role = .assistant ∧ answerPattern last.content ≠ [] ∧
    ¬ contains toolCallOpen last.content

theorem not_isAlternating_answerBesideCall : ¬ ∀ (args : Args) (lines : List Text) (st : State),
    main asciiPython args lines = some st → ∀ r ∈ st.output, IsAlternating r.messages := by
  intro hgeneral
  rcases Option.map_eq_some_iff.mp messages_answerBesideCall with ⟨st, hst, hmap⟩
  rcases List.map_eq_singleton_iff.mp hmap with ⟨r, hr, hmessages⟩
  rcases hgeneral _ _ st hst r (by simp [hr]) with ⟨first, calls, last, heq, -, -, -, hlast, -⟩
  have hend : (nonSystem r.messages).getLast? = some last := by
    rw [heq]
    exact List.getLast?_concat
  rw [hmessages] at hend
  have htool : some (Message.mk .tool (lit "<information>d</information>")) = some last := hend
  rw [← Option.some.inj htool] at hlast
  cases hlast

/-! ## Calls and responses of a kept record -/

theorem blocks_of_not_contains {o c s : Text} (h : ¬ contains o s) : blocks o c s = [] := by
  apply blocks_of_open_none
  simpa [contains] using h

theorem callBodies_of_not_contains {content : Text} (h : ¬ contains toolCallOpen content) :
    callBodies content = [] := by
  simp [callBodies_eq, blocks_of_not_contains h]

theorem occurrences_of_not_contains {content : Text} (h : ¬ contains toolCallOpen content) :
    occurrences toolCallOpen content = 0 := by
  have hopen : toolCallOpen ≠ [] := by decide
  by_contra hne
  exact h ((occurrences_pos_iff hopen content).mp (Nat.pos_of_ne_zero hne))

theorem length_callBodies_le (content : Text) :
    (callBodies content).length ≤ occurrences toolCallOpen content := by
  rw [callBodies_eq]
  calc _ ≤ ((blocks toolCallOpen toolCallClose content).map strip).length :=
        List.length_filter_le _ _
    _ = (blocks toolCallOpen toolCallClose content).length := List.length_map _
    _ ≤ occurrences toolCallOpen content := length_blocks_le_occurrences (by decide) content

/-- Turns hold as many tool messages as calls. -/
theorem Turns.countP_eq {messages : List Message} (h : Turns messages) :
    messages.countP (·.role = .tool) = messages.countP (·.IsCall) := by
  induction h with
  | nil => rfl
  | user h _ ih => simp [ih, h, Message.IsCall]
  | plain h ht _ ih => simp [ih, h, ht, Message.IsCall]
  | call h ht _ ih => simp [ih, h, h.1, ht, not_isCall_of_role]

theorem countP_nonSystem (messages : List Message) (p : Message → Bool)
    (hp : ∀ m, p m → m.role ≠ .system) : (nonSystem messages).countP p = messages.countP p := by
  rw [nonSystem, List.countP_filter]
  apply List.countP_congr
  intro m _
  have := hp m
  simp only [Bool.and_eq_true, decide_eq_true_eq, and_iff_left_iff_imp]
  exact this

theorem WellOrdered.countP_eq {messages : List Message} (h : WellOrdered messages) :
    messages.countP (·.role = .tool) = messages.countP (·.IsCall) := by
  rcases h.turns with ⟨first, rest, heq, huser, hturns⟩
  have hall := (Turns.user huser hturns).countP_eq
  rw [← heq] at hall
  rwa [countP_nonSystem messages, countP_nonSystem messages] at hall
  · intro m hm hs
    simp [hs, Message.IsCall] at hm
  · intro m hm hs
    simp [hs] at hm

/-- A count that is 1 on calls and 0 on messages without a tag adds up to the calls. -/
theorem sum_assistantContents (f : Text → ℕ) (messages : List Message)
    (hcall : ∀ m ∈ messages, m.IsCall → f m.content = 1)
    (hplain : ∀ c, ¬ contains toolCallOpen c → f c = 0) :
    ((assistantContents messages).map f).sum = messages.countP (·.IsCall) := by
  induction messages with
  | nil => rfl
  | cons m messages ih =>
      have ih := ih fun m hm => hcall m (List.mem_cons_of_mem _ hm)
      by_cases hrole : m.role = .assistant
      · have hcontents : assistantContents (m :: messages) =
            m.content :: assistantContents messages := by simp [assistantContents, hrole]
        rw [hcontents, List.map_cons, List.sum_cons, ih, List.countP_cons]
        by_cases ht : contains toolCallOpen m.content
        · have hm : m.IsCall := ⟨hrole, ht⟩
          simp [hm, hcall m (by simp) hm, Nat.add_comm]
        · simp [hplain _ ht, Message.IsCall, ht]
      · have hcontents : assistantContents (m :: messages) = assistantContents messages := by
          simp [assistantContents, hrole]
        rw [hcontents, ih, List.countP_cons]
        simp [not_isCall_of_role hrole]

/-- The number of calls of a record counts closed, nonblank and well-formed call blocks;
each assistant message with a tag, however many calls it holds, has one tool message. -/
structure CallAccounting (r : OutputRecord) : Prop where
  wellFormed : ∀ content ∈ assistantContents r.messages, ∀ body ∈ callBodies content,
    ∃ call : SearchCall F, loads py.json body = some (.obj call.payload)
  num_eq : r.metadata.numToolCalls =
    ((assistantContents r.messages).map fun c => (callBodies c).length).sum
  num_le : r.metadata.numToolCalls ≤
    ((assistantContents r.messages).map (occurrences toolCallOpen)).sum
  responses : r.messages.countP (·.role = .tool) = r.messages.countP (·.IsCall)
  single : (∀ m ∈ r.messages, m.IsCall →
      occurrences toolCallOpen m.content = 1 ∧ (callBodies m.content).length = 1) →
    r.metadata.numToolCalls =
        ((assistantContents r.messages).map (occurrences toolCallOpen)).sum ∧
      r.metadata.numToolCalls = r.messages.countP (·.role = .tool)

theorem searchCall_of_mem_callBodies {content : Text} {calls : List (Dict Text (Json F))}
    (h : parseToolCalls py content = .ok calls) {body : Text} (hbody : body ∈ callBodies content) :
    ∃ call : SearchCall F, loads py.json body = some (.obj call.payload) := by
  rw [parseToolCalls_ok_iff] at h
  generalize callBodies content = bodies at h hbody
  induction h with
  | nil => cases hbody
  | cons hx _ ih =>
      rcases List.mem_cons.mp hbody with rfl | hbody
      · rcases (parseToolCall_ok_iff py).mp hx with ⟨hload, call, rfl⟩
        exact ⟨call, hload⟩
      · exact ih hbody

theorem callAccounting_of_main {args : Args} {lines : List Text} {st : State}
    (h : main py args lines = some st) : ∀ r ∈ st.output, CallAccounting py r := by
  intro r hr
  rcases produced_of_main py h r hr with ⟨e, n, hpass, rfl⟩
  have hnum : n = ((assistantContents e.trajectory).map fun c => (callBodies c).length).sum :=
    hpass.count.symm.trans (countToolCalls_of_validate py hpass.toolCalls)
  have hresponses := ((validateRoleSequence_ok_iff _).mp hpass.order).countP_eq
  refine ⟨?_, hnum, ?_, hresponses, ?_⟩
  · intro content hcontent body hbody
    rcases (parseToolCalls_of_validate py hpass.toolCalls).1 content hcontent with ⟨calls, hcalls⟩
    exact searchCall_of_mem_callBodies py hcalls hbody
  · rw [show (outputRecord e n).metadata.numToolCalls = n from rfl, hnum]
    exact List.sum_le_sum fun c _ => length_callBodies_le c
  · intro hsingle
    have hbodies := sum_assistantContents (fun c => (callBodies c).length) e.trajectory
      (fun m hm hcall => (hsingle m hm hcall).2)
      (fun c hc => by rw [callBodies_of_not_contains hc, List.length_nil])
    have htags := sum_assistantContents (occurrences toolCallOpen) e.trajectory
      (fun m hm hcall => (hsingle m hm hcall).1) (fun c hc => occurrences_of_not_contains hc)
    exact ⟨(hnum.trans hbodies).trans htags.symm, (hnum.trans hbodies).trans hresponses.symm⟩

/-- Two calls in one assistant message, answered by one tool message. -/
def twoCallsOneResponse : Text :=
  recordLine
    [("user", lit "q"),
      ("assistant", searchCallText "x" ++ searchCallText "y" ++ lit "<answer>z</answer>"),
      ("tool", lit "<information>d</information>")] "z"

theorem counts_twoCallsOneResponse :
    ((main asciiPython {} [twoCallsOneResponse]).map fun st => st.output.map fun r =>
      (r.metadata.numToolCalls, r.messages.countP (·.role = .tool))) = some [(2, 1)] := by
  decide +kernel

theorem callAccounting_twoCallsOneResponse : ∃ st r,
    main asciiPython {} [twoCallsOneResponse] = some st ∧ r ∈ st.output ∧
      CallAccounting asciiPython r := by
  rcases Option.map_eq_some_iff.mp counts_twoCallsOneResponse with ⟨st, hst, hmap⟩
  rcases List.map_eq_singleton_iff.mp hmap with ⟨r, hr, -⟩
  have hmem : r ∈ st.output := by simp [hr]
  exact ⟨st, r, hst, hmem, callAccounting_of_main asciiPython hst r hmem⟩

theorem numToolCalls_twoCallsOneResponse : ¬ ∀ (args : Args) (lines : List Text) (st : State),
    main asciiPython args lines = some st → ∀ r ∈ st.output,
      r.metadata.numToolCalls = ((assistantContents r.messages).map (occurrences toolCallOpen)).sum ∧
        r.metadata.numToolCalls = r.messages.countP (·.role = .tool) := by
  intro hgeneral
  rcases Option.map_eq_some_iff.mp counts_twoCallsOneResponse with ⟨st, hst, hmap⟩
  rcases List.map_eq_singleton_iff.mp hmap with ⟨r, hr, hcounts⟩
  have h := (hgeneral _ _ st hst r (by simp [hr])).2
  rw [(Prod.mk.inj hcounts).1, (Prod.mk.inj hcounts).2] at h
  cases h

end SearchR1.BuildSftData
