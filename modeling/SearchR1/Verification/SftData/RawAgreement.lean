import SearchR1.Verification.SftData.Conservation
import SearchR1.Verification.SftData.Reading

/-! # Records of messages among records of any shape

On the records that `readExample` reads, the checks on JSON values are the checks on messages. -/

namespace SearchR1.BuildSftData

open PyText PyJson PyLoop

variable {F : Type} {py : Python F}

namespace Raw

/-! ## One message -/

/-- A JSON value and the message that it is. -/
def Reads (py : Python F) (turn : Json F) (message : Message) : Prop :=
  readMessage py turn = some message

theorem Reads.exists_obj {turn : Json F} {message : Message} (h : Reads py turn message) :
    ∃ ms, turn = .obj ms ∧ readRole py (Dict.get? ms (lit "role")) = some message.role ∧
      readText [] (Dict.get? ms (lit "content")) = some message.content := by
  cases turn with
  | obj ms => exact ⟨ms, rfl, readMessage_some_iff.mp h⟩
  | _ => cases h

theorem isText_of_readRole {v : Option (Json F)} {role known : Role}
    (h : readRole py v = some role) (hknown : isKnownRole known) :
    isText (roleText known) (v.getD .null) = decide (role = known) := by
  have htext : isText (roleText known) (v.getD .null) ↔ v = some (.str (roleText known)) := by
    cases v with
    | none => simp [isText]
    | some w => cases w <;> simp [isText]
  rw [Bool.eq_iff_iff, htext, eq_some_roleText_iff h hknown, decide_eq_true_iff]

theorem Reads.role {turn : Json F} {message : Message} (h : Reads py turn message) :
    ∃ role, get turn "role" .null = .ok role ∧
      ∀ known, isKnownRole known →
        isText (roleText known) role = decide (message.role = known) := by
  obtain ⟨ms, rfl, hrole, -⟩ := h.exists_obj
  exact ⟨_, rfl, fun known => isText_of_readRole hrole⟩

theorem Reads.hasRole {turn : Json F} {message : Message} (h : Reads py turn message)
    (known : Role) {name : String} (hname : lit name = roleText known)
    (hknown : isKnownRole known) :
    Raw.hasRole name turn = .ok (decide (message.role = known)) := by
  obtain ⟨role, hget, hrole⟩ := h.role
  rw [← hrole known hknown, ← hname, Raw.hasRole, hget]
  rfl

theorem Reads.content {turn : Json F} {message : Message} (h : Reads py turn message) :
    Raw.content turn = .ok (.str message.content) := by
  obtain ⟨ms, rfl, -, htext⟩ := h.exists_obj
  exact congrArg Except.ok (getD_of_readText htext)

theorem Reads.unknownRole {turn : Json F} {message : Message} (h : Reads py turn message) :
    Raw.unknownRole py turn =
      .ok (if isKnownRole message.role then none else some (roleText message.role)) := by
  obtain ⟨ms, rfl, hrole, -⟩ := h.exists_obj
  simp only [Raw.unknownRole, hrole]

/-! ## Tool calls -/

/-- The reason of a rejection. -/
def rejection : Except Text Unit → Option Text
  | .ok () => none
  | .error reason => some reason

theorem assistantContents_cons (message : Message) (messages : List Message) :
    assistantContents (message :: messages) =
      if message.role = .assistant then message.content :: assistantContents messages
      else assistantContents messages := by
  unfold assistantContents
  rw [List.filter_cons]
  by_cases h : message.role = .assistant
  · simp [h]
  · simp [h]

/-- What a round reads of a message before it works on it or passes over it. -/
theorem Reads.assistant_cases {turn : Json F} {message : Message} (h : Reads py turn message) :
    (message.role = .assistant ∧ Raw.hasRole "assistant" turn = .ok true ∧
      Raw.content turn = .ok (.str message.content)) ∨
      (message.role ≠ .assistant ∧ Raw.hasRole "assistant" turn = .ok false) := by
  rw [h.hasRole .assistant rfl rfl, h.content]
  by_cases hrole : message.role = .assistant
  · exact .inl ⟨hrole, congrArg Except.ok (decide_eq_true hrole), rfl⟩
  · exact .inr ⟨hrole, congrArg Except.ok (decide_eq_false hrole)⟩

theorem Reads.validateTurn {turn : Json F} {message : Message} (h : Reads py turn message) :
    Raw.validateTurn py turn =
      if message.role = .assistant then
        match BuildSftData.parseToolCalls py message.content with
        | .ok calls => .ok calls.length
        | .error reason => .error (.valueError reason)
      else .ok 0 := by
  rcases h.assistant_cases with ⟨hrole, hhas, hcontent⟩ | ⟨hrole, hhas⟩
  · rw [if_pos hrole, Raw.validateTurn, hhas, hcontent]
    simp only [bind, Except.bind, ite_true, Raw.parseToolCalls, asText]
    cases BuildSftData.parseToolCalls py message.content with
    | ok calls => rfl
    | error reason => rfl
  · rw [if_neg hrole, Raw.validateTurn, hhas]
    rfl

/-- The sum of the results of a loop, from its first round. -/
theorem map_sum_mapM_cons {α ε : Type} {f : α → Except ε ℕ} (x : α) (xs : List α) :
    ((x :: xs).mapM f).map List.sum =
      (f x).bind fun n => ((xs.mapM f).map List.sum).map (n + ·) := by
  rw [List.mapM_cons]
  cases f x with
  | error e => rfl
  | ok n =>
      cases xs.mapM f with
      | error e => rfl
      | ok ns => rfl

/-- The loop of `validate_tool_calls` is the loop over the assistant messages. -/
theorem mapM_validateTurn {turns : List (Json F)} {messages : List Message}
    (h : List.Forall₂ (Reads py) turns messages) :
    (turns.mapM (Raw.validateTurn py)).map List.sum =
      match (assistantContents messages).mapM (BuildSftData.parseToolCalls py) with
      | .ok calls => .ok (calls.map List.length).sum
      | .error reason => .error (.valueError reason) := by
  induction h with
  | nil => rfl
  | @cons turn message turns messages hturn _ ih =>
      rw [map_sum_mapM_cons, ih, hturn.validateTurn, assistantContents_cons]
      by_cases hrole : message.role = .assistant
      · rw [if_pos hrole, if_pos hrole, List.mapM_cons]
        cases BuildSftData.parseToolCalls py message.content with
        | error reason => rfl
        | ok calls =>
            cases (assistantContents messages).mapM (BuildSftData.parseToolCalls py) with
            | error reason => rfl
            | ok rest => rfl
      · rw [if_neg hrole, if_neg hrole]
        cases (assistantContents messages).mapM (BuildSftData.parseToolCalls py) with
        | error reason => rfl
        | ok rest => exact congrArg Except.ok (Nat.zero_add _)

theorem validateToolCalls_reads {turns : List (Json F)} {messages : List Message}
    (h : List.Forall₂ (Reads py) turns messages) :
    Raw.validateToolCalls py turns =
      .ok (rejection (BuildSftData.validateToolCalls py messages)) := by
  have hloop := mapM_validateTurn h
  unfold Raw.validateToolCalls BuildSftData.validateToolCalls
  cases hcontents : (assistantContents messages).mapM (BuildSftData.parseToolCalls py) with
  | error reason =>
      rw [hcontents] at hloop
      cases hturns : turns.mapM (Raw.validateTurn py) with
      | ok counts =>
          rw [hturns] at hloop
          cases hloop
      | error raised =>
          rw [hturns] at hloop
          obtain rfl := Except.error.inj hloop
          rfl
  | ok calls =>
      rw [hcontents] at hloop
      cases hturns : turns.mapM (Raw.validateTurn py) with
      | error raised =>
          rw [hturns] at hloop
          cases hloop
      | ok counts =>
          rw [hturns] at hloop
          have hsum : counts.sum = (calls.map List.length).sum := Except.ok.inj hloop
          simp only [hsum, bind, Except.bind]
          split
          · rfl
          · rfl

theorem Reads.countTurn {turn : Json F} {message : Message} (h : Reads py turn message) :
    Raw.countTurn py turn = .ok (if message.role = .assistant then
      match BuildSftData.parseToolCalls py message.content with
      | .ok calls => calls.length
      | .error _ => (toolCallPattern message.content).length else 0) := by
  rcases h.assistant_cases with ⟨hrole, hhas, hcontent⟩ | ⟨hrole, hhas⟩
  · rw [if_pos hrole, Raw.countTurn, hhas, hcontent]
    simp only [bind, Except.bind, ite_true, Raw.parseToolCalls, asText]
    cases BuildSftData.parseToolCalls py message.content with
    | ok calls => rfl
    | error reason => rfl
  · rw [if_neg hrole, Raw.countTurn, hhas]
    rfl

/-- A sum over the messages of which only those of the assistant count. -/
theorem sum_map_assistant (f : Text → ℕ) (messages : List Message) :
    (messages.map fun m => if m.role = .assistant then f m.content else 0).sum =
      ((assistantContents messages).map f).sum := by
  induction messages with
  | nil => rfl
  | cons message messages ih =>
      rw [List.map_cons, List.sum_cons, ih, assistantContents_cons]
      split
      · rw [List.map_cons, List.sum_cons]
      · rw [Nat.zero_add]

theorem countToolCalls_reads {turns : List (Json F)} {messages : List Message}
    (h : List.Forall₂ (Reads py) turns messages) :
    Raw.countToolCalls py turns = .ok (BuildSftData.countToolCalls py messages) := by
  unfold Raw.countToolCalls BuildSftData.countToolCalls
  rw [mapM_of_forall₂ (h.imp fun _ _ hturn => hturn.countTurn), ← sum_map_assistant]
  rfl

/-! ## Answers and tool responses -/

/-- The last answer of a content that has any. -/
def lastAnswer (content : Text) : Option Text := (answerPattern content).getLast?.map strip

theorem Reads.turnAnswer {turn : Json F} {message : Message} (h : Reads py turn message) :
    Raw.turnAnswer turn =
      .ok (if message.role = .assistant then lastAnswer message.content else none) := by
  rcases h.assistant_cases with ⟨hrole, hhas, hcontent⟩ | ⟨hrole, hhas⟩
  · rw [if_pos hrole, Raw.turnAnswer, hhas, hcontent]
    rfl
  · rw [if_neg hrole, Raw.turnAnswer, hhas]
    rfl

theorem findSome_assistant {α : Type} (f : Text → Option α) (messages : List Message) :
    messages.findSome? (fun m => if m.role = .assistant then f m.content else none) =
      (assistantContents messages).findSome? f := by
  induction messages with
  | nil => rfl
  | cons message messages ih =>
      rw [List.findSome?_cons, ih, assistantContents_cons]
      by_cases hrole : message.role = .assistant
      · rw [if_pos hrole, if_pos hrole, List.findSome?_cons]
      · rw [if_neg hrole, if_neg hrole]

theorem assistantContents_reverse (messages : List Message) :
    assistantContents messages.reverse = (assistantContents messages).reverse := by
  simp [assistantContents, List.filter_reverse]

/-- Both loops over the answers stop at the same message. -/
theorem firstSome_turnAnswer {turns : List (Json F)} {messages : List Message}
    (h : List.Forall₂ (Reads py) turns messages) :
    firstSome Raw.turnAnswer turns.reverse =
      .ok ((assistantContents messages).reverse.findSome? lastAnswer) := by
  rw [← assistantContents_reverse, ← findSome_assistant]
  apply firstSome_of_forall₂
  exact (List.forall₂_reverse_iff.mpr h).imp fun _ _ hturn => hturn.turnAnswer

theorem lastAnswer_eq (content : Text) : lastAnswer content =
    if (answerPattern content).isEmpty then none
    else some (strip ((answerPattern content).getLast?.getD [])) := by
  unfold lastAnswer
  cases hanswers : answerPattern content with
  | nil => rfl
  | cons answer answers =>
      rw [List.getLast?_cons, List.isEmpty_cons]
      rfl

theorem findSome_of_find {α β : Type} (p : α → Bool) (f : α → β) (xs : List α) :
    (xs.findSome? fun x => if p x then none else some (f x)) = (xs.find? fun x => !p x).map f := by
  induction xs with
  | nil => rfl
  | cons x xs ih =>
      rw [List.findSome?_cons, List.find?_cons, ih]
      cases p x with
      | true => rfl
      | false => rfl

theorem findSome_lastAnswer (contents : List Text) :
    contents.findSome? lastAnswer =
      (contents.find? fun c => !(answerPattern c).isEmpty).map
        fun c => strip ((answerPattern c).getLast?.getD []) := by
  rw [← findSome_of_find]
  exact congrArg (contents.findSome? ·) (funext lastAnswer_eq)

theorem hasFinalAnswer_reads {turns : List (Json F)} {messages : List Message}
    (h : List.Forall₂ (Reads py) turns messages) :
    Raw.hasFinalAnswer turns = .ok (BuildSftData.hasFinalAnswer messages) := by
  unfold Raw.hasFinalAnswer BuildSftData.hasFinalAnswer
  rw [firstSome_turnAnswer h, findSome_lastAnswer, ← List.isSome_find?, ← Option.isSome_map]
  rfl

theorem extractFinalAnswer_reads {turns : List (Json F)} {messages : List Message}
    (h : List.Forall₂ (Reads py) turns messages) :
    Raw.extractFinalAnswer turns = .ok (BuildSftData.extractFinalAnswer messages) := by
  unfold Raw.extractFinalAnswer BuildSftData.extractFinalAnswer
  rw [firstSome_turnAnswer h, findSome_lastAnswer]
  cases (assistantContents messages).reverse.find? fun c => !(answerPattern c).isEmpty with
  | none => rfl
  | some content => rfl

theorem findSome_isSome {α : Type} (p : α → Bool) (xs : List α) :
    (xs.findSome? fun x => if p x then some () else none).isSome = xs.any p := by
  induction xs with
  | nil => rfl
  | cons x xs ih =>
      rw [List.findSome?_cons, List.any_cons, ← ih]
      cases p x with
      | true => rfl
      | false => rfl

theorem emCheck_reads (prediction : Text) (answers : List Text) :
    Raw.emCheck py prediction (.arr (answers.map .str)) =
      .ok (SearchR1.emCheck py prediction answers) := by
  have hloop : firstSome (matchAnswer py prediction) (answers.map .str) =
      .ok (answers.findSome? fun answer =>
        if decide (normalizeAnswer py answer = normalizeAnswer py prediction) then some ()
        else none) := by
    apply firstSome_of_forall₂
    rw [List.forall₂_map_left_iff, List.forall₂_same]
    intro answer _
    simp [matchAnswer, asText, bind, Except.bind, pure, Except.pure]
  unfold Raw.emCheck SearchR1.emCheck
  simp only [iterate, bind, Except.bind]
  rw [hloop, ← findSome_isSome]
  rfl

theorem Reads.failedTurn {turn : Json F} {message : Message} (h : Reads py turn message) :
    Raw.failedTurn turn = .ok (if message.role = .tool && isFailedToolResponse message.content then
      some () else none) := by
  have hmarkers : searchFailureMarkers.anyM
      (fun marker => (.ok (contains marker message.content) : Except Raised Bool)) =
        .ok (searchFailureMarkers.any (contains · message.content)) :=
    anyM_of_forall fun _ => rfl
  unfold Raw.failedTurn
  rw [h.hasRole .tool rfl rfl, h.content]
  by_cases hrole : message.role = .tool
  · unfold isFailedToolResponse
    simp only [hrole, isIn, hmarkers, asText, bind, Except.bind, pure, Except.pure, decide_true,
      Bool.not_true, Bool.false_eq_true, ite_false, Bool.true_and]
    cases searchFailureMarkers.any (contains · message.content) with
    | true => rfl
    | false =>
        cases contains informationOpen message.content with
        | false => rfl
        | true =>
            cases contains informationClose message.content with
            | false => rfl
            | true =>
                cases (blocks informationOpen informationClose message.content).head? with
                | none => rfl
                | some inner => rfl
  · simp only [hrole, decide_false, Bool.false_and, Bool.false_eq_true, ite_false]
    rfl

theorem hasFailedToolResponse_reads {turns : List (Json F)} {messages : List Message}
    (h : List.Forall₂ (Reads py) turns messages) :
    Raw.hasFailedToolResponse turns = .ok (BuildSftData.hasFailedToolResponse messages) := by
  unfold Raw.hasFailedToolResponse BuildSftData.hasFailedToolResponse
  rw [firstSome_of_forall₂ (h.imp fun _ _ hturn => hturn.failedTurn), ← findSome_isSome]
  rfl

/-! ## Role sequence -/

theorem checkMessage_reads {previous next : Option (Json F)} {turn : Json F}
    {previousMessage nextMessage : Option Message} {message : Message}
    (hprevious : Option.Rel (Reads py) previous previousMessage) (h : Reads py turn message)
    (hnext : Option.Rel (Reads py) next nextMessage) :
    Raw.checkMessage previous turn next = .ok (rejection (do
      checkTool previousMessage message
      checkAssistant message nextMessage)) := by
  obtain ⟨role, hget, hrole⟩ := h.role
  have htool : isText (lit "tool") role = decide (message.role = .tool) := hrole .tool rfl
  have hassistant : isText (lit "assistant") role = decide (message.role = .assistant) :=
    hrole .assistant rfl
  unfold Raw.checkMessage checkTool checkAssistant
  rw [hget, h.content]
  simp only [bind, Except.bind, htool, hassistant, decide_eq_true_eq]
  by_cases hmessage : message.role = .tool
  · rw [if_pos hmessage, if_pos hmessage, if_neg (by simp [hmessage])]
    cases hprevious with
    | none => rfl
    | @some previous previousMessage hprevious =>
        simp only [hprevious.hasRole .assistant rfl rfl, hprevious.content, isIn]
        by_cases hrole : previousMessage.role = .assistant
        · cases hcontains : contains toolCallOpen previousMessage.content with
          | true => simp [hrole, rejection, pure, Except.pure]
          | false => simp [hrole, rejection, pure, Except.pure]
        · simp [hrole, rejection, pure, Except.pure]
  · rw [if_neg hmessage, if_neg hmessage]
    by_cases hassistant : message.role = .assistant
    · rw [if_pos hassistant]
      cases hcontains : contains toolCallOpen message.content with
      | false => simp [isIn, hcontains, rejection, pure, Except.pure]
      | true =>
          rw [if_pos (And.intro hassistant rfl)]
          simp only [isIn, hcontains, Bool.not_true, Bool.false_eq_true, ite_false]
          cases hnext with
          | none => rfl
          | @some next nextMessage hnext =>
              simp only [hnext.hasRole .tool rfl rfl]
              by_cases hrole : nextMessage.role = .tool
              · simp [hrole, rejection, pure, Except.pure]
              · simp [hrole, rejection, pure, Except.pure]
    · rw [if_neg hassistant, if_neg fun hand => hassistant hand.1]
      rfl

theorem checkMessages_reads {turns : List (Json F)} {messages : List Message}
    (h : List.Forall₂ (Reads py) turns messages) {previous : Option (Json F)}
    {previousMessage : Option Message}
    (hprevious : Option.Rel (Reads py) previous previousMessage) :
    Raw.checkMessages previous turns =
      .ok (rejection (BuildSftData.checkMessages previousMessage messages)) := by
  induction h generalizing previous previousMessage with
  | nil => rfl
  | @cons turn message turns messages hturn hturns ih =>
      have hnext : Option.Rel (Reads py) turns.head? messages.head? := by
        cases hturns with
        | nil => exact .none
        | cons hnext _ => exact .some hnext
      rw [Raw.checkMessages, BuildSftData.checkMessages,
        checkMessage_reads hprevious hturn hnext, ← bind_assoc]
      generalize (do
        checkTool previousMessage message
        checkAssistant message messages.head?) = checked
      cases checked with
      | error reason => rfl
      | ok _ => exact ih (.some hturn)

theorem nonSystem_reads {turns : List (Json F)} {messages : List Message}
    (h : List.Forall₂ (Reads py) turns messages) :
    ∃ kept, Raw.nonSystem turns = .ok kept ∧
      List.Forall₂ (Reads py) kept (BuildSftData.nonSystem messages) := by
  apply filterM_of_forall₂
  apply h.imp
  intro turn message hturn
  refine ⟨hturn, ?_⟩
  rw [hturn.hasRole .system rfl rfl]
  simp [bind, Except.bind, pure, Except.pure]

theorem validateRoleSequence_reads {turns : List (Json F)} {messages : List Message}
    (h : List.Forall₂ (Reads py) turns messages) :
    Raw.validateRoleSequence py turns =
      .ok (rejection (BuildSftData.validateRoleSequence messages)) := by
  unfold Raw.validateRoleSequence BuildSftData.validateRoleSequence
  rw [firstSome_of_forall₂ (h.imp fun _ _ hturn => hturn.unknownRole), findSome_of_find]
  cases messages.find? fun m => !isKnownRole m.role with
  | some m => rfl
  | none =>
      obtain ⟨kept, hkept, hforall⟩ := nonSystem_reads h
      simp only [Option.map_none, bind, Except.bind, hkept]
      generalize BuildSftData.nonSystem messages = keptMessages at hforall
      cases hforall with
      | nil => rfl
      | @cons first firstMessage rest restMessages hfirst hrest =>
          simp only [hfirst.hasRole .user rfl rfl]
          by_cases hrole : firstMessage.role = .user
          · simp only [hrole, decide_true, Bool.not_true, Bool.false_eq_true, ite_false]
            exact checkMessages_reads (.cons hfirst hrest) .none
          · simp [hrole, rejection, pure, Except.pure]

/-! ## Records -/

theorem assistantTurns_reads {turns : List (Json F)} {messages : List Message}
    (h : List.Forall₂ (Reads py) turns messages) :
    ∃ kept, turns.filterM (Raw.hasRole "assistant") = .ok kept ∧
      kept.length = (assistantContents messages).length := by
  obtain ⟨kept, hkept, hforall⟩ := filterM_of_forall₂
    (h.imp fun _ _ hturn => And.intro hturn (hturn.hasRole .assistant rfl rfl))
  refine ⟨kept, hkept, ?_⟩
  rw [assistantContents, List.length_map]
  exact hforall.length_eq

/-- The arguments of the two models agree: texts are the same keys when they are equal, and the
tokenizer gives the messages their length. -/
structure ArgsAgree (py : Python F) (args : Raw.Args F) (args' : BuildSftData.Args) : Prop where
  sameKey : ∀ a b : Text, args.sameKey (.str a) (.str b) = decide (a = b)
  tokenLength : ∀ turns messages, List.Forall₂ (Reads py) turns messages →
    Raw.checkTokenLength turns args.tokenizer args.maxLength =
      BuildSftData.checkTokenLength messages args'.tokenizer args'.maxLength
  maxTurns : args.maxTurns = args'.maxTurns
  maxToolCalls : args.maxToolCalls = args'.maxToolCalls

/-- A line of the output file and the record that it is. -/
def ReadsOutput (py : Python F) (line : Json F) (output : OutputRecord) : Prop :=
  ∃ turns, List.Forall₂ (Reads py) turns output.messages ∧
    line = Raw.outputRecord py (.str output.metadata.question) (.arr turns)
      (.arr (output.metadata.answers.map .str)) (.str output.metadata.dataSource)
      output.metadata.numToolCalls

/-- The counters of the datasets under the JSON texts of their names. -/
def keyed (d : Dict Text DatasetStats) : List (Json F × DatasetStats) :=
  d.map fun e => (.str e.1, e.2)

/-- The state of the loop over JSON values and that of the loop over records of messages. -/
structure Represents (py : Python F) (st : Raw.State F) (st' : BuildSftData.State) : Prop where
  stats : st.stats = st'.stats
  datasetStats : st.datasetStats = keyed st'.datasetStats
  output : List.Forall₂ (ReadsOutput py) st.output st'.output

section Datasets

variable {sameKey : Json F → Json F → Bool}
  (hsame : ∀ a b : Text, sameKey (.str a) (.str b) = decide (a = b))
include hsame

theorem any_keyed (d : Dict Text DatasetStats) (k : Text) :
    ((keyed d).any fun e => sameKey e.1 (.str k)) = (Dict.get? d k).isSome := by
  induction d with
  | nil => rfl
  | cons e d ih =>
      change (sameKey (.str e.1) (.str k) || (keyed d).any _) = _
      rw [hsame, ih, Dict.get?]
      by_cases he : e.1 = k
      · simp [he]
      · simp [he]

theorem initDataset_keyed (d : Dict Text DatasetStats) (k : Text) :
    initDataset sameKey (keyed d) (.str k) = keyed (Dict.setdefault d k {}) := by
  unfold initDataset Dict.setdefault
  rw [any_keyed hsame]
  cases hget : Dict.get? d k with
  | some stats => rfl
  | none =>
      rw [Dict.set_of_not_mem d k {} ((Dict.get?_eq_none_iff d k).mp hget)]
      simp [keyed]

theorem countDataset_keyed (f : DatasetStats → DatasetStats) {d : Dict Text DatasetStats}
    {k : Text} (h : (Dict.get? d k).isSome) :
    Raw.countDataset sameKey f (keyed d) (.str k) =
      .ok (keyed (BuildSftData.countDataset f d k)) := by
  induction d with
  | nil => cases h
  | cons e d ih =>
      change Raw.countDataset sameKey f ((.str e.1, e.2) :: keyed d) (.str k) = _
      rw [Raw.countDataset, hsame]
      unfold BuildSftData.countDataset
      rw [Dict.get?, Dict.set]
      by_cases he : e.1 = k
      · simp [he, keyed]
      · rw [Dict.get?, if_neg he] at h
        rw [if_neg he, if_neg he, ih h]
        simp [he, keyed, BuildSftData.countDataset, Except.map]

end Datasets

theorem countDataset_setdefault (f : DatasetStats → DatasetStats) (d : Dict Text DatasetStats)
    (k : Text) : BuildSftData.countDataset f (Dict.setdefault d k {}) k =
      BuildSftData.countDataset f d k := by
  unfold BuildSftData.countDataset Dict.setdefault
  cases hget : Dict.get? d k with
  | some stats => rw [Option.isSome_some, if_pos rfl, hget]
  | none =>
      rw [Option.isSome_none, if_neg Bool.false_ne_true, Dict.get?_set_self, Dict.set_set]
      rfl

/-- The state after the checks on a record. -/
def examined (py : Python F) (st : Raw.State F) (d : Dict Text DatasetStats)
    (turns : List (Json F)) (example_ : Example) : Except Discard ℕ → Raw.State F
  | .error reason => st.bump reason
  | .ok numToolCalls =>
      { stats := { st.stats with kept := st.stats.kept + 1 }
        datasetStats := keyed
          (BuildSftData.countDataset (fun d => { d with kept := d.kept + 1 }) d example_.dataSource)
        output := st.output ++ [Raw.outputRecord py (.str example_.question) (.arr turns)
          (.arr (example_.answer.map .str)) (.str example_.dataSource) numToolCalls] }

theorem examine_reads {args : Raw.Args F} {args' : BuildSftData.Args}
    (hargs : ArgsAgree py args args') {st : Raw.State F} {d : Dict Text DatasetStats}
    (hdatasets : st.datasetStats = keyed d) (example_ : Example)
    (hkey : (Dict.get? d example_.dataSource).isSome) {turns : List (Json F)}
    (h : List.Forall₂ (Reads py) turns example_.trajectory) :
    Raw.examine py args st (.str example_.question) (.arr turns)
      (.arr (example_.answer.map .str)) (.str example_.dataSource) =
        .ok (examined py st d turns example_ (BuildSftData.examine py args' example_)) := by
  obtain ⟨kept, hkept, hlength⟩ := assistantTurns_reads h
  unfold Raw.examine BuildSftData.examine
  simp only [iterate, bind, Except.bind, validateToolCalls_reads h, countToolCalls_reads h,
    hasFinalAnswer_reads h, extractFinalAnswer_reads h, emCheck_reads,
    hasFailedToolResponse_reads h, validateRoleSequence_reads h, hkept, hlength,
    hargs.tokenLength turns _ h, hargs.maxTurns, hargs.maxToolCalls, hdatasets,
    countDataset_keyed hargs.sameKey _ hkey]
  cases BuildSftData.validateToolCalls py example_.trajectory with
  | error reason => rfl
  | ok _ =>
      simp only [rejection]
      cases BuildSftData.hasFinalAnswer example_.trajectory with
      | false => rfl
      | true =>
          cases (BuildSftData.extractFinalAnswer example_.trajectory).isEmpty with
          | true => rfl
          | false =>
              cases SearchR1.emCheck py (BuildSftData.extractFinalAnswer example_.trajectory)
                  example_.answer with
              | false => rfl
              | true =>
                  cases BuildSftData.hasFailedToolResponse example_.trajectory with
                  | true => rfl
                  | false =>
                      cases BuildSftData.validateRoleSequence example_.trajectory with
                      | error reason => rfl
                      | ok _ =>
                          simp only [Bool.not_true, Bool.false_eq_true, Bool.or_false, ite_false]
                          by_cases hturns : (assistantContents example_.trajectory).length >
                              args'.maxTurns
                          · rw [if_pos hturns, if_pos hturns]
                            rfl
                          rw [if_neg hturns, if_neg hturns]
                          by_cases hcalls : BuildSftData.countToolCalls py example_.trajectory >
                              args'.maxToolCalls
                          · rw [if_pos hcalls, if_pos hcalls]
                            rfl
                          rw [if_neg hcalls, if_neg hcalls]
                          cases BuildSftData.checkTokenLength example_.trajectory args'.tokenizer
                              args'.maxLength with
                          | false => rfl
                          | true => rfl

/-- A text of a record with its default. -/
theorem get_of_readText {ms : Dict Text (Json F)} {key : String} {default text : Text}
    (h : readText default (Dict.get? ms (lit key)) = some text) :
    get (.obj ms) key (.str default) = .ok (.str text) :=
  congrArg Except.ok (getD_of_readText h)

theorem get_of_readTrajectory {ms : Dict Text (Json F)} {trajectory : List Message}
    (h : readTrajectory py (Dict.get? ms (lit "trajectory")) = some trajectory) :
    ∃ turns, get (.obj ms) "trajectory" (.arr []) = .ok (.arr turns) ∧
      List.Forall₂ (Reads py) turns trajectory := by
  unfold get
  simp only
  cases hget : Dict.get? ms (lit "trajectory") with
  | none =>
      rw [hget] at h
      obtain rfl := Option.some.inj h
      exact ⟨[], rfl, .nil⟩
  | some v =>
      rw [hget] at h
      cases v with
      | arr vs => exact ⟨vs, rfl, mapM_some_iff.mp h⟩
      | _ => cases h

theorem get_of_readAnswer {ms : Dict Text (Json F)} {answer : List Text}
    (h : readAnswer (Dict.get? ms (lit "answer")) = some answer) :
    ∃ v, get (.obj ms) "answer" (.arr []) = .ok v ∧ listAnswers v = .arr (answer.map .str) := by
  unfold get
  simp only
  cases hget : Dict.get? ms (lit "answer") with
  | none =>
      rw [hget] at h
      obtain rfl := Option.some.inj h
      exact ⟨_, rfl, rfl⟩
  | some v =>
      rw [hget] at h
      cases v with
      | str t =>
          obtain rfl := Option.some.inj h
          exact ⟨_, rfl, rfl⟩
      | arr vs =>
          refine ⟨_, rfl, congrArg Json.arr ?_⟩
          have hvs := mapM_some_iff.mp h
          rw [← List.forall₂_eq_eq_eq, List.forall₂_map_right_iff]
          apply hvs.imp
          intro v text hv
          cases v with
          | str t => exact congrArg Json.str (Option.some.inj hv)
          | _ => cases hv
      | _ => cases h

/-- The counters after a record has been counted in its dataset. -/
def countTotal (d : Dict Text DatasetStats) (dataSource : Text) : Dict Text DatasetStats :=
  BuildSftData.countDataset (fun d => { d with total := d.total + 1 }) d dataSource

/-- The state in which the checks on a record begin. -/
def State.begun (st : Raw.State F) (d : Dict Text DatasetStats) : Raw.State F :=
  { st with
    stats := { st.stats with total := st.stats.total + 1 }
    datasetStats := keyed d }

/-- What the checks make of the state stands for the result of the round on messages. -/
theorem represents_examined {st : Raw.State F} {st' : BuildSftData.State}
    (hst : Represents py st st') (args' : BuildSftData.Args) {example_ : Example}
    {turns : List (Json F)} (h : List.Forall₂ (Reads py) turns example_.trajectory) :
    Represents py
      (examined py (st.begun (countTotal st'.datasetStats example_.dataSource))
        (countTotal st'.datasetStats example_.dataSource) turns example_
        (BuildSftData.examine py args' example_))
      (BuildSftData.processExample py args' st' example_) := by
  unfold BuildSftData.processExample
  cases BuildSftData.examine py args' example_ with
  | error reason =>
      refine ⟨?_, rfl, hst.output⟩
      simp only [examined, State.bump, State.begun, hst.stats]
  | ok numToolCalls =>
      refine ⟨?_, rfl, ?_⟩
      · simp only [examined, State.begun, hst.stats]
      · exact List.rel_append hst.output (.cons ⟨turns, h, rfl⟩ .nil)

/-- On a record that is one of messages the round gives the state that stands for the result of
the round on messages. -/
theorem processExample_reads {args : Raw.Args F} {args' : BuildSftData.Args}
    (hargs : ArgsAgree py args args') {st : Raw.State F} {st' : BuildSftData.State}
    (hst : Represents py st st') {value : Json F} {example_ : Example}
    (h : readExample py value = some example_) :
    ∃ next, Raw.processExample py args st value = .ok next ∧
      Represents py next (BuildSftData.processExample py args' st' example_) := by
  cases value with
  | obj ms =>
      obtain ⟨question, hquestion, h⟩ := Option.bind_eq_some_iff.mp h
      obtain ⟨trajectory, htrajectory, h⟩ := Option.bind_eq_some_iff.mp h
      obtain ⟨answer, hanswer, h⟩ := Option.bind_eq_some_iff.mp h
      obtain ⟨dataSource, hsource, h⟩ := Option.bind_eq_some_iff.mp h
      obtain rfl := Option.some.inj h
      obtain ⟨turns, hturns, hreads⟩ := get_of_readTrajectory htrajectory
      obtain ⟨answers, hanswers, hlist⟩ := get_of_readAnswer hanswer
      have hentry : (Dict.get? (Dict.setdefault st'.datasetStats dataSource {})
          dataSource).isSome := by
        rw [Dict.get?_setdefault, if_pos rfl]
        rfl
      have hkey : (Dict.get? (countTotal st'.datasetStats dataSource) dataSource).isSome := by
        rw [countTotal, BuildSftData.countDataset, Dict.get?_set_self]
        rfl
      have hbegun : (st.begun (countTotal st'.datasetStats dataSource)).datasetStats =
          keyed (countTotal st'.datasetStats dataSource) := rfl
      have hround := examine_reads hargs hbegun ⟨question, trajectory, answer, dataSource⟩ hkey
        hreads
      refine ⟨_, ?_, represents_examined hst args' hreads⟩
      rw [← hround]
      rw [Raw.processExample, get_of_readText hquestion, hturns, hanswers, get_of_readText hsource]
      change (do
        let datasetStats ← Raw.countDataset args.sameKey (fun d => { d with total := d.total + 1 })
          (initDataset args.sameKey st.datasetStats (.str dataSource)) (.str dataSource)
        Raw.examine py args
          { st with
            stats := { st.stats with total := st.stats.total + 1 }
            datasetStats := datasetStats }
          (.str question) (.arr turns) (listAnswers answers) (.str dataSource)) = _
      rw [hst.datasetStats, initDataset_keyed hargs.sameKey,
        countDataset_keyed hargs.sameKey _ hentry, countDataset_setdefault, hlist]
      rfl
  | _ => cases h

theorem foldlM_processExample {args : Raw.Args F} {args' : BuildSftData.Args}
    (hargs : ArgsAgree py args args') {values : List (Json F)} {examples : List Example}
    (h : List.Forall₂ (fun value example_ => readExample py value = some example_) values examples)
    {st : Raw.State F} {st' : BuildSftData.State} (hst : Represents py st st') :
    ∃ last, values.foldlM (Raw.processExample py args) st = .ok last ∧
      Represents py last (examples.foldl (BuildSftData.processExample py args') st') := by
  induction h generalizing st st' with
  | nil => exact ⟨st, rfl, hst⟩
  | @cons value example_ values examples hvalue _ ih =>
      obtain ⟨next, hnext, hst⟩ := processExample_reads hargs hst hvalue
      obtain ⟨last, hlast, hst⟩ := ih hst
      refine ⟨last, ?_, hst⟩
      rw [List.foldlM_cons, hnext]
      exact hlast

/-- The loop over the lines reads the records that are in them. -/
theorem foldlM_processLine {args : Raw.Args F} {lines : List Text} {values : List (Json F)}
    (h : readRecords py lines = some values) (st : Raw.State F) :
    lines.foldlM (Raw.processLine py args) st = values.foldlM (Raw.processExample py args) st := by
  induction lines generalizing values st with
  | nil =>
      obtain rfl := Option.some.inj h
      rfl
  | cons line lines ih =>
      unfold readRecords at h
      rw [List.map_cons, List.filter_cons] at h
      rw [List.foldlM_cons, Raw.processLine]
      by_cases hblank : (strip line).isEmpty
      · rw [if_neg (by simp [hblank])] at h
        rw [if_pos hblank]
        exact ih h st
      · rw [if_pos (by simp [hblank]), List.mapM_cons] at h
        obtain ⟨value, hvalue, h⟩ := Option.bind_eq_some_iff.mp h
        obtain ⟨rest, hrest, h⟩ := Option.bind_eq_some_iff.mp h
        obtain rfl := Option.some.inj h
        rw [if_neg hblank, hvalue, List.foldlM_cons]
        exact congrArg (Raw.processExample py args st value >>= ·)
          (funext fun next => ih hrest next)

/-- Where every line is a record of messages, the program on JSON values does what the program on
messages does. -/
theorem main_reads {args : Raw.Args F} {args' : BuildSftData.Args}
    (hargs : ArgsAgree py args args') {lines : List Text} {st' : BuildSftData.State}
    (h : BuildSftData.main py args' lines = some st') :
    ∃ st, Raw.main py args lines = .ok st ∧ Represents py st st' := by
  obtain ⟨examples, hexamples, rfl⟩ := Option.map_eq_some_iff.mp h
  obtain ⟨values, hvalues, hforall⟩ := exists_of_mapM_bind hexamples
  have hinit : Represents py ({} : Raw.State F) {} := ⟨rfl, rfl, .nil⟩
  obtain ⟨st, hst, hrepresents⟩ := foldlM_processExample hargs hforall hinit
  refine ⟨st, ?_, hrepresents⟩
  rw [Raw.main, foldlM_processLine hvalues]
  exact hst

end Raw

end SearchR1.BuildSftData
