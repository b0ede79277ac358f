import SearchR1.Library.JsonRoundTrip
import SearchR1.Verification.SftData.Conservation

/-! # The counters of rejected tool calls

The reason of a rejection is a text that quotes the call, and its counter is found again by
searching the text. -/

namespace SearchR1.BuildSftData

open PyText PyJson PyLoop

variable {F : Type} {py : Python F}

/-- `text.isascii()`. -/
def isAscii (text : Text) : Bool := text.all fun c => c.val < 128

/-- What the documentation says of lower case and of the texts of numbers. -/
structure MessageLaws (py : Python F) : Prop where
  lower : ∀ t, isAscii t → py.lower t = t.map asciiLower
  str_int : ∀ i, py.str (.int i) = intText i
  str_false : py.str (.bool false) = lit "False"

/-! ## The counter of a call -/

/-- The counter that a bad call should go to: the first thing that is wrong with it. -/
def callCounter (py : Python F) (body : Text) : Discard :=
  match loads py.json body with
  | some (.obj payload) =>
      if !isSearch ((Dict.get? payload (lit "name")).getD .null) then .invalidToolName
      else
        match Dict.get? payload (lit "arguments") with
        | some (.obj arguments) =>
            if !isNonBlankStr ((Dict.get? arguments (lit "query")).getD .null) then .emptyQuery
            else .invalidToolJson
        | _ => .invalidToolJson
  | _ => .invalidToolJson

/-- The call is an object with a wrong name that itself says JSON. -/
def nameSaysJson (py : Python F) (body : Text) : Bool :=
  match loads py.json body with
  | some (.obj payload) =>
      let name := (Dict.get? payload (lit "name")).getD .null
      !isSearch name && contains (lit "JSON") (py.text name)
  | _ => false

/-! ## The texts of the reasons -/

theorem toolDiscard_of_json {reason : Text} (hcall : reason ≠ lit "no_tool_call")
    (h : contains (lit "JSON") reason) : toolDiscard py reason = .invalidToolJson := by
  rw [toolDiscard, if_neg hcall, if_pos h]

theorem toolDiscard_of_name {reason : Text} (hcall : reason ≠ lit "no_tool_call")
    (hjson : ¬ contains (lit "JSON") reason) (h : contains (lit "name") reason) :
    toolDiscard py reason = .invalidToolName := by
  rw [toolDiscard, if_neg hcall, if_neg hjson, if_pos h]

theorem toolDiscard_of_other {reason : Text} (hcall : reason ≠ lit "no_tool_call")
    (hjson : ¬ contains (lit "JSON") reason) (hname : ¬ contains (lit "name") reason) :
    toolDiscard py reason =
      if contains (lit "query") (py.lower reason) then .emptyQuery else .invalidToolJson := by
  rw [toolDiscard, if_neg hcall, if_neg hjson, if_neg hname]

theorem toolDiscard_decodeError (error : Text) :
    toolDiscard py (lit "tool_call is not valid JSON: " ++ error) = .invalidToolJson := by
  apply toolDiscard_of_json
  · intro h
    have hhead : some (ch 't') = some (ch 'n') := congrArg List.head? h
    revert hhead
    decide
  · exact contains_append_left (by decide) error

theorem toolDiscard_wrongName (name : Text) :
    toolDiscard py (lit "Tool name must be 'search', got '" ++ name ++ lit "'.") =
      if contains (lit "JSON") name then .invalidToolJson else .invalidToolName := by
  have hcall : lit "Tool name must be 'search', got '" ++ name ++ lit "'." ≠
      lit "no_tool_call" := by
    intro h
    have hhead : some (ch 'T') = some (ch 'n') := congrArg List.head? h
    revert hhead
    decide
  have hjson : contains (lit "JSON") (lit "Tool name must be 'search', got '" ++ name ++ lit "'.") =
      contains (lit "JSON") name := by
    calc contains (lit "JSO" ++ [ch 'N'])
          (lit "Tool name must be 'search', got '" ++ name ++ lit "'.")
        = contains (ch 'J' :: lit "SON") (lit "Tool name must be 'search', got '" ++ name) :=
          contains_append_of_last_not_mem (by decide) _
      _ = contains (ch 'J' :: lit "SON") name :=
          contains_append_of_head_not_mem (by decide) name
  split
  · rename_i h
    exact toolDiscard_of_json hcall (hjson.trans h)
  · rename_i h
    apply toolDiscard_of_name hcall (by rwa [hjson])
    exact contains_append_left (contains_append_left (by decide) name) _

/-! ## The texts of numbers -/

/-- A text in which none of the searches finds anything. -/
def isPlain (reason : Text) : Bool :=
  reason != lit "no_tool_call" && isAscii reason && !contains (lit "JSON") reason &&
    !contains (lit "name") reason && !contains (lit "query") (reason.map asciiLower)

/-- A code point below the letters. -/
def isBelowLetters (c : CodePoint) : Bool := c.val < 65

theorem isBelowLetters_of_mem_natText {n : ℕ} {c : CodePoint} (h : c ∈ natText n) :
    isBelowLetters c := by
  have hdigit := isDigit_of_mem_natText h
  simp only [isDigit, Bool.and_eq_true, decide_eq_true_eq] at hdigit
  simp only [isBelowLetters, decide_eq_true_eq]
  omega

theorem isBelowLetters_of_mem_intText {i : ℤ} {c : CodePoint} (h : c ∈ intText i) :
    isBelowLetters c := by
  cases i with
  | ofNat n => exact isBelowLetters_of_mem_natText h
  | negSucc n =>
      rcases List.mem_cons.mp h with rfl | h
      · decide
      · exact isBelowLetters_of_mem_natText h

theorem asciiLower_of_isBelowLetters {c : CodePoint} (h : isBelowLetters c) : asciiLower c = c := by
  simp only [isBelowLetters, decide_eq_true_eq] at h
  exact if_neg (by omega)

/-- What follows a plain text and has no letters leaves it plain. -/
theorem isPlain_append {c : CodePoint} {reason tail : Text} (h : isPlain (c :: reason))
    (hc : c ≠ ch 'n') (htail : ∀ d ∈ tail, isBelowLetters d) : isPlain (c :: reason ++ tail) := by
  -- no search finds anything that ends in the tail, for the patterns end in a letter
  have hpattern : ∀ (pat : Text) (d : CodePoint) (s : Text), isBelowLetters d = false →
      contains (pat ++ [d]) (s ++ tail) = contains (pat ++ [d]) s := by
    intro pat d s hd
    apply contains_append_of_last_not_mem
    intro hmem
    rw [htail d hmem] at hd
    cases hd
  have hlower : tail.map asciiLower = tail :=
    (List.map_congr_left fun d hd => asciiLower_of_isBelowLetters (htail d hd)).trans
      (List.map_id tail)
  have hascii : isAscii tail := by
    apply List.all_eq_true.mpr
    intro d hd
    have hbelow := htail d hd
    simp only [isBelowLetters, decide_eq_true_eq] at hbelow ⊢
    omega
  have hjson : contains (lit "JSON") (c :: reason ++ tail) = contains (lit "JSON") (c :: reason) :=
    hpattern (lit "JSO") (ch 'N') _ (by decide)
  have hname : contains (lit "name") (c :: reason ++ tail) = contains (lit "name") (c :: reason) :=
    hpattern (lit "nam") (ch 'e') _ (by decide)
  have hquery : contains (lit "query") ((c :: reason).map asciiLower ++ tail) =
      contains (lit "query") ((c :: reason).map asciiLower) :=
    hpattern (lit "quer") (ch 'y') _ (by decide)
  have hcall : c :: reason ++ tail ≠ lit "no_tool_call" := by
    intro hcall
    exact hc (List.head_eq_of_cons_eq hcall)
  simp only [isPlain, Bool.and_eq_true, bne_iff_ne] at h ⊢
  obtain ⟨⟨⟨⟨-, hasciiReason⟩, hjsonReason⟩, hnameReason⟩, hqueryReason⟩ := h
  rw [hjson, hname, List.map_append, hlower, hquery]
  refine ⟨⟨⟨⟨hcall, ?_⟩, hjsonReason⟩, hnameReason⟩, hqueryReason⟩
  rw [isAscii, List.all_append, Bool.and_eq_true]
  exact ⟨hasciiReason, hascii⟩

theorem isPlain_topk (i : ℤ) :
    isPlain (lit "topk must be between 1 and 5, got " ++ intText i ++ lit ".") := by
  rw [List.append_assoc]
  have hprefix : isPlain (ch 't' :: lit "opk must be between 1 and 5, got ") := by decide
  apply isPlain_append hprefix (by decide)
  intro c hc
  rcases List.mem_append.mp hc with hc | hc
  · exact isBelowLetters_of_mem_intText hc
  · obtain rfl := List.mem_singleton.mp hc
    decide

/-! ## The other checks of a call -/

section Laws

variable (laws : MessageLaws py)
include laws

theorem MessageLaws.toolDiscard_query :
    toolDiscard py (lit "Search query must be a non-empty string.") = .emptyQuery := by
  rw [toolDiscard_of_other (by decide) (by decide) (by decide),
    laws.lower _ (by decide), if_pos (by decide)]

theorem MessageLaws.toolDiscard_of_isPlain {reason : Text} (h : isPlain reason) :
    toolDiscard py reason = .invalidToolJson := by
  simp only [isPlain, Bool.and_eq_true, bne_iff_ne, Bool.not_eq_true'] at h
  obtain ⟨⟨⟨⟨hcall, hascii⟩, hjson⟩, hname⟩, hquery⟩ := h
  rw [toolDiscard_of_other hcall (by simp [hjson]) (by simp [hname]), laws.lower _ hascii, hquery]
  rfl

theorem MessageLaws.toolDiscard_typeName (topk : Json F) :
    toolDiscard py (lit "topk must be an integer, got " ++ typeName topk ++ lit ".") =
      .invalidToolJson := by
  apply laws.toolDiscard_of_isPlain
  cases topk <;> simp only [typeName] <;> decide

theorem MessageLaws.toolDiscard_topk {topk : Json F} {n : ℤ} (h : asInt topk = some n)
    (hrange : ¬ (1 ≤ n ∧ n ≤ 5)) :
    toolDiscard py (lit "topk must be between 1 and 5, got " ++ py.text topk ++ lit ".") =
      .invalidToolJson := by
  apply laws.toolDiscard_of_isPlain
  cases topk with
  | bool b =>
      cases b with
      | false =>
          simpa only [Python.text, laws.str_false] using of_decide_eq_true (by decide)
      | true =>
          obtain rfl := Option.some.inj h
          exact absurd ⟨le_rfl, by decide⟩ hrange
  | int i => simpa only [Python.text, laws.str_int] using isPlain_topk i
  | null => cases h
  | float x => cases h
  | str t => cases h
  | arr vs => cases h
  | obj ms => cases h

omit laws in
theorem parseToolCall_of_ne_obj {body : Text} {v : Json F} (hload : loads py.json body = some v)
    (hv : ∀ payload, v ≠ .obj payload) :
    parseToolCall py body = .error (lit "Tool call payload must be a JSON object.") ∧
      nameSaysJson py body = false ∧ callCounter py body = .invalidToolJson := by
  cases v with
  | obj payload => exact absurd rfl (hv payload)
  | null => simp [parseToolCall, nameSaysJson, callCounter, hload]
  | bool b => simp [parseToolCall, nameSaysJson, callCounter, hload]
  | int i => simp [parseToolCall, nameSaysJson, callCounter, hload]
  | float x => simp [parseToolCall, nameSaysJson, callCounter, hload]
  | str t => simp [parseToolCall, nameSaysJson, callCounter, hload]
  | arr vs => simp [parseToolCall, nameSaysJson, callCounter, hload]

/-- What the counter is for an object, by what is wrong with it. -/
theorem MessageLaws.toolDiscard_payload {body reason : Text} {payload : Dict Text (Json F)}
    (hload : loads py.json body = some (.obj payload)) (h : parseToolCall py body = .error reason) :
    toolDiscard py reason =
      if nameSaysJson py body then .invalidToolJson else callCounter py body := by
  have harguments : toolDiscard py (lit "Tool arguments must be a JSON object.") =
      .invalidToolJson := toolDiscard_of_json (by decide) (by decide)
  simp only [parseToolCall, hload] at h
  simp only [nameSaysJson, callCounter, hload]
  generalize (Dict.get? payload (lit "name")).getD .null = name at h
  generalize Dict.get? payload (lit "arguments") = found at h
  cases hname : isSearch name with
  | false =>
      simp only [hname, Bool.not_false, ite_true] at h
      cases h
      rw [toolDiscard_wrongName, Bool.not_false, Bool.true_and, if_pos rfl]
  | true =>
      simp only [hname, Bool.not_true, Bool.false_eq_true, ite_false] at h
      simp only [Bool.not_true, Bool.false_and, Bool.false_eq_true, ite_false]
      cases found with
      | none =>
          cases h
          exact harguments
      | some value =>
          cases value with
          | obj arguments =>
              simp only at h
              split at h
              · rename_i hquery
                cases h
                exact laws.toolDiscard_query.trans (if_pos hquery).symm
              · rename_i hquery
                simp only [if_neg hquery]
                split at h
                · cases h
                  exact laws.toolDiscard_typeName _
                · rename_i n hn
                  split at h
                  · cases h
                  · rename_i hrange
                    cases h
                    exact laws.toolDiscard_topk hn hrange
          | _ =>
              cases h
              exact harguments

/-- The counter of a reason, by what is wrong with the call. -/
theorem MessageLaws.toolDiscard_parseToolCall {body reason : Text}
    (h : parseToolCall py body = .error reason) :
    toolDiscard py reason =
      if nameSaysJson py body then .invalidToolJson else callCounter py body := by
  cases hload : loads py.json body with
  | none =>
      simp only [parseToolCall, hload] at h
      cases h
      simp only [nameSaysJson, callCounter, hload]
      exact toolDiscard_decodeError _
  | some v =>
      by_cases hv : ∃ payload, v = .obj payload
      · obtain ⟨payload, rfl⟩ := hv
        exact laws.toolDiscard_payload hload h
      · rw [not_exists] at hv
        obtain ⟨hparse, hname, hcounter⟩ := parseToolCall_of_ne_obj hload hv
        rw [hparse] at h
        cases h
        rw [hname, hcounter]
        exact toolDiscard_of_json (by decide) (by decide)

end Laws

theorem callCounter_of_nameSaysJson {body : Text} (h : nameSaysJson py body) :
    callCounter py body = .invalidToolName := by
  unfold nameSaysJson at h
  split at h
  · rename_i payload hload
    simp only [Bool.and_eq_true] at h
    simp only [callCounter, hload, h.1, ite_true]
  · cases h

/-! ## The first bad call of a trajectory -/

def isBadCall (py : Python F) (body : Text) : Bool :=
  match parseToolCall py body with
  | .ok _ => false
  | .error _ => true

theorem find_isBadCall_of_ok {content : Text} {calls : List (Dict Text (Json F))}
    (h : parseToolCalls py content = .ok calls) :
    (callBodies content).length = calls.length ∧
      (callBodies content).find? (isBadCall py) = none := by
  have hcalls := (parseToolCalls_ok_iff py).mp h
  refine ⟨hcalls.length_eq, ?_⟩
  rw [List.find?_eq_none]
  intro body hbody
  obtain ⟨payload, -, hparse⟩ := exists_of_forall₂ hcalls.flip hbody
  simp [isBadCall, show parseToolCall py body = .ok payload from hparse]

theorem find_isBadCall_of_error {content reason : Text}
    (h : parseToolCalls py content = .error reason) :
    ∃ body, (callBodies content).find? (isBadCall py) = some body ∧
      parseToolCall py body = .error reason := by
  obtain ⟨before, body, after, hbodies, hbefore, hbody⟩ := exists_of_mapM_error h
  refine ⟨body, ?_, hbody⟩
  rw [List.find?_eq_some_iff_append]
  refine ⟨by simp [isBadCall, hbody], before, after, hbodies, ?_⟩
  intro good hgood
  obtain ⟨payload, hparse⟩ := hbefore good hgood
  simp [isBadCall, hparse]

namespace Raw

/-- The calls of a message, when it is an assistant message. -/
def turnCalls (turn : Json F) : List Text :=
  match hasRole "assistant" turn, content turn with
  | .ok true, .ok (.str t) => callBodies t
  | _, _ => []

/-- The calls of a trajectory in textual order. -/
def trajectoryCalls (turns : List (Json F)) : List Text := turns.flatMap turnCalls

/-- The counter that a rejected trajectory should go to: that of its first bad call. -/
def attributed (py : Python F) (turns : List (Json F)) : Discard :=
  if (trajectoryCalls turns).isEmpty then .noToolCall
  else
    match (trajectoryCalls turns).find? (isBadCall py) with
    | some body => callCounter py body
    | none => .invalidToolJson

/-- The first bad call is an object whose wrong name itself says JSON. -/
def NameSaysJson (py : Python F) (turns : List (Json F)) : Prop :=
  ∃ body, (trajectoryCalls turns).find? (isBadCall py) = some body ∧ nameSaysJson py body

theorem get_error {value default : Json F} {key : String} {raised : Raised}
    (h : get value key default = .error raised) : raised = .other := by
  cases value with
  | obj ms => cases h
  | _ => exact (Except.error.inj h).symm

/-- A message is none, has no calls, or is validated as its text is. -/
theorem validateTurn_cases (py : Python F) (turn : Json F) :
    validateTurn py turn = .error .other ∨
      (validateTurn py turn = .ok 0 ∧ turnCalls turn = []) ∨
      ∃ text, turnCalls turn = callBodies text ∧
        validateTurn py turn =
          match BuildSftData.parseToolCalls py text with
          | .ok calls => .ok calls.length
          | .error reason => .error (.valueError reason) := by
  cases hget : get turn "role" .null with
  | error raised =>
      obtain rfl := get_error hget
      exact .inl (by simp [validateTurn, hasRole, hget, bind, Except.bind])
  | ok role =>
      cases hrole : isText (lit "assistant") role with
      | false =>
          refine .inr (.inl ⟨?_, ?_⟩)
          · simp [validateTurn, hasRole, hget, hrole, bind, Except.bind, pure, Except.pure]
          · simp [turnCalls, hasRole, hget, hrole, bind, Except.bind, pure, Except.pure]
      | true =>
          have hassistant : hasRole "assistant" turn = .ok true := by
            simp [hasRole, hget, hrole, bind, Except.bind, pure, Except.pure]
          cases hcontent : content turn with
          | error raised =>
              obtain rfl := get_error hcontent
              exact .inl (by simp [validateTurn, hassistant, hcontent, bind, Except.bind])
          | ok value =>
              cases value with
              | str text =>
                  refine .inr (.inr ⟨text, by simp [turnCalls, hassistant, hcontent], ?_⟩)
                  simp only [validateTurn, hassistant, hcontent, parseToolCalls, asText, bind,
                    Except.bind, ite_true]
                  cases BuildSftData.parseToolCalls py text with
                  | error reason => rfl
                  | ok calls => rfl
              | _ => exact .inl (by simp [validateTurn, hassistant, hcontent, parseToolCalls,
                  asText, bind, Except.bind])

theorem turnCalls_of_ok {turn : Json F} {n : ℕ} (h : validateTurn py turn = .ok n) :
    (turnCalls turn).length = n ∧ (turnCalls turn).find? (isBadCall py) = none := by
  rcases validateTurn_cases py turn with hraised | ⟨hok, hnone⟩ | ⟨text, hcalls, htext⟩
  · rw [hraised] at h
    cases h
  · rw [hok] at h
    obtain rfl := Except.ok.inj h
    simp [hnone]
  · rw [htext] at h
    rw [hcalls]
    cases hparse : BuildSftData.parseToolCalls py text with
    | error reason =>
        rw [hparse] at h
        cases h
    | ok calls =>
        rw [hparse] at h
        obtain rfl := Except.ok.inj h
        exact find_isBadCall_of_ok hparse

theorem turnCalls_of_valueError {turn : Json F} {reason : Text}
    (h : validateTurn py turn = .error (.valueError reason)) :
    ∃ body, (turnCalls turn).find? (isBadCall py) = some body ∧
      parseToolCall py body = .error reason := by
  rcases validateTurn_cases py turn with hraised | ⟨hok, -⟩ | ⟨text, hcalls, htext⟩
  · rw [hraised] at h
    cases h
  · rw [hok] at h
    cases h
  · rw [htext] at h
    rw [hcalls]
    cases hparse : BuildSftData.parseToolCalls py text with
    | error reason' =>
        rw [hparse] at h
        cases h
        exact find_isBadCall_of_error hparse
    | ok calls =>
        rw [hparse] at h
        cases h

theorem find_isBadCall_of_all_ok {turns : List (Json F)}
    (h : ∀ turn ∈ turns, ∃ n, validateTurn py turn = .ok n) :
    (trajectoryCalls turns).find? (isBadCall py) = none := by
  rw [List.find?_eq_none]
  intro body hbody
  obtain ⟨turn, hturn, hmem⟩ := List.mem_flatMap.mp hbody
  obtain ⟨n, hn⟩ := h turn hturn
  exact List.find?_eq_none.mp (turnCalls_of_ok hn).2 body hmem

/-- A rejection without a call, or for the first bad one. -/
theorem rejected_cases {turns : List (Json F)} {reason : Text}
    (h : validateToolCalls py turns = .ok (some reason)) :
    (trajectoryCalls turns = [] ∧ reason = lit "no_tool_call") ∨
      ∃ body, (trajectoryCalls turns).find? (isBadCall py) = some body ∧
        parseToolCall py body = .error reason := by
  unfold validateToolCalls at h
  cases hturns : turns.mapM (validateTurn py) with
  | ok calls =>
      rw [hturns] at h
      have hreason := Except.ok.inj h
      split at hreason
      · rename_i hsum
        refine .inl ⟨?_, (Option.some.inj hreason).symm⟩
        have hcalls := mapM_ok_iff.mp hturns
        apply List.flatMap_eq_nil_iff.mpr
        intro turn hturn
        obtain ⟨n, hn, hvalidate⟩ := exists_of_forall₂ hcalls.flip hturn
        obtain rfl := List.sum_eq_zero_iff.mp hsum n hn
        exact List.length_eq_zero_iff.mp (turnCalls_of_ok hvalidate).1
      · cases hreason
  | error raised =>
      rw [hturns] at h
      cases raised with
      | other => cases h
      | valueError reason' =>
          obtain rfl := Option.some.inj (Except.ok.inj h)
          obtain ⟨before, turn, after, rfl, hbefore, hturn⟩ := exists_of_mapM_error hturns
          obtain ⟨body, hbody, hparse⟩ := turnCalls_of_valueError hturn
          refine .inr ⟨body, ?_, hparse⟩
          rw [trajectoryCalls, List.flatMap_append, List.find?_append,
            show (before.flatMap turnCalls).find? _ = none from find_isBadCall_of_all_ok hbefore,
            List.flatMap_cons, List.find?_append, hbody]
          rfl

/-- The reason leads to the right counter exactly when no wrong name says JSON. -/
theorem toolDiscard_eq_attributed_iff (laws : MessageLaws py) {turns : List (Json F)}
    {reason : Text} (h : validateToolCalls py turns = .ok (some reason)) :
    attributed py turns = toolDiscard py reason ↔ ¬ NameSaysJson py turns := by
  rcases rejected_cases h with ⟨hnone, rfl⟩ | ⟨body, hbody, hparse⟩
  · simp [attributed, NameSaysJson, hnone, toolDiscard]
  · have hne : trajectoryCalls turns ≠ [] := by
      intro hnil
      rw [hnil] at hbody
      cases hbody
    have hattributed : attributed py turns = callCounter py body := by
      simp only [attributed, hbody]
      exact if_neg (by simpa using hne)
    have hname : NameSaysJson py turns ↔ nameSaysJson py body := by
      simp [NameSaysJson, hbody]
    rw [hattributed, hname, laws.toolDiscard_parseToolCall hparse]
    split
    · rename_i hjson
      rw [callCounter_of_nameSaysJson hjson]
      simp [hjson]
    · rename_i hjson
      simp [hjson]

/-! ## The counter of a record -/

theorem increments_of_rejected {args : Args F} {st st' : State F} {example_ trajectory : Json F}
    {turns : List (Json F)} {reason : Text}
    (htrajectory : get example_ "trajectory" (.arr []) = .ok trajectory)
    (hturns : iterate trajectory = .ok turns)
    (hrejected : validateToolCalls py turns = .ok (some reason))
    (h : processExample py args st example_ = .ok st') :
    st.stats.Increments st'.stats (.discarded (toolDiscard py reason)) := by
  unfold processExample at h
  obtain ⟨question, -, h⟩ := bind_eq_ok_iff.mp h
  obtain ⟨trajectory', htrajectory', h⟩ := bind_eq_ok_iff.mp h
  obtain rfl := Except.ok.inj (htrajectory.symm.trans htrajectory')
  obtain ⟨goldenAnswers, -, h⟩ := bind_eq_ok_iff.mp h
  obtain ⟨dataSource, -, h⟩ := bind_eq_ok_iff.mp h
  obtain ⟨_, -, h⟩ := bind_eq_ok_iff.mp h
  obtain ⟨datasetStats, -, h⟩ := bind_eq_ok_iff.mp h
  unfold examine at h
  obtain ⟨turns', hturns', h⟩ := bind_eq_ok_iff.mp h
  obtain rfl := Except.ok.inj (hturns.symm.trans hturns')
  obtain ⟨tool, htool, h⟩ := bind_eq_ok_iff.mp h
  obtain rfl := Except.ok.inj (hrejected.symm.trans htool)
  obtain rfl := Except.ok.inj h
  exact increments_bump st datasetStats (toolDiscard py reason)

/-- The counter that `main` increments for a rejected trajectory is the one of its first bad call,
unless that is an object whose wrong name says JSON. -/
theorem processExample_attributes_iff (laws : MessageLaws py) {args : Args F} {st st' : State F}
    {example_ trajectory : Json F} {turns : List (Json F)} {reason : Text}
    (htrajectory : get example_ "trajectory" (.arr []) = .ok trajectory)
    (hturns : iterate trajectory = .ok turns)
    (hrejected : validateToolCalls py turns = .ok (some reason))
    (h : processExample py args st example_ = .ok st') :
    st.stats.Increments st'.stats (.discarded (attributed py turns)) ↔ ¬ NameSaysJson py turns := by
  have hincrements := increments_of_rejected htrajectory hturns hrejected h
  rw [← toolDiscard_eq_attributed_iff laws hrejected]
  constructor
  · intro hattributed
    exact Counter.discarded.inj (hattributed.unique hincrements)
  · intro hreason
    rw [hreason]
    exact hincrements

/-! ## Calls with a wrong name -/

theorem messageLaws_asciiPython : MessageLaws asciiPython where
  lower _ _ := rfl
  str_int _ := rfl
  str_false := rfl

/-- A message with one call. -/
def namedTurn (name : String) : Json LiteralFloat :=
  .obj [(lit "role", .str (lit "assistant")),
    (lit "content", .str (lit "<tool_call>\x7b\"name\": \"" ++ lit name ++
      lit "\", \"arguments\": \x7b\"query\": \"x\"\x7d\x7d</tool_call>"))]

def namedRecord (name : String) : Json LiteralFloat :=
  .obj [(lit "trajectory", .arr [namedTurn name])]

theorem toOption_processExample (name : String) (st' : State LiteralFloat)
    (h : (processExample asciiPython { sameKey := sameText } {} (namedRecord name)).toOption =
      some st') :
    processExample asciiPython { sameKey := sameText } {} (namedRecord name) = .ok st' := by
  cases hround : processExample asciiPython { sameKey := sameText } {} (namedRecord name) with
  | error raised =>
      rw [hround] at h
      cases h
  | ok st =>
      rw [hround] at h
      rw [Option.some.inj h]

/-- A wrong name without JSON: the rejection, its calls, and the counter. -/
theorem checks_lookup :
    validateToolCalls asciiPython [namedTurn "lookup"] =
        .ok (some (lit "Tool name must be 'search', got 'lookup'.")) ∧
      ((trajectoryCalls [namedTurn "lookup"]).find? (isBadCall asciiPython)).all
        (fun body => !nameSaysJson asciiPython body) ∧
      ((processExample asciiPython { sameKey := sameText } {} (namedRecord "lookup")).toOption.map
        fun st => st.stats.discarded .invalidToolName) = some 1 := by
  decide +kernel

theorem not_nameSaysJson_lookup : ¬ NameSaysJson asciiPython [namedTurn "lookup"] := by
  rintro ⟨body, hbody, hjson⟩
  have hfound := checks_lookup.2.1
  rw [hbody, Option.all_some, hjson] at hfound
  cases hfound

theorem processExample_attributes_lookup : ∃ st' : State LiteralFloat,
    processExample asciiPython { sameKey := sameText } {} (namedRecord "lookup") = .ok st' ∧
      Stats.Increments {} st'.stats
        (.discarded (attributed asciiPython [namedTurn "lookup"])) := by
  obtain ⟨hrejected, -, hdiscarded⟩ := checks_lookup
  obtain ⟨st', hst', -⟩ := Option.map_eq_some_iff.mp hdiscarded
  have hround := toOption_processExample "lookup" st' hst'
  exact ⟨st', hround, (processExample_attributes_iff messageLaws_asciiPython rfl rfl
    hrejected hround).mpr not_nameSaysJson_lookup⟩

/-- A wrong name with JSON in it: the rejection, the counters, and the counter it should go to. -/
theorem checks_jsonSearch :
    validateToolCalls asciiPython [namedTurn "JSONSearch"] =
        .ok (some (lit "Tool name must be 'search', got 'JSONSearch'.")) ∧
      ((processExample asciiPython { sameKey := sameText } {}
        (namedRecord "JSONSearch")).toOption.map fun st =>
          (st.stats.discarded .invalidToolName, st.stats.discarded .invalidToolJson)) =
        some (0, 1) ∧
      attributed asciiPython [namedTurn "JSONSearch"] = .invalidToolName := by
  decide +kernel

/-- A tool named JSONSearch is no invalid JSON, but is counted as such. -/
theorem not_attributes_jsonSearch :
    ¬ ∀ (args : Args LiteralFloat) (st st' : State LiteralFloat)
      (example_ trajectory : Json LiteralFloat) (turns : List (Json LiteralFloat)) (reason : Text),
      get example_ "trajectory" (.arr []) = .ok trajectory → iterate trajectory = .ok turns →
      validateToolCalls asciiPython turns = .ok (some reason) →
      processExample asciiPython args st example_ = .ok st' →
      st.stats.Increments st'.stats (.discarded (attributed asciiPython turns)) := by
  intro hgeneral
  obtain ⟨hrejected, hdiscarded, hattributed⟩ := checks_jsonSearch
  obtain ⟨st', hst', hcounts⟩ := Option.map_eq_some_iff.mp hdiscarded
  have hround := toOption_processExample "JSONSearch" st' hst'
  have hincrements := hgeneral _ _ st' (namedRecord "JSONSearch") _ _ _ rfl rfl hrejected hround
  rw [hattributed] at hincrements
  have hone : st'.stats.discarded .invalidToolName = 1 :=
    hincrements.count (.discarded .invalidToolName)
  rw [(Prod.mk.inj hcounts).1] at hone
  cases hone

end Raw

end SearchR1.BuildSftData
