import SearchR1.Library.Monadic
import SearchR1.Model.AsciiRuntime
import SearchR1.Model.GenerateTeacherTrajectories

/-! # The query of a message with calls of any shape -/

namespace SearchR1.GenerateTeacherTrajectories

open PyText PyJson PyLoop

variable {F : Type} (py : Python F)

/-- A JSON object with the name of the search tool. -/
def NamesSearch (body : Text) (payload : List (Text × Json F)) : Prop :=
  loads py.json (strip body) = some (.obj payload) ∧
    Dict.get? payload (lit "name") = some (.str (lit "search"))

/-- A call with an arguments object that has a query. -/
def SearchesFor (body query : Text) : Prop :=
  ∃ payload arguments, NamesSearch py body payload ∧
    Dict.get? payload (lit "arguments") = some (.obj arguments) ∧
    Dict.get? arguments (lit "query") = some (.str query) ∧ strip query ≠ []

/-- A call whose arguments are there and no object. -/
def MisshapenArguments (body : Text) : Prop :=
  ∃ payload arguments, NamesSearch py body payload ∧
    Dict.get? payload (lit "arguments") = some arguments ∧ ∀ members, arguments ≠ .obj members

/-- The query of the last block that has one, else the body of the last search block. -/
def Picks (text : Text) (result : Option Text) : Prop :=
  (∃ body after query, body :: after <:+ toolCallPattern text ∧ SearchesFor py body query ∧
      (∀ b ∈ after, ∀ q, ¬ SearchesFor py b q) ∧ result = some (strip query)) ∨
    (∀ b ∈ toolCallPattern text, ∀ q, ¬ SearchesFor py b q) ∧
      result = (searchPattern text).getLast?.map strip

/-! ## One block -/

/-- What the arguments of a search call contribute. -/
def argumentsQuery (arguments : Option (Json F)) : Except Unit (Option Text) :=
  match arguments.getD (.obj []) with
  | .obj args =>
      match (Dict.get? args (lit "query")).getD (.str []) with
      | .str query => .ok (if strip query = [] then none else some (strip query))
      | _ => .ok none
  | _ => .error ()

theorem argumentsQuery_some_iff {arguments : Option (Json F)} {query : Text} :
    argumentsQuery arguments = .ok (some query) ↔ ∃ args q, arguments = some (.obj args) ∧
      Dict.get? args (lit "query") = some (.str q) ∧ strip q ≠ [] ∧ strip q = query := by
  cases arguments with
  | none => simp [argumentsQuery, Dict.get?, strip, trim]
  | some v =>
      cases v with
      | obj args =>
          cases hget : Dict.get? args (lit "query") with
          | none => simp [argumentsQuery, hget, strip, trim]
          | some w =>
              cases w with
              | str q => by_cases hblank : strip q = [] <;> simp [argumentsQuery, hget, hblank]
              | _ => simp [argumentsQuery, hget]
      | _ => simp [argumentsQuery]

theorem argumentsQuery_error_iff {arguments : Option (Json F)} :
    argumentsQuery arguments = .error () ↔
      ∃ v, arguments = some v ∧ ∀ members, v ≠ .obj members := by
  cases arguments with
  | none => simp [argumentsQuery, Dict.get?]
  | some v =>
      cases v with
      | obj args =>
          cases hget : (Dict.get? args (lit "query")).getD (.str []) with
          | str q => simp [argumentsQuery, hget]
          | _ => simp [argumentsQuery, hget]
      | _ => simp [argumentsQuery]

variable {py} in
theorem callQuery_of_namesSearch {body : Text} {payload : List (Text × Json F)}
    (h : NamesSearch py body payload) :
    callQuery py body = argumentsQuery (Dict.get? payload (lit "arguments")) := by
  simp only [callQuery, h.1, h.2, ite_true]
  rfl

variable {py} in
theorem callQuery_of_not_namesSearch {body : Text}
    (h : ∀ payload, ¬ NamesSearch py body payload) : callQuery py body = .ok none := by
  unfold callQuery
  split
  · rename_i payload hload
    split
    · rename_i name hname
      refine if_neg ?_
      intro hsearch
      exact h payload ⟨hload, hsearch ▸ hname⟩
    · rfl
  · rfl

/-- A block that contributes something is a search call, and its arguments do. -/
theorem callQuery_eq_iff {body : Text} {r : Except Unit (Option Text)} (hr : r ≠ .ok none) :
    callQuery py body = r ↔ ∃ payload, NamesSearch py body payload ∧
      argumentsQuery (Dict.get? payload (lit "arguments")) = r := by
  constructor
  · intro h
    by_cases hnames : ∃ payload, NamesSearch py body payload
    · obtain ⟨payload, hpayload⟩ := hnames
      exact ⟨payload, hpayload, (callQuery_of_namesSearch hpayload).symm.trans h⟩
    · have hnone := callQuery_of_not_namesSearch (not_exists.mp hnames)
      exact absurd (h.symm.trans hnone) hr
  · intro h
    rcases h with ⟨payload, hpayload, h⟩
    exact (callQuery_of_namesSearch hpayload).trans h

theorem callQuery_some_iff {body query : Text} : callQuery py body = .ok (some query) ↔
    ∃ q, SearchesFor py body q ∧ strip q = query := by
  rw [callQuery_eq_iff py (by simp)]
  constructor
  · intro h
    rcases h with ⟨payload, hpayload, h⟩
    obtain ⟨args, q, hargs, hq, hne, heq⟩ := argumentsQuery_some_iff.mp h
    exact ⟨q, ⟨payload, args, hpayload, hargs, hq, hne⟩, heq⟩
  · intro h
    rcases h with ⟨q, ⟨payload, args, hpayload, hargs, hq, hne⟩, heq⟩
    exact ⟨payload, hpayload, argumentsQuery_some_iff.mpr ⟨args, q, hargs, hq, hne, heq⟩⟩

theorem callQuery_error_iff {body : Text} :
    callQuery py body = .error () ↔ MisshapenArguments py body := by
  rw [callQuery_eq_iff py (by simp)]
  constructor
  · intro h
    rcases h with ⟨payload, hpayload, h⟩
    obtain ⟨v, hv, hobj⟩ := argumentsQuery_error_iff.mp h
    exact ⟨payload, v, hpayload, hv, hobj⟩
  · intro h
    rcases h with ⟨payload, v, hpayload, hv, hobj⟩
    exact ⟨payload, hpayload, argumentsQuery_error_iff.mpr ⟨v, hv, hobj⟩⟩

/-- A block that neither raises nor has a query is skipped. -/
theorem callQuery_none_iff {body : Text} : callQuery py body = .ok none ↔
    (∀ q, ¬ SearchesFor py body q) ∧ ¬ MisshapenArguments py body := by
  rw [← callQuery_error_iff]
  have hsome : (∀ q, ¬ SearchesFor py body q) ↔ ∀ query, callQuery py body ≠ .ok (some query) := by
    constructor
    · intro h query hquery
      rcases (callQuery_some_iff py).mp hquery with ⟨q, hq, -⟩
      exact h q hq
    · intro h q hq
      exact h _ ((callQuery_some_iff py).mpr ⟨q, hq, rfl⟩)
  rw [hsome]
  cases callQuery py body with
  | error e => simp
  | ok query => cases query <;> simp

/-! ## The blocks of a text -/

theorem firstQuery_eq_firstSome (bodies : List Text) :
    firstQuery py bodies = firstSome (callQuery py) bodies := by
  induction bodies with
  | nil => rfl
  | cons body bodies ih =>
      rw [firstQuery, firstSome, ih]
      cases callQuery py body with
      | error e => rfl
      | ok query => cases query <;> rfl

theorem firstQuery_reverse_none_iff {bodies : List Text} :
    firstQuery py bodies.reverse = .ok none ↔
      ∀ b ∈ bodies, (∀ q, ¬ SearchesFor py b q) ∧ ¬ MisshapenArguments py b := by
  rw [firstQuery_eq_firstSome, firstSome_reverse_none_iff]
  simp only [callQuery_none_iff]

/-- The last block that has a query gives it, when no block behind it raises. -/
theorem firstQuery_reverse_some_iff {bodies : List Text} {query : Text} :
    firstQuery py bodies.reverse = .ok (some query) ↔
      ∃ body after, body :: after <:+ bodies ∧ (∃ q, SearchesFor py body q ∧ strip q = query) ∧
        ∀ b ∈ after, (∀ q, ¬ SearchesFor py b q) ∧ ¬ MisshapenArguments py b := by
  have hne : (.ok (some query) : Except Unit (Option Text)) ≠ .ok none := by simp
  rw [firstQuery_eq_firstSome, firstSome_reverse_iff hne]
  simp only [callQuery_none_iff, callQuery_some_iff]

theorem firstQuery_reverse_error_iff {bodies : List Text} :
    firstQuery py bodies.reverse = .error () ↔
      ∃ body after, body :: after <:+ bodies ∧ MisshapenArguments py body ∧
        ∀ b ∈ after, (∀ q, ¬ SearchesFor py b q) ∧ ¬ MisshapenArguments py b := by
  have hne : (.error () : Except Unit (Option Text)) ≠ .ok none := by simp
  rw [firstQuery_eq_firstSome, firstSome_reverse_iff hne]
  simp only [callQuery_none_iff, callQuery_error_iff]

/-- A block has a query or misshapen arguments, not both. -/
theorem SearchesFor.not_misshapen {body query : Text} (h : SearchesFor py body query) :
    ¬ MisshapenArguments py body := by
  rw [← callQuery_error_iff, (callQuery_some_iff py).mpr ⟨query, h, rfl⟩]
  simp

/-- Whatever is returned is the right query. -/
theorem picks_of_extractSearchQuery {text : Text} {result : Option Text}
    (h : extractSearchQuery py text = .ok result) : Picks py text result := by
  unfold extractSearchQuery at h
  split at h
  · cases h
  · rename_i query hquery
    cases h
    rcases (firstQuery_reverse_some_iff py).mp hquery with
      ⟨body, after, hsuffix, ⟨q, hq, rfl⟩, hafter⟩
    exact .inl ⟨body, after, q, hsuffix, hq, fun b hb => (hafter b hb).1, rfl⟩
  · rename_i hnone
    cases h
    exact .inr ⟨fun b hb => ((firstQuery_reverse_none_iff py).mp hnone b hb).1, rfl⟩

/-- The extraction raises at the last of the misshapen calls when no later block has a query. -/
theorem extractSearchQuery_error_iff {text : Text} : extractSearchQuery py text = .error () ↔
    ∃ body after, body :: after <:+ toolCallPattern text ∧ MisshapenArguments py body ∧
      ∀ b ∈ after, ∀ q, ¬ SearchesFor py b q := by
  have herror : extractSearchQuery py text = .error () ↔
      firstQuery py (toolCallPattern text).reverse = .error () := by
    unfold extractSearchQuery
    split
    · rename_i e he
      simp [he]
    · rename_i query hquery
      simp [hquery]
    · rename_i hnone
      simp [hnone]
  rw [herror]
  constructor
  · intro h
    rcases (firstQuery_reverse_error_iff py).mp h with ⟨body, after, hsuffix, hbody, hafter⟩
    exact ⟨body, after, hsuffix, hbody, fun b hb => (hafter b hb).1⟩
  · intro h
    rcases h with ⟨body, after, hsuffix, hbody, hafter⟩
    cases hfirst : firstQuery py (toolCallPattern text).reverse with
    | error e => rfl
    | ok result =>
        exfalso
        cases result with
        | none =>
            have hskip := (firstQuery_reverse_none_iff py).mp hfirst body
              (hsuffix.mem List.mem_cons_self)
            exact hskip.2 hbody
        | some query =>
            rcases (firstQuery_reverse_some_iff py).mp hfirst with
              ⟨body', after', hsuffix', ⟨q, hq, -⟩, hafter'⟩
            -- of two blocks of the text, one stands behind the other unless they are the same
            rcases List.suffix_or_suffix_of_suffix hsuffix hsuffix' with hle | hle
            · rcases List.suffix_cons_iff.mp hle with heq | hle
              · cases heq
                exact hq.not_misshapen py hbody
              · exact (hafter' body (hle.mem List.mem_cons_self)).2 hbody
            · rcases List.suffix_cons_iff.mp hle with heq | hle
              · cases heq
                exact hq.not_misshapen py hbody
              · exact hafter body' (hle.mem List.mem_cons_self) q hq

/-- The right query is returned exactly when every call whose arguments are no object stands
before a call that has a query. -/
theorem extractSearchQuery_picks_iff (text : Text) :
    (∃ result, extractSearchQuery py text = .ok result ∧ Picks py text result) ↔
      ∀ body after, body :: after <:+ toolCallPattern text → MisshapenArguments py body →
        ∃ b ∈ after, ∃ q, SearchesFor py b q := by
  have hraises : (∃ result, extractSearchQuery py text = .ok result ∧ Picks py text result) ↔
      extractSearchQuery py text ≠ .error () := by
    constructor
    · intro h
      rcases h with ⟨result, hresult, -⟩
      simp [hresult]
    · intro h
      cases hresult : extractSearchQuery py text with
      | error e => exact absurd hresult h
      | ok result => exact ⟨result, rfl, picks_of_extractSearchQuery py hresult⟩
  rw [hraises, Ne, extractSearchQuery_error_iff]
  simp only [not_exists, not_and, not_forall, not_not, exists_prop]

/-- A search, and behind it a call whose arguments are a list. -/
def listArgumentsText : Text :=
  lit "<search>x</search><tool_call>\x7b\"name\": \"search\", \"arguments\": [\"y\"]\x7d</tool_call>"

theorem extractSearchQuery_listArguments :
    ¬ ∃ result, extractSearchQuery asciiPython listArgumentsText = .ok result := by
  intro h
  rcases h with ⟨result, h⟩
  have herror : (extractSearchQuery asciiPython listArgumentsText).toOption = none := by
    decide +kernel
  rw [h] at herror
  cases herror

end SearchR1.GenerateTeacherTrajectories
