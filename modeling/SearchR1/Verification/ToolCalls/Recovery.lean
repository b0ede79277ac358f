import SearchR1.Verification.ToolCalls.Agreement
import Mathlib.Tactic.NormNum

/-! # Calls with text behind them -/

namespace SearchR1.ToolParser

open PyText PyJson

/-! ## Braces -/

/-- How many braces are open behind a text, those in strings included. -/
def braceDepth (p : Text) : ℤ := p.count (ch '{') - p.count (ch '}')

/-- Braces are at most two deep, and they are all closed at the end and not before. -/
def TwoDeep (o : Text) : Prop :=
  (∀ p, p <+: o → p ≠ [] → p ≠ o → braceDepth p = 1 ∨ braceDepth p = 2) ∧ braceDepth o = 0

/-- The same for the rest of a text, with `depth` braces open. -/
def Closes (depth : ℤ) (s : Text) : Prop :=
  (∀ p, p <+: s → p ≠ s → depth + braceDepth p = 1 ∨ depth + braceDepth p = 2) ∧
    depth + braceDepth s = 0

@[simp] theorem braceDepth_nil : braceDepth [] = 0 := rfl

theorem braceDepth_cons (c : CodePoint) (p : Text) :
    braceDepth (c :: p) = braceDepth [c] + braceDepth p := by
  simp only [braceDepth, List.count_cons, List.count_nil, Nat.cast_add]
  omega

theorem closes_cons_iff (depth : ℤ) (c : CodePoint) (s : Text) :
    Closes depth (c :: s) ↔ (depth = 1 ∨ depth = 2) ∧ Closes (depth + braceDepth [c]) s := by
  constructor
  · intro h
    rcases h with ⟨hfront, hend⟩
    refine ⟨by simpa using hfront [] List.nil_prefix (by simp), ?_, ?_⟩
    · intro p hp hne
      have hcons := hfront (c :: p) ((List.prefix_cons_inj c).mpr hp) (by simpa using hne)
      rwa [braceDepth_cons, ← add_assoc] at hcons
    · rwa [braceDepth_cons, ← add_assoc] at hend
  · intro h
    rcases h with ⟨hdepth, hfront, hend⟩
    constructor
    · intro p hp hne
      rcases List.prefix_cons_iff.mp hp with rfl | ⟨p, rfl, hrest⟩
      · simpa using hdepth
      · rw [braceDepth_cons, ← add_assoc]
        exact hfront p hrest (by simpa using hne)
    · rwa [braceDepth_cons, ← add_assoc]

theorem closes_zero_iff (s : Text) : Closes 0 s ↔ s = [] := by
  constructor
  · intro h
    by_contra hne
    have hdepth := h.1 [] List.nil_prefix (Ne.symm hne)
    simp at hdepth
  · rintro rfl
    exact ⟨fun p hp hne => absurd (List.prefix_nil.mp hp) hne, rfl⟩

theorem not_closes_nil {depth : ℤ} (h : depth ≠ 0) : ¬ Closes depth [] := by
  intro hcloses
  simpa using h (by simpa using hcloses.2)

theorem twoDeep_iff_closes (s : Text) : TwoDeep (ch '{' :: s) ↔ Closes 1 s := by
  have hopen : braceDepth [ch '{'] = 1 := by decide
  constructor
  · intro h
    constructor
    · intro p hp hne
      have hcons := h.1 (ch '{' :: p) ((List.prefix_cons_inj _).mpr hp) (by simp)
        (by simpa using hne)
      rwa [braceDepth_cons, hopen] at hcons
    · have hend := h.2
      rwa [braceDepth_cons, hopen] at hend
  · intro h
    constructor
    · intro p hp hnil hne
      rcases List.prefix_cons_iff.mp hp with rfl | ⟨p, rfl, hrest⟩
      · exact absurd rfl hnil
      · rw [braceDepth_cons, hopen]
        exact h.1 p hrest (by simpa using hne)
    · rw [braceDepth_cons, hopen]
      exact h.2

/-! ## What the pattern matches -/

/-- The pattern reads a text to its end when the braces close there. -/
theorem braceMatch_self_iff (inner : Bool) (s : Text) :
    braceMatch inner s = some s ↔ Closes (if inner then 2 else 1) s := by
  induction s generalizing inner with
  | nil =>
      apply iff_of_false
      · intro h
        cases h
      · apply not_closes_nil
        cases inner <;> decide
  | cons c s ih =>
      have hclose : braceDepth [ch '}'] = -1 := by decide
      have hopen : braceDepth [ch '{'] = 1 := by decide
      have hmap : ∀ i : Bool, (braceMatch i s).map (c :: ·) = some (c :: s) ↔
          braceMatch i s = some s := by
        intro i
        simp
      rw [closes_cons_iff]
      simp only [braceMatch]
      by_cases hcl : c = ch '}'
      · subst hcl
        rw [if_pos rfl, hclose]
        cases inner with
        | true =>
            rw [if_pos rfl, hmap, ih]
            norm_num
        | false =>
            norm_num [closes_zero_iff, eq_comm]
      · rw [if_neg hcl]
        by_cases hop : c = ch '{'
        · subst hop
          rw [if_pos rfl, hopen]
          cases inner with
          | true =>
              have hthree : ¬ Closes 3 s := by
                cases s with
                | nil => exact not_closes_nil (by decide)
                | cons d s =>
                    rw [closes_cons_iff]
                    norm_num
              apply iff_of_false
              · intro h
                cases h
              · intro h
                have hcloses := h.2
                norm_num at hcloses
                exact hthree hcloses
          | false =>
              rw [if_neg Bool.false_ne_true, hmap, ih]
              norm_num
        · have hother : braceDepth [c] = 0 := by
            simp [braceDepth, hcl, hop]
          rw [if_neg hop, hmap, ih, hother, add_zero, and_iff_right]
          cases inner <;> simp

/-- A match depends on itself alone. -/
theorem braceMatch_self {inner : Bool} {x m : Text} (h : braceMatch inner x = some m) :
    braceMatch inner m = some m := by
  induction x generalizing inner m with
  | nil => cases h
  | cons c x ih =>
      have hmap : ∀ {i : Bool}, (braceMatch i x).map (c :: ·) = some m →
          ∃ m', m = c :: m' ∧ braceMatch i m' = some m' := by
        intro i hm
        rcases Option.map_eq_some_iff.mp hm with ⟨m', hm', rfl⟩
        exact ⟨m', rfl, ih hm'⟩
      simp only [braceMatch] at h
      split at h
      · rename_i hclose
        cases inner with
        | false =>
            cases h
            simp [braceMatch, hclose]
        | true =>
            rcases hmap h with ⟨m', rfl, hm'⟩
            simp [braceMatch, hclose, hm']
      · rename_i hclose
        split at h
        · rename_i hopen
          cases inner with
          | true => cases h
          | false =>
              rcases hmap h with ⟨m', rfl, hm'⟩
              have hne : ch '{' ≠ ch '}' := by decide
              simp [braceMatch, hopen, hne, hm']
        · rename_i hopen
          rcases hmap h with ⟨m', rfl, hm'⟩
          simp [braceMatch, hclose, hopen, hm']

theorem lenientSearch_self {x m : Text} (h : lenientSearch x = some m) :
    ∃ m', m = ch '{' :: m' ∧ braceMatch false m' = some m' := by
  induction x with
  | nil => cases h
  | cons c x ih =>
      simp only [lenientSearch] at h
      split at h
      · rename_i hopen
        split at h
        · rename_i m' hm'
          cases h
          exact ⟨m', by rw [hopen], braceMatch_self hm'⟩
        · exact ih h
      · exact ih h

/-- The pattern matches the text of an object, whatever follows, when its braces are at most two
deep. -/
theorem lenientSearch_append_eq_iff (s t : Text) :
    lenientSearch (ch '{' :: s ++ t) = some (ch '{' :: s) ↔ TwoDeep (ch '{' :: s) := by
  have hmatch : braceMatch false s = some s ↔ TwoDeep (ch '{' :: s) := by
    rw [braceMatch_self_iff, twoDeep_iff_closes]
    rfl
  rw [← hmatch]
  constructor
  · intro h
    rcases lenientSearch_self h with ⟨m', heq, hm'⟩
    cases heq
    exact hm'
  · intro h
    simp only [List.cons_append, lenientSearch, if_pos, braceMatch_append h t]

/-! ## Recovery -/

variable {F : Type} (py : Python F)

/-- A body with white space in front of the text of a call and anything behind it yields that call
exactly when only JSON white space stands around it, or its braces are at most two deep, or the
first match of the pattern is another text of the same call. -/
theorem decodeMatch_padded_iff {w o t : Text} {payload arguments : Dict Text (Json F)} {name : Text}
    (hw : ∀ c ∈ w, isSpace c) (ho : loads py.json o = some (.obj payload)) (hstrip : strip o = o)
    (hname : Dict.get? payload (lit "name") = some (.str name))
    (harguments : Dict.get? payload (lit "arguments") = some (.obj arguments)) :
    decodeMatch py (w ++ o ++ t) =
        some { name := name, arguments := dumps py.json (.obj arguments) } ↔
      (∀ c ∈ w ++ t, isJsonSpace c) ∨ TwoDeep o ∨
        ∃ m, m ≠ o ∧ lenientSearch (o ++ t) = some m ∧
          (loads py.json m).bind (functionCall py) =
            some { name := name, arguments := dumps py.json (.obj arguments) } := by
  have hcall : functionCall py (.obj payload) =
      some { name := name, arguments := dumps py.json (.obj arguments) } := by
    simp only [functionCall, hname, harguments]
  have hsearch : lenientSearch (w ++ o ++ t) = lenientSearch (o ++ t) := by
    rw [List.append_assoc]
    apply lenientSearch_append_left
    rintro c hc rfl
    have hspace := hw _ hc
    revert hspace
    decide
  by_cases hjson : ∀ c ∈ w ++ t, isJsonSpace c
  · have hload : loads py.json (w ++ o ++ t) = some (.obj payload) :=
      (loads_padded_iff py.json hw ho hstrip).mpr ⟨rfl, List.forall_mem_append.mp hjson⟩
    apply iff_of_true
    · simp only [decodeMatch, hload, Option.bind_some, hcall]
    · exact .inl hjson
  · have hload : loads py.json (w ++ o ++ t) = none := by
      cases hbody : loads py.json (w ++ o ++ t) with
      | none => rfl
      | some v =>
          have hspaces := ((loads_padded_iff py.json hw ho hstrip).mp hbody).2
          exact absurd (List.forall_mem_append.mpr hspaces) hjson
    have hdecode : decodeMatch py (w ++ o ++ t) = (lenientSearch (o ++ t)).bind fun m =>
        (loads py.json m).bind (functionCall py) := by
      simp only [decodeMatch, hload, Option.bind_none, hsearch]
    rcases scanOnce_of_loads_obj py.json ho hstrip with ⟨s, rfl, _⟩
    rw [hdecode, Option.bind_eq_some_iff, or_iff_right hjson]
    constructor
    · intro h
      rcases h with ⟨m, hm, hread⟩
      by_cases hsame : m = ch '{' :: s
      · rw [hsame] at hm
        exact .inl ((lenientSearch_append_eq_iff s t).mp hm)
      · exact .inr ⟨m, hsame, hm, hread⟩
    · intro h
      rcases h with hdeep | ⟨m, _, hm, hread⟩
      · exact ⟨_, (lenientSearch_append_eq_iff s t).mpr hdeep, by rw [ho, Option.bind_some, hcall]⟩
      · exact ⟨m, hm, hread⟩

/-- In every text the calls are those of its bodies, in order. A padded object gives its one call
when its name is a string and the padding is white space that JSON allows, or its braces are at
most two deep, or by chance. -/
theorem extractToolCalls_padded_iff {w o t : Text} {payload arguments : Dict Text (Json F)}
    {name : Json F} (hw : ∀ c ∈ w, isSpace c) (ho : loads py.json o = some (.obj payload))
    (hstrip : strip o = o) (hname : Dict.get? payload (lit "name") = some name)
    (harguments : Dict.get? payload (lit "arguments") = some (.obj arguments)) :
    (∀ text, (extractToolCalls py text).2 =
      (blocks toolCallOpen toolCallClose text).flatMap fun body =>
        (decodeMatch py body).toList) ∧
    ((∃ n, name = .str n ∧ (decodeMatch py (w ++ o ++ t)).toList =
        [{ name := n, arguments := dumps py.json (.obj arguments) }]) ↔
      ∃ n, name = .str n ∧ ((∀ c ∈ w ++ t, isJsonSpace c) ∨ TwoDeep o ∨
        ∃ m, m ≠ o ∧ lenientSearch (o ++ t) = some m ∧
          (loads py.json m).bind (functionCall py) =
            some { name := n, arguments := dumps py.json (.obj arguments) })) := by
  constructor
  · intro text
    rw [extractToolCalls_calls, List.filterMap_eq_flatMap_toList]
  · apply exists_congr
    intro n
    apply and_congr_right
    intro hstring
    subst hstring
    rw [← decodeMatch_padded_iff py hw ho hstrip hname harguments]
    cases decodeMatch py (w ++ o ++ t) <;> simp

def searchArguments (query : String) : Dict Text (Json LiteralFloat) :=
  [(lit "query", .str (lit query))]

/-- The payload of a search call. -/
def searchPayload (query : String) : Dict Text (Json LiteralFloat) :=
  [(lit "name", .str (lit "search")), (lit "arguments", .obj (searchArguments query))]

theorem wf_searchPayload (query : String) : (Json.obj (searchPayload query)).Wf := by
  simp [searchPayload, searchArguments, Json.Wf, WfMembers, Dict.keys]
  decide

theorem decodeMatch_searchPayload :
    (decodeMatch asciiPython (lit "\n" ++ dumps literalCodec (.obj (searchPayload "Paris")) ++
        lit " and so on")).toList =
      [{ name := lit "search"
         arguments := dumps literalCodec (.obj (searchArguments "Paris")) }] := by
  have hspace : ∀ c ∈ lit "\n", isSpace c := by
    intro c hc
    cases List.mem_singleton.mp hc
    decide
  have hload : loads literalCodec (dumps literalCodec (.obj (searchPayload "Paris"))) =
      some (.obj (searchPayload "Paris")) := loads_dumps literalCodec _ (wf_searchPayload "Paris")
  have hdeep : TwoDeep (dumps literalCodec (.obj (searchPayload "Paris"))) :=
    (lenientSearch_append_eq_iff _ []).mp (by decide)
  rcases (extractToolCalls_padded_iff asciiPython hspace hload (by decide) rfl rfl).2.mpr
    ⟨_, rfl, .inr (.inl hdeep)⟩ with ⟨name, hname, hcalls⟩
  cases hname
  exact hcalls

/-- A closing brace in the query ends the match too early, and the call is lost. -/
theorem extractToolCalls_closingBrace :
    loads literalCodec (dumps literalCodec (.obj (searchPayload "a\x7d"))) =
        some (.obj (searchPayload "a\x7d")) ∧
      (extractToolCalls asciiPython (toolCallOpen ++
        (dumps literalCodec (.obj (searchPayload "a\x7d")) ++ lit " and so on") ++
          toolCallClose)).2 = [] := by
  constructor
  · exact loads_dumps literalCodec _ (wf_searchPayload "a\x7d")
  · decide +kernel

end SearchR1.ToolParser
