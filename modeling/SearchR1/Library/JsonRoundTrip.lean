import SearchR1.Library.JsonScan

/-! # Reading back what was printed -/

namespace PyJson

open PyText

/-! ## The fuel of the scanners -/

section Fuel

variable {α : Type} {item item' : Scanner α} {close : CodePoint}

/-- Two item scanners that agree on texts up to a length give the same lists there. -/
theorem scanItems_congr (hcons : Consumes item) {k : ℕ}
    (hitem : ∀ s : Text, s.length ≤ k → item s = item' s) (n m : ℕ) (s : Text)
    (hk : s.length ≤ k) (hn : s.length < n) (hm : s.length < m) :
    scanItems item close n s = scanItems item' close m s := by
  induction n generalizing m s with
  | zero => omega
  | succ n ih =>
      obtain ⟨m, rfl⟩ : ∃ m', m = m' + 1 := ⟨m - 1, by omega⟩
      simp only [scanItems, ← hitem s hk]
      cases ha : item s with
      | none => rfl
      | some x =>
          obtain ⟨a, r⟩ := x
          have hr := hcons.length_lt ha
          cases hws : skipWs r with
          | nil => simp only [hws]
          | cons c r' =>
              have hle := skipWs_length_le r
              rw [hws, List.length_cons] at hle
              have hle' := skipWs_length_le r'
              simp only [hws]
              rw [ih m (skipWs r') (by omega) (by omega) (by omega)]

variable {F : Type} {value value' : Scanner (Json F)}

theorem scanMember_congr {k : ℕ} (hvalue : ∀ s : Text, s.length ≤ k → value s = value' s)
    (s : Text) (hk : s.length ≤ k) : scanMember value s = scanMember value' s := by
  cases s with
  | nil => rfl
  | cons c s =>
      simp only [scanMember]
      cases hs : scanString s with
      | none => rfl
      | some x =>
          obtain ⟨key, r⟩ := x
          obtain ⟨t, rfl⟩ := scanString_append hs
          cases hws : skipWs r with
          | nil => simp only [hws]
          | cons c' r' =>
              have hle := skipWs_length_le r
              rw [hws, List.length_cons] at hle
              have hle' := skipWs_length_le r'
              simp only [List.length_cons, List.length_append] at hk
              simp only [hws]
              rw [hvalue (skipWs r') (by omega)]

/-- Any fuel above the length of the text reads the same value. -/
theorem scanOnce_eq_of_lt (fc : FloatCodec F) (n m : ℕ) (s : Text) (hn : s.length < n)
    (hm : s.length < m) : scanOnce fc n s = scanOnce fc m s := by
  induction n generalizing m s with
  | zero => omega
  | succ n ih =>
      obtain ⟨m, rfl⟩ : ∃ m', m = m' + 1 := ⟨m - 1, by omega⟩
      cases s with
      | nil => rfl
      | cons c s =>
          rw [List.length_cons] at hn hm
          have hvalue : ∀ t : Text, t.length ≤ s.length → scanOnce fc n t = scanOnce fc m t :=
            fun t ht => ih m t (by omega) (by omega)
          have hcons := scanOnce_consumes fc n
          simp only [scanOnce]
          cases hws : skipWs s with
          | nil => rfl
          | cons d s' =>
              have hle := skipWs_length_le s
              rw [hws, List.length_cons] at hle
              simp only
              rw [scanItems_congr (scanMember_consumes hcons) (scanMember_congr hvalue) (n + 1)
                  (m + 1) (d :: s') hle (by rw [List.length_cons]; omega)
                  (by rw [List.length_cons]; omega),
                scanItems_congr hcons hvalue (n + 1) (m + 1) (d :: s') hle
                  (by rw [List.length_cons]; omega) (by rw [List.length_cons]; omega)]

end Fuel

/-! ## Well-formed values -/

section Wf

variable {F : Type} (fc : FloatCodec F)

theorem wfElems_iff (vs : List (Json F)) : WfElems vs ↔ ∀ v ∈ vs, v.Wf := by
  induction vs with
  | nil => simp [WfElems]
  | cons v vs ih => simp [WfElems, ih]

theorem wfMembers_iff (ms : List (Text × Json F)) : WfMembers ms ↔ ∀ m ∈ ms, m.2.Wf := by
  induction ms with
  | nil => simp [WfMembers]
  | cons m ms ih => simp [WfMembers, ih]

theorem scanItems_forall {α : Type} {item : Scanner α} {close : CodePoint} {P : α → Prop}
    (hitem : ∀ s a r, item s = some (a, r) → P a) (n : ℕ) {s : Text} {as : List α} {r : Text}
    (h : scanItems item close n s = some (as, r)) : ∀ a ∈ as, P a := by
  induction n generalizing s as with
  | zero => cases h
  | succ n ih =>
      obtain ⟨a, r₁, c, r₂, ha, -, hcase⟩ := scanItems_cases h
      rcases hcase with ⟨-, rfl, -⟩ | ⟨-, -, as', rfl, hrest⟩
      · simpa using hitem s a r₁ ha
      · exact List.forall_mem_cons.mpr ⟨hitem s a r₁ ha, ih hrest⟩

theorem scanOnce_wf (n : ℕ) {s : Text} {v : Json F} {r : Text}
    (h : scanOnce fc n s = some (v, r)) : v.Wf := by
  induction n generalizing s v r with
  | zero => cases h
  | succ n ih =>
      rcases scanOnce_cases fc h with ⟨s', t, -, -, rfl⟩ | ⟨s', d, s₁, -, -, hcase⟩ |
        ⟨s', d, s₁, -, -, hcase⟩ | ⟨c, s', -, -, -, -, ha⟩
      · trivial
      · rcases hcase with ⟨-, rfl, -⟩ | ⟨-, ms, rfl, hms⟩
        · simp [Json.Wf, WfMembers, Dict.keys]
        · have hall : ∀ m ∈ ms, m.2.Wf := by
            refine scanItems_forall (P := fun m => m.2.Wf) ?_ _ hms
            intro s m r hm
            obtain ⟨s', r₁, r₂, -, -, -, hv⟩ := scanMember_cases hm
            exact ih hv
          refine ⟨Dict.nodup_keys_update [] ms (by simp [Dict.keys]), ?_⟩
          rw [wfMembers_iff]
          intro m hm
          rcases Dict.mem_update hm with hm | hm
          · cases hm
          · exact hall m hm
      · rcases hcase with ⟨-, rfl, -⟩ | ⟨-, vs, rfl, hvs⟩
        · trivial
        · exact (wfElems_iff vs).mpr (scanItems_forall (fun s v r hv => ih hv) _ hvs)
      · simp only [scanAtom] at ha
        cases hc : scanConstant fc s with
        | some x =>
            simp only [hc, Option.some.injEq] at ha
            subst ha
            obtain ⟨w, hw, -⟩ := scanConstant_cases fc hc
            simp only [constants, List.mem_cons, Prod.mk.injEq, List.not_mem_nil, or_false] at hw
            rcases hw with hw | hw | hw | hw | hw | hw <;> rw [hw.2] <;> trivial
        | none =>
            simp only [hc, Option.map_eq_some_iff] at ha
            obtain ⟨⟨t, b, r'⟩, -, heq⟩ := ha
            obtain ⟨rfl, -⟩ : numberValue fc t b = v ∧ r' = r := by simpa using heq
            unfold numberValue
            split <;> trivial

theorem loads_cases {s : Text} {v : Json F} (h : loads fc s = some v) :
    s.head? ≠ some 0xFEFF ∧
      ∃ r, scanOnce fc (s.length + 1) (skipWs s) = some (v, r) ∧ skipWs r = [] := by
  simp only [loads] at h
  split at h
  · cases h
  · rename_i hbom
    refine ⟨hbom, ?_⟩
    cases hs : scanOnce fc (s.length + 1) (skipWs s) with
    | none => simp [hs] at h
    | some x =>
        obtain ⟨v', r⟩ := x
        simp only [hs] at h
        split at h
        · rename_i hr
          exact ⟨r, by rw [Option.some.inj h], hr⟩
        · cases h

theorem loads_wf {s : Text} {v : Json F} (h : loads fc s = some v) : v.Wf := by
  obtain ⟨-, r, hs, -⟩ := loads_cases fc h
  exact scanOnce_wf fc _ hs

theorem wf_of_get? {ms : Dict Text (Json F)} (h : (Json.obj ms).Wf) {k : Text} {v : Json F}
    (hv : Dict.get? ms k = some v) : v.Wf := by
  obtain ⟨-, hall⟩ := h
  induction ms with
  | nil => cases hv
  | cons m ms ih =>
      simp only [Dict.get?] at hv
      split at hv
      · exact Option.some.inj hv ▸ hall.1
      · exact ih hv hall.2

/-! ## Padding -/

theorem skipWs_eq_nil_iff (s : Text) : skipWs s = [] ↔ ∀ c ∈ s, isJsonSpace c := by
  simp [skipWs, List.dropWhile_eq_nil_iff]

/-- What `json.loads` accepts is padded with JSON white space only, and not blank. -/
theorem strip_eq_trim_of_loads {s : Text} {v : Json F} (h : loads fc s = some v) :
    strip s = trim isJsonSpace s ∧ strip s ≠ [] := by
  obtain ⟨-, r, hs, hr⟩ := loads_cases fc h
  obtain ⟨t, ht, hsolid⟩ := scanOnce_consumes fc _ _ _ _ hs
  obtain ⟨w, hw, hall⟩ := skipWs_decompose s
  rw [skipWs_eq_nil_iff] at hr
  have hdec : s = w ++ t ++ r := by rw [hw, ht, List.append_assoc]
  have hspace : ∀ {c : CodePoint}, isSpace c = false → ¬ isJsonSpace c := by
    intro c hc hj
    rw [isSpace_of_isJsonSpace hj] at hc
    cases hc
  have h₁ : strip s = t := trim_eq_of_decompose isSpace hdec
    (fun c hc => isSpace_of_isJsonSpace (hall c hc))
    (fun c hc => isSpace_of_isJsonSpace (hr c hc))
    (fun c hc => by simp [hsolid.head c hc]) (fun c hc => by simp [hsolid.last c hc])
  have h₂ : trim isJsonSpace s = t := trim_eq_of_decompose isJsonSpace hdec hall hr
    (fun c hc => hspace (hsolid.head c hc)) (fun c hc => hspace (hsolid.last c hc))
  exact ⟨h₁.trans h₂.symm, h₁ ▸ hsolid.ne_nil⟩

theorem stop_of_forall_isJsonSpace {t : Text} (h : ∀ c ∈ t, isJsonSpace c) : Stop t :=
  fun c hc => isNumberChar_false_of_isJsonSpace (h c (List.mem_of_mem_head? hc))

/-- JSON white space around a text does not change what is read from it. -/
theorem loads_of_trim {s : Text} {v : Json F} (h : loads fc (trim isJsonSpace s) = some v) :
    loads fc s = some v := by
  obtain ⟨w, t, hs, hw, ht⟩ := trim_decompose isJsonSpace s
  have hhead := trim_head isJsonSpace s
  generalize trim isJsonSpace s = m at h hs hhead
  obtain ⟨hbom, r, hscan, hr⟩ := loads_cases fc h
  cases m with
  | nil => cases hscan
  | cons c m =>
      have hc : isJsonSpace c = false := by simpa using hhead c rfl
      have hspaces : ∀ d ∈ r ++ t, isJsonSpace d := by
        rw [skipWs_eq_nil_iff] at hr
        intro d hd
        exact (List.mem_append.mp hd).elim (hr d) (ht d)
      have hlen : s.length = w.length + (m.length + 1) + t.length := by
        rw [hs, List.length_append, List.length_append, List.length_cons]
      have hskip : skipWs s = c :: m ++ t := by
        rw [hs, List.append_assoc, skipWs, List.dropWhile_append_of_pos hw]
        exact skipWs_of_head hc
      have hscan' : scanOnce fc (s.length + 1) (c :: m ++ t) = some (v, r ++ t) := by
        rw [skipWs_of_head hc, scanOnce_eq_of_lt fc _ (s.length + 1) _ (by omega)
          (by rw [List.length_cons]; omega)] at hscan
        exact scanOnce_extends fc _ _ _ _ t hscan (stop_of_forall_isJsonSpace hspaces)
      have hbom' : s.head? ≠ some 0xFEFF := by
        intro hb
        cases w with
        | nil => exact hbom (by simpa [hs] using hb)
        | cons d w =>
            have hd := hw d (by simp)
            obtain rfl : d = 0xFEFF := by simpa [hs] using hb
            revert hd
            decide
      simp only [loads, hbom', ite_false, hskip, hscan', (skipWs_eq_nil_iff _).mpr hspaces,
        ite_true]

/-! ## Objects with text around them -/

/-- An object is read the same whatever follows it. -/
theorem scanOnce_obj_append {n : ℕ} {s r : Text} {v : Json F}
    (h : scanOnce fc n (ch '{' :: s) = some (v, r)) (t : Text) :
    scanOnce fc n (ch '{' :: s ++ t) = some (v, r ++ t) := by
  cases n with
  | zero => cases h
  | succ n =>
      have hne : ch '{' ≠ ch '"' := by decide
      rcases scanOnce_cases fc h with ⟨s', _, heq, _⟩ | ⟨s', d, s₁, heq, hws, hcase⟩ |
        ⟨s', d, s₁, heq, _⟩ | ⟨c, s', heq, _, hbrace, _⟩
      · cases heq
      · cases heq
        rcases hcase with ⟨rfl, rfl, rfl⟩ | ⟨hd, ms, rfl, hms⟩
        · simp [scanOnce, hne, skipWs_append_of_cons hws t]
        · have hms' := scanItems_extendsFreely (scanMember_consumes (scanOnce_consumes fc n))
            (scanMember_extends (scanOnce_consumes fc n) (scanOnce_extends fc n)) (by decide)
            (by decide) _ _ _ _ t hms
          rw [List.cons_append] at hms'
          simp [scanOnce, hne, skipWs_append_of_cons hws t, hd, hms']
      · cases heq
      · cases heq
        exact absurd rfl hbrace

theorem exists_of_scanOnce_obj {n : ℕ} {s r : Text} {ms : Dict Text (Json F)}
    (h : scanOnce fc n s = some (.obj ms, r)) : ∃ s', s = ch '{' :: s' := by
  cases n with
  | zero => cases h
  | succ n =>
      rcases scanOnce_cases fc h with ⟨_, _, _, _, hv⟩ | ⟨s', _, _, rfl, _⟩ |
        ⟨_, _, _, _, _, hcase⟩ | ⟨c, s', rfl, _, _, _, hatom⟩
      · cases hv
      · exact ⟨s', rfl⟩
      · rcases hcase with ⟨_, hv, _⟩ | ⟨_, _, hv, _⟩ <;> cases hv
      · exfalso
        simp only [scanAtom] at hatom
        cases hc : scanConstant fc (c :: s') with
        | some x =>
            simp only [hc, Option.some.injEq] at hatom
            rcases scanConstant_cases fc (hc.trans (congrArg some hatom)) with ⟨w, hw, _⟩
            simp [constants] at hw
        | none =>
            simp only [hc, Option.map_eq_some_iff] at hatom
            rcases hatom with ⟨⟨t, b, r'⟩, _, heq⟩
            have hvalue : numberValue fc t b = .obj ms := congrArg Prod.fst heq
            unfold numberValue at hvalue
            split at hvalue <;> cases hvalue

/-- The text of an object, without white space around it, is read up to its end. -/
theorem scanOnce_of_loads_obj {o : Text} {ms : Dict Text (Json F)}
    (h : loads fc o = some (.obj ms)) (hstrip : strip o = o) :
    ∃ s, o = ch '{' :: s ∧ ∀ n, o.length < n → scanOnce fc n o = some (.obj ms, []) := by
  rcases loads_cases fc h with ⟨_, r, hscan, hr⟩
  rcases skipWs_decompose o with ⟨w, hw, hall⟩
  rcases scanOnce_consumes fc _ _ _ _ hscan with ⟨t, ht, hsolid⟩
  rw [skipWs_eq_nil_iff] at hr
  have hdec : o = w ++ t ++ r := by rw [List.append_assoc, ← ht, ← hw]
  have hstripped : strip o = t := trim_eq_of_decompose isSpace hdec
    (fun c hc => isSpace_of_isJsonSpace (hall c hc))
    (fun c hc => isSpace_of_isJsonSpace (hr c hc))
    (fun c hc => by simp [hsolid.head c hc]) (fun c hc => by simp [hsolid.last c hc])
  rw [hstrip] at hstripped
  have hlength := congrArg List.length hdec
  rw [List.length_append, List.length_append, ← hstripped] at hlength
  have hwnil : w = [] := List.length_eq_zero_iff.mp (by omega)
  have hrnil : r = [] := List.length_eq_zero_iff.mp (by omega)
  rw [hwnil, List.nil_append] at hw
  rw [← hw, hrnil] at hscan
  rcases exists_of_scanOnce_obj fc hscan with ⟨s, hs⟩
  refine ⟨s, hs, ?_⟩
  intro n hn
  rw [scanOnce_eq_of_lt fc n (o.length + 1) o hn (Nat.lt_succ_self _), hscan]

/-- An object between white space and other text is decoded when only JSON white space stands
around it. -/
theorem loads_padded_iff {w o t : Text} {ms : Dict Text (Json F)} (hw : ∀ c ∈ w, isSpace c)
    (ho : loads fc o = some (.obj ms)) (hstrip : strip o = o) {v : Json F} :
    loads fc (w ++ o ++ t) = some v ↔
      v = .obj ms ∧ (∀ c ∈ w, isJsonSpace c) ∧ ∀ c ∈ t, isJsonSpace c := by
  rcases scanOnce_of_loads_obj fc ho hstrip with ⟨s, rfl, hscan⟩
  have hbrace : isJsonSpace (ch '{') = false := by decide
  constructor
  · intro h
    rcases loads_cases fc h with ⟨_, r, hread, hr⟩
    have hwjson : ∀ c ∈ w, isJsonSpace c := by
      rw [← skipWs_eq_nil_iff]
      by_contra hne
      rcases List.exists_cons_of_ne_nil hne with ⟨c, w', hcons⟩
      have hskip := skipWs_append_of_cons hcons (ch '{' :: s ++ t)
      rw [← List.append_assoc] at hskip
      rw [hskip] at hread
      -- what was read begins with a space that is no JSON white space
      rcases scanOnce_consumes fc _ _ _ _ hread with ⟨piece, hpiece, hsolid⟩
      have hhead : piece.head? = some c := by
        rw [← List.head?_append_of_ne_nil _ hsolid.ne_nil, ← hpiece]
        rfl
      have hmem : c ∈ w := by
        rcases skipWs_decompose w with ⟨front, hfront, _⟩
        rw [hfront, hcons]
        simp
      have hspace := hw c hmem
      rw [hsolid.head c hhead] at hspace
      cases hspace
    have hskip : skipWs (w ++ (ch '{' :: s) ++ t) = ch '{' :: s ++ t := by
      rw [List.append_assoc, skipWs, List.dropWhile_append_of_pos hwjson]
      exact skipWs_of_head hbrace
    rw [hskip, scanOnce_obj_append fc (hscan _ (by simp; omega)) t] at hread
    cases hread
    exact ⟨rfl, hwjson, (skipWs_eq_nil_iff _).mp hr⟩
  · intro h
    rcases h with ⟨rfl, hwjson, htjson⟩
    have htrim : trim isJsonSpace (w ++ (ch '{' :: s) ++ t) = ch '{' :: s := by
      rw [trim_append isJsonSpace hwjson htjson, ← (strip_eq_trim_of_loads fc ho).1, hstrip]
    apply loads_of_trim
    rw [htrim, ho]

end Wf

/-! ## Printed strings -/

/-- The unit that the escape of a code point is read as. -/
def escapeUnit (c : CodePoint) : StrUnit :=
  if c.val < 0x20 ∧ c ≠ 10 ∧ c ≠ 13 ∧ c ≠ 9 ∧ c ≠ 12 ∧ c ≠ 8 then .escaped (Fin.ofNat _ c.val)
  else .plain c

theorem hexUnit_hexDigit (n : Fin 0x20) :
    hexUnit (ch '0') (ch '0') (hexDigit (n.val / 16)) (hexDigit (n.val % 16)) =
      some (Fin.ofNat _ n.val) := by
  revert n
  decide

theorem scanUnits_escape_append (c : CodePoint) (s : Text) :
    scanUnits (escape c ++ s) = (scanUnits s).map fun r => (escapeUnit c :: r.1, r.2) := by
  unfold escape
  split
  · rename_i h
    subst h
    exact scanUnits_escape (by decide) (by decide) s
  split
  · rename_i h
    subst h
    exact scanUnits_escape (by decide) (by decide) s
  split
  · rename_i h
    subst h
    exact scanUnits_escape (by decide) (by decide) s
  split
  · rename_i h
    subst h
    exact scanUnits_escape (by decide) (by decide) s
  split
  · rename_i h
    subst h
    exact scanUnits_escape (by decide) (by decide) s
  split
  · rename_i h
    subst h
    exact scanUnits_escape (by decide) (by decide) s
  split
  · rename_i h
    subst h
    exact scanUnits_escape (by decide) (by decide) s
  rename_i hq hb hn hr ht hf hbs
  split
  · rename_i h
    have hunit : escapeUnit c = .escaped (Fin.ofNat _ c.val) := by
      simp [escapeUnit, h, hn, hr, ht, hf, hbs]
    rw [hunit]
    exact scanUnits_hex (hexUnit_hexDigit ⟨c.val, h⟩) s
  · rename_i h
    have hunit : escapeUnit c = .plain c := by simp [escapeUnit, h]
    rw [hunit]
    exact scanUnits_plain hq hb h s

theorem joinUnits_escapeUnit (c : CodePoint) (us : List StrUnit) :
    joinUnits none (escapeUnit c :: us) = c :: joinUnits none us := by
  unfold escapeUnit
  split
  · rename_i h
    have hval : (Fin.ofNat 0x10000 c.val).val = c.val := Nat.mod_eq_of_lt (by omega)
    have hhigh : isHighSurrogate (Fin.ofNat _ c.val) = false := by
      simp only [isHighSurrogate, hval, Bool.and_eq_false_iff, decide_eq_false_iff_not]
      omega
    have hunit : codeUnit (Fin.ofNat _ c.val) = c := by
      apply Fin.ext
      simp only [codeUnit, hval]
      exact Nat.mod_eq_of_lt c.isLt
    simp only [joinUnits, hhigh, Bool.false_eq_true, ite_false, hunit]
  · simp [joinUnits]

theorem scanString_escape (t s : Text) :
    scanString (t.flatMap escape ++ ch '"' :: s) = some (t, s) := by
  have hunits : scanUnits (t.flatMap escape ++ ch '"' :: s) = some (t.map escapeUnit, s) := by
    induction t with
    | nil => exact scanUnits_quote s
    | cons c t ih =>
        rw [List.flatMap_cons, List.append_assoc, scanUnits_escape_append, ih]
        rfl
  have hjoin : joinUnits none (t.map escapeUnit) = t := by
    clear hunits
    induction t with
    | nil => rfl
    | cons c t ih => rw [List.map_cons, joinUnits_escapeUnit, ih]
  simp [scanString, hunits, hjoin]

/-! ## Printed numbers -/

theorem digitsValue_append (t : Text) (c : CodePoint) :
    digitsValue (t ++ [c]) = 10 * digitsValue t + (c.val - 48) := by
  simp [digitsValue]

theorem ch_digitChar {n : ℕ} (h : n < 10) :
    isDigit (ch n.digitChar) ∧ (ch n.digitChar).val - 48 = n ∧ (n ≠ 0 → ch n.digitChar ≠ ch '0') := by
  have hall : ∀ n : Fin 10, isDigit (ch n.val.digitChar) ∧ (ch n.val.digitChar).val - 48 = n.val ∧
      (n.val ≠ 0 → ch n.val.digitChar ≠ ch '0') := by decide
  exact hall ⟨n, h⟩

theorem natText_of_lt {n : ℕ} (h : n < 10) : natText n = [ch n.digitChar] := by
  simp [natText, Nat.toDigits_of_lt_base h]

theorem natText_of_le {n : ℕ} (h : 10 ≤ n) :
    natText n = natText (n / 10) ++ [ch (n % 10).digitChar] := by
  simp [natText, Nat.toDigits_of_base_le (by omega) h]

theorem digitsValue_natText (n : ℕ) : digitsValue (natText n) = n := by
  induction n using Nat.strongRecOn with
  | ind n ih =>
      by_cases h : n < 10
      · simp [natText_of_lt h, digitsValue, (ch_digitChar h).2.1]
      · rw [natText_of_le (by omega), digitsValue_append, ih (n / 10) (by omega),
          (ch_digitChar (Nat.mod_lt n (by omega))).2.1]
        omega

/-- A positive number starts with a nonzero digit. -/
theorem natText_of_pos {n : ℕ} (h : 0 < n) : ∃ c ds, natText n = c :: ds ∧ c ≠ ch '0' ∧
    isDigit c ∧ ∀ d ∈ ds, isDigit d := by
  induction n using Nat.strongRecOn with
  | ind n ih =>
      by_cases hlt : n < 10
      · have hd := ch_digitChar hlt
        exact ⟨_, [], natText_of_lt hlt, hd.2.2 (by omega), hd.1, by simp⟩
      · obtain ⟨c, ds, htext, hne, hc, hds⟩ := ih (n / 10) (by omega) (by omega)
        refine ⟨c, ds ++ [ch (n % 10).digitChar], ?_, hne, hc, ?_⟩
        · rw [natText_of_le (by omega), htext, List.cons_append]
        · intro d hd
          rcases List.mem_append.mp hd with hd | hd
          · exact hds d hd
          · rw [List.mem_singleton.mp hd]
            exact (ch_digitChar (Nat.mod_lt n (by omega))).1

theorem natText_head (n : ℕ) : ∃ c ds, natText n = c :: ds ∧ isDigit c := by
  rcases Nat.eq_zero_or_pos n with rfl | h
  · exact ⟨_, [], natText_of_lt (by omega), (ch_digitChar (by omega)).1⟩
  · obtain ⟨c, ds, htext, -, hc, -⟩ := natText_of_pos h
    exact ⟨c, ds, htext, hc⟩

theorem isDigit_of_mem_natText {n : ℕ} {c : CodePoint} (h : c ∈ natText n) : isDigit c := by
  rcases Nat.eq_zero_or_pos n with rfl | hn
  · rw [natText_of_lt (by omega)] at h
    rw [List.mem_singleton.mp h]
    exact (ch_digitChar (by omega)).1
  · obtain ⟨d, ds, htext, -, hd, hds⟩ := natText_of_pos hn
    rw [htext] at h
    rcases List.mem_cons.mp h with rfl | h
    · exact hd
    · exact hds c h

theorem takeInteger_natText (n : ℕ) : takeInteger (natText n) = some (natText n, []) := by
  rcases Nat.eq_zero_or_pos n with rfl | h
  · rfl
  · obtain ⟨c, ds, htext, hne, hc, hds⟩ := natText_of_pos h
    have htake : ds.takeWhile isDigit = ds := List.takeWhile_eq_self_iff.mpr hds
    have hdrop : ds.dropWhile isDigit = [] := List.dropWhile_eq_nil_iff.mpr hds
    simp [htext, takeInteger, hne, hc, htake, hdrop]

theorem takeSign_natText (n : ℕ) : takeSign (natText n) = ([], natText n) := by
  obtain ⟨c, ds, htext, hc⟩ := natText_head n
  have hne : c ≠ ch '-' := by
    rintro rfl
    revert hc
    decide
  simp [htext, takeSign, hne]

theorem scanNumber_intText (i : ℤ) : scanNumber (intText i) = some (intText i, false, []) := by
  cases i with
  | ofNat n =>
      simp [scanNumber, intText, takeSign_natText, takeInteger_natText, takeFraction,
        takeExponent]
  | negSucc n =>
      simp [scanNumber, intText, takeSign, takeInteger_natText, takeFraction, takeExponent]

theorem intValue_intText (i : ℤ) : intValue (intText i) = i := by
  cases i with
  | ofNat n =>
      obtain ⟨c, ds, htext, hc⟩ := natText_head n
      have hne : c ≠ ch '-' := by
        rintro rfl
        revert hc
        decide
      have hval := digitsValue_natText n
      simp only [intText]
      rw [htext] at hval ⊢
      simp [intValue, hne, hval]
  | negSucc n =>
      simp only [intText, intValue, ite_true, digitsValue_natText]
      omega

/-! ## Printed values -/

section RoundTrip

variable {F : Type} (fc : FloatCodec F)

theorem scanAtom_of_scanNumber {t : Text} {b : Bool} (h : scanNumber t = some (t, b, []))
    {r : Text} (hr : Stop r) : scanAtom fc (t ++ r) = some (numberValue fc t b, r) := by
  have h' := scanNumber_append h r hr
  rw [List.nil_append] at h'
  rw [scanAtom, scanConstant_of_scanNumber fc h', h']
  rfl

/-- What a printed number starts with. -/
theorem numberHead_of_scanNumber {t : Text} {b : Bool} (h : scanNumber t = some (t, b, [])) :
    ∃ c s, t = c :: s ∧ isNumberChar c := by
  obtain ⟨-, hne, hall⟩ := scanNumber_eq h
  cases t with
  | nil => exact absurd rfl hne
  | cons c s => exact ⟨c, s, rfl, hall c (by simp)⟩

/-- The head of a printed value is no white space, closing bracket or byte order mark. -/
theorem dumps_head (v : Json F) :
    ∃ c s, dumps fc v = c :: s ∧ isJsonSpace c = false ∧ c ≠ ch ']' ∧ c ≠ 0xFEFF := by
  have hnumber : ∀ {t : Text} {b : Bool}, scanNumber t = some (t, b, []) →
      ∃ c s, t = c :: s ∧ isJsonSpace c = false ∧ c ≠ ch ']' ∧ c ≠ 0xFEFF := by
    intro t b h
    obtain ⟨c, s, rfl, hc⟩ := numberHead_of_scanNumber h
    refine ⟨c, s, rfl, ?_, ?_, ?_⟩
    · by_contra hj
      rw [isNumberChar_false_of_isJsonSpace (by simpa using hj)] at hc
      cases hc
    all_goals
      rintro rfl
      revert hc
      decide
  cases v with
  | null => exact ⟨ch 'n', _, rfl, by decide, by decide, by decide⟩
  | bool b =>
      cases b with
      | true => exact ⟨ch 't', _, rfl, by decide, by decide, by decide⟩
      | false => exact ⟨ch 'f', _, rfl, by decide, by decide, by decide⟩
  | int i => exact hnumber (scanNumber_intText i)
  | float x =>
      rcases fc.repr_spec x with ⟨-, h⟩ | ⟨-, h⟩ | ⟨-, h⟩ | ⟨-, h⟩
      · exact ⟨ch 'N', _, h, by decide, by decide, by decide⟩
      · exact ⟨ch 'I', _, h, by decide, by decide, by decide⟩
      · exact ⟨ch '-', _, h, by decide, by decide, by decide⟩
      · exact hnumber h
  | str t => exact ⟨ch '"', _, rfl, by decide, by decide, by decide⟩
  | arr vs =>
      cases vs with
      | nil => exact ⟨ch '[', _, rfl, by decide, by decide, by decide⟩
      | cons v vs => exact ⟨ch '[', _, rfl, by decide, by decide, by decide⟩
  | obj ms =>
      cases ms with
      | nil => exact ⟨ch '{', _, rfl, by decide, by decide, by decide⟩
      | cons m ms => exact ⟨ch '{', _, rfl, by decide, by decide, by decide⟩

theorem skipWs_dumps (v : Json F) (s : Text) : skipWs (dumps fc v ++ s) = dumps fc v ++ s := by
  obtain ⟨c, t, h, hc, -⟩ := dumps_head fc v
  rw [h]
  exact skipWs_of_head hc

theorem skipWs_space_dumps (v : Json F) (s : Text) :
    skipWs (ch ' ' :: (dumps fc v ++ s)) = dumps fc v ++ s := by
  have h : isJsonSpace (ch ' ') := by decide
  rw [skipWs, List.dropWhile_cons_of_pos h]
  exact skipWs_dumps fc v s

theorem scanOnce_of_head {n : ℕ} {c : CodePoint} {s : Text} (hq : c ≠ ch '"')
    (hb : c ≠ ch '{') (hk : c ≠ ch '[') :
    scanOnce fc (n + 1) (c :: s) = scanAtom fc (c :: s) := by
  simp [scanOnce, hq, hb, hk]

/-- A printed number is read by the last branch of the scanner. -/
theorem scanOnce_of_scanNumber {t : Text} {b : Bool} (h : scanNumber t = some (t, b, []))
    (n : ℕ) {r : Text} (hr : Stop r) :
    scanOnce fc (n + 1) (t ++ r) = some (numberValue fc t b, r) := by
  rw [← scanAtom_of_scanNumber fc h hr]
  obtain ⟨c, s, rfl, hc⟩ := numberHead_of_scanNumber h
  apply scanOnce_of_head
  all_goals
    rintro rfl
    revert hc
    decide

theorem stop_dumpsElems (vs : List (Json F)) (r : Text) : Stop (dumpsElems fc vs ++ r) := by
  cases vs with
  | nil => exact stop_cons (by decide)
  | cons v vs => exact stop_cons (c := ch ',') (by decide)

theorem stop_dumpsMembers (ms : List (Text × Json F)) (r : Text) :
    Stop (dumpsMembers fc ms ++ r) := by
  cases ms with
  | nil => exact stop_cons (by decide)
  | cons m ms => exact stop_cons (c := ch ',') (by decide)

theorem scanMember_dumps (value : Scanner (Json F)) (k : Text) (v : Json F) (r : Text)
    (hv : value (dumps fc v ++ r) = some (v, r)) :
    scanMember value (quote k ++ lit ": " ++ dumps fc v ++ r) = some ((k, v), r) := by
  have hs : scanString (k.flatMap escape ++ ch '"' :: (lit ": " ++ (dumps fc v ++ r))) =
      some (k, lit ": " ++ (dumps fc v ++ r)) := scanString_escape k _
  have hcolon : skipWs (lit ": " ++ (dumps fc v ++ r)) = ch ':' :: ch ' ' :: (dumps fc v ++ r) :=
    skipWs_of_head (by decide)
  simp only [quote, List.cons_append, List.append_assoc, List.nil_append, scanMember, ite_true,
    hs, hcolon, skipWs_space_dumps, hv, ite_true, Option.map_some]

mutual

/-- A printed value is read back, whatever follows that does not continue a number. -/
theorem scanOnce_dumps (v : Json F) (hv : v.Wf) (n : ℕ) (hn : (dumps fc v).length ≤ n)
    (r : Text) (hr : Stop r) : scanOnce fc n (dumps fc v ++ r) = some (v, r) := by
  obtain ⟨n, rfl⟩ : ∃ n', n = n' + 1 := by
    obtain ⟨c, s, h, -⟩ := dumps_head fc v
    rw [h, List.length_cons] at hn
    exact ⟨n - 1, by omega⟩
  match v with
  | .null => rfl
  | .bool true => rfl
  | .bool false => rfl
  | .int i =>
      rw [dumps, scanOnce_of_scanNumber fc (scanNumber_intText i) n hr, numberValue,
        intValue_intText]
      rfl
  | .float x =>
      rw [dumps]
      rcases fc.repr_spec x with ⟨hx, h⟩ | ⟨hx, h⟩ | ⟨hx, h⟩ | ⟨hx, h⟩
      · rw [h, hx]
        rfl
      · rw [h, hx]
        rfl
      · rw [h, hx]
        rfl
      · rw [scanOnce_of_scanNumber fc h n hr, numberValue, hx]
        rfl
  | .str t =>
      have h := scanString_escape t r
      simp only [dumps, quote, List.cons_append, List.append_assoc, List.nil_append, scanOnce,
        ite_true, h, Option.map_some]
  | .arr [] => rfl
  | .arr (v :: vs) =>
      have hlen : (dumps fc v).length ≤ n ∧ (dumpsElems fc vs).length ≤ n := by
        simp only [dumps, List.length_append, List.length_cons] at hn
        omega
      have hfirst := scanOnce_dumps v hv.1 n hlen.1 (dumpsElems fc vs ++ r)
        (stop_dumpsElems fc vs r)
      have hitems := scanItems_dumpsElems vs hv.2 n (n + 1) hlen.2 (by omega) v r _ hfirst
      obtain ⟨c, s, hc, -, hne, -⟩ := dumps_head fc v
      have hopen : ch '[' ≠ ch '"' ∧ ch '[' ≠ ch '{' := by decide
      simp only [dumps, List.cons_append, List.append_assoc, scanOnce, hopen.1, hopen.2,
        ite_false, ite_true]
      rw [skipWs_dumps]
      simp only [hc, List.cons_append] at hitems ⊢
      simp only [hne, ite_false, hitems, Option.map_some]
  | .obj [] => rfl
  | .obj ((k, v) :: ms) =>
      have hlen : (dumps fc v).length ≤ n ∧ (dumpsMembers fc ms).length ≤ n := by
        simp only [dumps, List.length_append, List.length_cons] at hn
        omega
      have hvalue := scanOnce_dumps v hv.2.1 n hlen.1 (dumpsMembers fc ms ++ r)
        (stop_dumpsMembers fc ms r)
      have hfirst := scanMember_dumps fc (scanOnce fc n) k v (dumpsMembers fc ms ++ r) hvalue
      have hitems := scanItems_dumpsMembers ms hv.2.2 n (n + 1) hlen.2 (by omega) (k, v) r _
        hfirst
      have hupdate : Dict.update [] ((k, v) :: ms) = (k, v) :: ms :=
        Dict.update_eq_append [] _ hv.1
      have hopen : ch '{' ≠ ch '"' ∧ ch '"' ≠ ch '}' := by decide
      have hskip : ∀ t, skipWs (quote k ++ t) = quote k ++ t :=
        fun t => skipWs_of_head (by decide)
      simp only [dumps, List.cons_append, List.append_assoc, scanOnce, hopen.1, ite_false,
        ite_true, hskip]
      simp only [quote, List.cons_append, List.append_assoc] at hitems ⊢
      simp only [hopen.2, ite_false, hitems, Option.map_some, hupdate]

theorem scanItems_dumpsElems (vs : List (Json F)) (hvs : WfElems vs) (n k : ℕ)
    (hn : (dumpsElems fc vs).length ≤ n) (hk : (dumpsElems fc vs).length ≤ k) (a : Json F)
    (r s : Text) (hs : scanOnce fc n s = some (a, dumpsElems fc vs ++ r)) :
    scanItems (scanOnce fc n) (ch ']') k s = some (a :: vs, r) := by
  match vs with
  | [] =>
      obtain ⟨k, rfl⟩ : ∃ k', k = k' + 1 := ⟨k - 1, by simp [dumpsElems] at hk; omega⟩
      have hskip : skipWs (dumpsElems fc [] ++ r) = ch ']' :: r := skipWs_of_head (by decide)
      simp only [scanItems, hs, hskip, ite_true]
  | v :: vs =>
      have hsep : (lit ", ").length = 2 := rfl
      simp only [dumpsElems, List.length_append, hsep] at hn hk
      obtain ⟨k, rfl⟩ : ∃ k', k = k' + 1 := ⟨k - 1, by omega⟩
      have hnext := scanOnce_dumps v hvs.1 n (by omega) (dumpsElems fc vs ++ r)
        (stop_dumpsElems fc vs r)
      have hitems := scanItems_dumpsElems vs hvs.2 n k (by omega) (by omega) v r _ hnext
      have hcomma : skipWs (dumpsElems fc (v :: vs) ++ r) =
          ch ',' :: ch ' ' :: (dumps fc v ++ (dumpsElems fc vs ++ r)) := by
        rw [dumpsElems, List.append_assoc, List.append_assoc]
        exact skipWs_of_head (by decide)
      have hne : ch ',' ≠ ch ']' := by decide
      simp only [scanItems, hs, hcomma, hne, ite_false, ite_true, skipWs_space_dumps, hitems,
        Option.map_some]

theorem scanItems_dumpsMembers (ms : List (Text × Json F)) (hms : WfMembers ms) (n k : ℕ)
    (hn : (dumpsMembers fc ms).length ≤ n) (hk : (dumpsMembers fc ms).length ≤ k)
    (a : Text × Json F) (r s : Text)
    (hs : scanMember (scanOnce fc n) s = some (a, dumpsMembers fc ms ++ r)) :
    scanItems (scanMember (scanOnce fc n)) (ch '}') k s = some (a :: ms, r) := by
  match ms with
  | [] =>
      obtain ⟨k, rfl⟩ : ∃ k', k = k' + 1 := ⟨k - 1, by simp [dumpsMembers] at hk; omega⟩
      have hskip : skipWs (dumpsMembers fc [] ++ r) = ch '}' :: r := skipWs_of_head (by decide)
      simp only [scanItems, hs, hskip, ite_true]
  | (key, v) :: ms =>
      have hsep : (lit ", ").length = 2 := rfl
      simp only [dumpsMembers, List.length_append, hsep] at hn hk
      obtain ⟨k, rfl⟩ : ∃ k', k = k' + 1 := ⟨k - 1, by omega⟩
      have hvalue := scanOnce_dumps v hms.1 n (by omega) (dumpsMembers fc ms ++ r)
        (stop_dumpsMembers fc ms r)
      have hnext := scanMember_dumps fc (scanOnce fc n) key v (dumpsMembers fc ms ++ r) hvalue
      have hitems := scanItems_dumpsMembers ms hms.2 n k (by omega) (by omega) (key, v) r _
        hnext
      have hcomma : skipWs (dumpsMembers fc ((key, v) :: ms) ++ r) =
          ch ',' :: ch ' ' :: (quote key ++ lit ": " ++ dumps fc v ++ (dumpsMembers fc ms ++ r)) := by
        simp only [dumpsMembers, List.append_assoc]
        exact skipWs_of_head (by decide)
      have hspace : ∀ t, skipWs (ch ' ' :: (quote key ++ lit ": " ++ dumps fc v ++ t)) =
          quote key ++ lit ": " ++ dumps fc v ++ t := by
        intro t
        have h : isJsonSpace (ch ' ') := by decide
        rw [skipWs, List.dropWhile_cons_of_pos h]
        exact skipWs_of_head (by decide)
      have hne : ch ',' ≠ ch '}' := by decide
      simp only [scanItems, hs, hcomma, hne, ite_false, ite_true, hspace, hitems,
        Option.map_some]

end

/-- `json.loads(json.dumps(v)) == v`. -/
theorem loads_dumps (v : Json F) (hv : v.Wf) : loads fc (dumps fc v) = some v := by
  obtain ⟨c, s, hhead, -, -, hbom⟩ := dumps_head fc v
  have hscan := scanOnce_dumps fc v hv ((dumps fc v).length + 1) (by omega) [] stop_nil
  have hskip := skipWs_dumps fc v []
  rw [List.append_nil] at hscan hskip
  have hbom' : (dumps fc v).head? ≠ some 0xFEFF := by simpa [hhead] using hbom
  have hnil : skipWs [] = [] := rfl
  simp only [loads, hbom', ite_false, hskip, hscan, hnil, ite_true]

end RoundTrip

end PyJson
