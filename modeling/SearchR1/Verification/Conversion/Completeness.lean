import SearchR1.Verification.Conversion.Query

/-! # Search tags after conversion -/

namespace SearchR1.ConvertToHermesSft

open PyText PyJson BuildSftData GenerateTeacherTrajectories

theorem isTag_searchOpen : IsTag searchOpen := ⟨lit "search", rfl, by decide, by decide⟩

/-- A closing search tag stands behind an opening one. -/
def HasPair (text : Text) : Prop := ∃ u v, text = u ++ searchOpen ++ v ∧ contains searchClose v

theorem hasPair_iff (text : Text) : HasPair text ↔ blocks searchOpen searchClose text ≠ [] := by
  rw [ne_eq, blocks_eq_nil_iff searchOpen_ne_nil, HasPair]
  simp only [not_forall, not_not, exists_prop]

variable {F : Type} (py : Python F)

/-- The printed call of a search block. -/
def callText (body : Text) : Text := dumps py.json (toolCallPayload py (strip body))

theorem replace_eq (body : Text) : replace py body =
    toolCallOpen ++ ch '\n' :: (callText py body ++ ch '\n' :: toolCallClose) := by
  have hlit : lit "\n" = [ch '\n'] := rfl
  simp [replace, callText, hlit]

/-- The tag between `u` and `v` stands in a call that was printed for a block of the text. -/
def OpensInCall (text u v : Text) : Prop :=
  ∃ body ∈ blocks searchOpen searchClose text, ∃ front w z back,
    callText py body = w ++ searchOpen ++ z ∧ u = front ++ toolCallOpen ++ lit "\n" ++ w ∧
      v = z ++ lit "\n" ++ toolCallClose ++ back

theorem not_contains_front {s front rest : Text} (h : cut searchOpen s = some (front, rest)) :
    ¬ contains searchOpen (front ++ toolCallOpen) := by
  have hfront := cut_eq_none (not_contains_of_cut searchOpen_ne_nil h)
  have htag : cut searchOpen toolCallOpen = none := by decide
  rw [contains, isTag_searchOpen.cut_append_of_seam (seam_of_head isTag_toolCallOpen.head?) hfront,
    htag]
  simp

/-- A pair in the converted text opens in one of its calls. -/
theorem opensInCall_of_pair {text u v : Text}
    (h : convertSearchToToolCall py text = u ++ searchOpen ++ v)
    (hclose : contains searchClose v) : OpensInCall py text u v := by
  have hline : ch '\n' ∉ searchOpen := by decide
  rw [convertSearchToToolCall] at h
  induction text using blocks_induction (c := searchClose) searchOpen_ne_nil
    generalizing u with
  | stop text hb =>
      rw [replaceBlocks_eq_self searchOpen_ne_nil _ hb] at h
      exact absurd hclose ((blocks_eq_nil_iff searchOpen_ne_nil).mp hb u v h)
  | block text front rest body rest' hopen hbody hb ih =>
      rw [replaceBlocks_of_close_some searchOpen_ne_nil _ hopen hbody, replace_eq] at h
      have hparts : u ++ searchOpen ++ v = (front ++ toolCallOpen) ++ ch '\n' ::
          (callText py body ++ ch '\n' :: (toolCallClose ++
            replaceBlocks searchOpen searchClose (replace py) rest')) := by
        rw [← h]
        simp
      rcases split_append_cons hline hparts with ⟨w, hfront, -⟩ | ⟨w, hu, hrest⟩
      · exfalso
        apply not_contains_front hopen
        rw [hfront, contains_iff]
        exact List.infix_append u searchOpen w
      · rcases split_append_cons hline hrest.symm with ⟨z, hcall, hv⟩ | ⟨w', hw, hrest'⟩
        · refine ⟨body, hb ▸ List.mem_cons_self, front, w, z,
            replaceBlocks searchOpen searchClose (replace py) rest', hcall, ?_, ?_⟩
          · rw [hu, List.append_assoc _ (lit "\n")]
            rfl
          · rw [hv, List.append_assoc, List.append_assoc]
            rfl
        · rcases isTag_searchOpen.split_append isTag_toolCallClose.getLast? hrest'.symm with
            ⟨z, htag, -⟩ | ⟨w'', hw', hrest''⟩
          · exfalso
            have hinfix : searchOpen <:+: toolCallClose := htag ▸ List.infix_append w' searchOpen z
            exact absurd (isTag_searchOpen.eq_of_infix isTag_toolCallClose hinfix) (by decide)
          · -- behind the block that was replaced
            obtain ⟨body', hbody', front', w₁, z, back, hcall, hw₁, hv⟩ := ih hrest''
            refine ⟨body', hb ▸ List.mem_cons_of_mem body hbody',
              front ++ replace py body ++ front', w₁, z, back, hcall, ?_, hv⟩
            rw [hu, hw, hw', hw₁, replace_eq]
            simp

/-- A text with a search block has a call afterwards. -/
theorem contains_toolCallOpen_of_mem_blocks {text body : Text}
    (h : body ∈ blocks searchOpen searchClose text) :
    contains toolCallOpen (convertSearchToToolCall py text) := by
  have hreplace := infix_replaceBlocks searchOpen_ne_nil (replace py) h
  apply contains_iff.mpr
  refine List.IsInfix.trans ?_ hreplace
  exact ((List.prefix_append _ _).trans (List.prefix_append _ _)).isInfix

/-- What the conversion promises of a message: one with a call is left as it is, and a pair in
another one opens in a call that was printed for it. -/
def Converted (turn turn' : Message) : Prop :=
  turn'.role = .assistant →
    (contains toolCallOpen turn.content → turn'.content = turn.content) ∧
      (¬ contains toolCallOpen turn.content → ∀ u v, turn'.content = u ++ searchOpen ++ v →
        contains searchClose v → OpensInCall py turn.content u v)

theorem convertTurn_role (turn : Message) : (convertTurn py turn).role = turn.role := by
  unfold convertTurn
  split <;> rfl

theorem converted_convertTurn (turn : Message) : Converted py turn (convertTurn py turn) := by
  intro hrole
  by_cases hhermes : contains toolCallOpen turn.content
  · simp [convertTurn, isAlreadyHermes, hhermes]
  · have hassistant : turn.role = .assistant := by rwa [convertTurn_role] at hrole
    rw [convertTurn, if_pos ⟨hassistant, by simp [isAlreadyHermes, hhermes]⟩]
    refine ⟨fun h => absurd h hhermes, ?_⟩
    intro _ u v h hclose
    exact opensInCall_of_pair py h hclose

/-- After conversion a pair of search tags is left in messages that had a call before, and
otherwise only where a call printed for a block holds an opening tag. -/
theorem convertTrajectory_converted (trajectory : List Message) :
    List.Forall₂ (Converted py) trajectory (convertTrajectory py trajectory) := by
  rw [convertTrajectory, List.forall₂_map_right_iff, List.forall₂_same]
  intro turn _
  exact converted_convertTurn py turn

/-- A message without a call has no pair left, if no call printed for it holds an opening tag. -/
theorem not_hasPair_convertSearchToToolCall {text : Text}
    (h : ∀ body ∈ blocks searchOpen searchClose text, ¬ contains searchOpen (callText py body)) :
    ¬ HasPair (convertSearchToToolCall py text) := by
  rintro ⟨u, v, htext, hclose⟩
  obtain ⟨body, hbody, -, w, z, -, hcall, -⟩ := opensInCall_of_pair py htext hclose
  apply h body hbody
  rw [hcall, contains_iff]
  exact List.infix_append w searchOpen z

/-- No assistant message of the converted trajectory has a pair. -/
def Complete (trajectory : List Message) : Prop :=
  ∀ turn ∈ convertTrajectory py trajectory, turn.role = .assistant → ¬ HasPair turn.content

theorem not_complete_of_blocks {content : Text} (h : blocks searchOpen searchClose
    (convertTurn py (assistantMessage content)).content ≠ []) :
    ¬ Complete py [assistantMessage content] := by
  intro hcomplete
  exact hcomplete _ List.mem_cons_self (convertTurn_role py _) ((hasPair_iff _).mpr h)

/-- A search block behind a call is kept, and a tag in the query of a block is printed. -/
theorem not_complete_messages :
    ¬ Complete asciiPython
        [assistantMessage (lit "<tool_call>{}</tool_call><search>who</search>")] ∧
      ¬ Complete asciiPython
        [assistantMessage (lit "<search>a <search>b</search> c</search>")] := by
  constructor
  · apply not_complete_of_blocks
    decide
  · apply not_complete_of_blocks
    decide

end SearchR1.ConvertToHermesSft
