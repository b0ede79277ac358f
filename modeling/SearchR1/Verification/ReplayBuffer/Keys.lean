import SearchR1.Library.JsonRoundTrip
import SearchR1.Model.V1Fit

/-! # The keys of the replay buffer -/

namespace SearchR1.ReplayBuffer

open PyText PyJson

theorem not_mem_natText (n : ℕ) : ch '_' ∉ natText n := by
  intro h
  have hdigit := isDigit_of_mem_natText h
  revert hdigit
  decide

theorem natText_injective {m n : ℕ} (h : natText m = natText n) : m = n := by
  rw [← digitsValue_natText m, h, digitsValue_natText]

/-- The parts of a key come back. -/
theorem splitOn_trajectoryKey {uid : Text} (h : ch '_' ∉ uid) (i j : ℕ) :
    (trajectoryKey uid i j).splitOn (ch '_') = [uid, natText i, natText j] := by
  apply List.splitOn_intercalate
  · intro part hpart
    simp only [List.mem_cons, List.not_mem_nil, or_false] at hpart
    rcases hpart with rfl | rfl | rfl
    · exact h
    · exact not_mem_natText i
    · exact not_mem_natText j
  · exact List.cons_ne_nil _ _

theorem uidOfKey_trajectoryKey {uid : Text} (h : ch '_' ∉ uid) (i j : ℕ) :
    uidOfKey (trajectoryKey uid i j) = uid := by
  rw [uidOfKey, splitOn_trajectoryKey h]
  rfl

theorem trajectoryKey_injective {uid uid' : Text} (h : ch '_' ∉ uid) (h' : ch '_' ∉ uid')
    {i i' j j' : ℕ} (he : trajectoryKey uid i j = trajectoryKey uid' i' j') :
    uid = uid' ∧ i = i' ∧ j = j' := by
  have hparts := congrArg (List.splitOn (ch '_')) he
  rw [splitOn_trajectoryKey h, splitOn_trajectoryKey h'] at hparts
  simp only [List.cons.injEq] at hparts
  exact ⟨hparts.1, natText_injective hparts.2.1, natText_injective hparts.2.2.1⟩

theorem mem_trajectoryKey (uid : Text) (i j : ℕ) : ch '_' ∈ trajectoryKey uid i j := by
  simp [trajectoryKey, List.intercalate]

theorem IsUuid.not_mem {uid : Text} (h : IsUuid uid) : ch '_' ∉ uid := fun hmem =>
  absurd (h _ hmem) (by decide)

theorem IsPadUid.not_mem {uid : Text} (h : IsPadUid uid) : ch '_' ∉ uid := by
  rcases h with ⟨hex, rfl, hhex⟩
  intro hmem
  rcases List.mem_append.mp hmem with hmem | hmem
  · exact absurd hmem (by decide)
  · exact hhex.not_mem hmem

/-- No prompt has the uid of a padding. -/
theorem IsPadUid.not_isUuid {uid : Text} (h : IsPadUid uid) : ¬ IsUuid uid := by
  rcases h with ⟨hex, rfl, -⟩
  intro huuid
  exact absurd (huuid (ch 'p') (List.mem_append_left hex (by decide))) (by decide)

/-- The key of a trajectory is no uid. -/
theorem IsUuid.ne_trajectoryKey {uid : Text} (h : IsUuid uid) (uid' : Text) (i j : ℕ) :
    uid ≠ trajectoryKey uid' i j := fun he => h.not_mem (he ▸ mem_trajectoryKey uid' i j)

/-- The items of a session, one for each of its outputs. -/
theorem mem_sessionItems {uid : Text} {steps : ℤ} {i : ℕ} {outputs : List AgentLoopOutput}
    {item : Text × Tag} : item ∈ sessionItems uid steps i outputs ↔
      ∃ j output, outputs[j]? = some output ∧
        item = (trajectoryKey uid i j, trajectoryTag steps output) := by
  rw [sessionItems, List.mem_mapIdx]
  constructor
  · intro h
    rcases h with ⟨j, hj, rfl⟩
    exact ⟨j, outputs[j], List.getElem?_eq_getElem hj, rfl⟩
  · intro h
    rcases h with ⟨j, output, hget, rfl⟩
    rcases List.getElem?_eq_some_iff.mp hget with ⟨hj, rfl⟩
    exact ⟨j, hj, rfl⟩

end SearchR1.ReplayBuffer
