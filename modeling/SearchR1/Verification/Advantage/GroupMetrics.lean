import SearchR1.Model.GroupMetrics
import SearchR1.Verification.Advantage.Laws

/-! # The group metrics describe the advantages

The loop over the groups that counts them and the loop that normalises their scores are written
apart from each other. -/

namespace SearchR1.RayTrainer

open PyText IndexLoop GroupStatistics CoreAlgos

variable {K U : Type*} [Field K] [LinearOrder K] [LinearOrder U] {n : ℕ}
  (sqrt : ExactRoot K) (epsilon : K) (rewards : Fin n → K) (uids : Fin n → U)
  (validMask : Fin n → Bool)

/-- The round of a group adds one to a counter, whatever was counted before. -/
def Counted (counter : GroupCounts → ℕ) (uid : U) : Prop :=
  ∀ counts, counter (countGroup sqrt rewards uids validMask epsilon counts uid) =
    counter counts + 1

/-! ## The rounds -/

omit [Field K] [LinearOrder K] in
/-- Both loops read the same rows of a group. -/
theorem validScores_eq (uid : U) :
    validScores rewards uids validMask uid =
      gather rewards ((npWhere uids uid).filter validMask) := by
  rw [validScores, npWhere, List.filter_filter]
  congr 2
  funext i
  rw [Bool.and_comm]

omit [Field K] [LinearOrder K] in
theorem length_validScores (uid : U) :
    (validScores rewards uids validMask uid).length =
      ((npWhere uids uid).filter validMask).length := by
  rw [validScores_eq, gather, List.length_map]

theorem counted_droppedGroups_iff (uid : U) :
    Counted sqrt epsilon rewards uids validMask GroupCounts.droppedGroups uid ↔
      ((npWhere uids uid).filter validMask).length < 2 := by
  rw [← length_validScores rewards]
  constructor
  · intro h
    by_contra hlength
    have hcount := h {}
    simp only [countGroup, if_neg hlength] at hcount
    split at hcount
    · cases hcount
    · cases hcount
  · intro hlength counts
    simp only [countGroup, if_pos hlength]

theorem counted_effectiveGroups_iff (uid : U) :
    Counted sqrt epsilon rewards uids validMask GroupCounts.effectiveGroups uid ↔
      ¬ ((npWhere uids uid).filter validMask).length < 2 := by
  rw [← length_validScores rewards]
  constructor
  · intro h hlength
    have hcount := h {}
    simp only [countGroup, if_pos hlength] at hcount
    cases hcount
  · intro hlength counts
    simp only [countGroup, if_neg hlength]
    split
    · rfl
    · rfl

theorem counted_zeroVarianceGroups_iff (uid : U) :
    Counted sqrt epsilon rewards uids validMask GroupCounts.zeroVarianceGroups uid ↔
      ¬ ((npWhere uids uid).filter validMask).length < 2 ∧
        npStd sqrt (validScores rewards uids validMask uid) ≤ epsilon := by
  rw [← length_validScores rewards]
  constructor
  · intro h
    have hcount := h {}
    simp only [countGroup] at hcount
    split at hcount
    · cases hcount
    · rename_i hlength
      split at hcount
      · rename_i hstd
        exact ⟨hlength, hstd⟩
      · cases hcount
  · rintro ⟨hlength, hstd⟩ counts
    simp only [countGroup, if_neg hlength, if_pos hstd]

/-! ## The counters of a run -/

theorem droppedGroups_of_not_counted {uid : U}
    (h : ¬ Counted sqrt epsilon rewards uids validMask GroupCounts.droppedGroups uid)
    (counts : GroupCounts) :
    (countGroup sqrt rewards uids validMask epsilon counts uid).droppedGroups =
      counts.droppedGroups := by
  rw [counted_droppedGroups_iff, ← length_validScores rewards] at h
  simp only [countGroup, if_neg h]
  split
  · rfl
  · rfl

theorem effectiveGroups_of_not_counted {uid : U}
    (h : ¬ Counted sqrt epsilon rewards uids validMask GroupCounts.effectiveGroups uid)
    (counts : GroupCounts) :
    (countGroup sqrt rewards uids validMask epsilon counts uid).effectiveGroups =
      counts.effectiveGroups := by
  rw [counted_effectiveGroups_iff, not_not, ← length_validScores rewards] at h
  simp only [countGroup, if_pos h]

theorem zeroVarianceGroups_of_not_counted {uid : U}
    (h : ¬ Counted sqrt epsilon rewards uids validMask GroupCounts.zeroVarianceGroups uid)
    (counts : GroupCounts) :
    (countGroup sqrt rewards uids validMask epsilon counts uid).zeroVarianceGroups =
      counts.zeroVarianceGroups := by
  rw [counted_zeroVarianceGroups_iff, ← length_validScores rewards, not_and, not_lt] at h
  simp only [countGroup]
  split
  · rfl
  · rename_i hlength
    rw [if_neg (h (not_lt.mp hlength))]

open Classical in
/-- A counter that grows in no round but those that count counts these rounds. -/
theorem counter_foldl {counter : GroupCounts → ℕ}
    (hother : ∀ uid, ¬ Counted sqrt epsilon rewards uids validMask counter uid → ∀ counts,
      counter (countGroup sqrt rewards uids validMask epsilon counts uid) = counter counts)
    (labels : List U) (counts : GroupCounts) :
    counter (labels.foldl (countGroup sqrt rewards uids validMask epsilon) counts) =
      counter counts +
        labels.countP fun uid => Counted sqrt epsilon rewards uids validMask counter uid := by
  induction labels generalizing counts with
  | nil => rfl
  | cons uid labels ih =>
      rw [List.foldl_cons, ih, List.countP_cons]
      by_cases hcounted : Counted sqrt epsilon rewards uids validMask counter uid
      · rw [hcounted counts, if_pos (decide_eq_true hcounted)]
        omega
      · rw [hother uid hcounted counts, if_neg (by simpa using hcounted)]
        omega

open Classical in
/-- The counters of the metrics are the numbers of the groups that are counted. -/
theorem groupCounts_eq_countP :
    (groupCounts sqrt rewards uids validMask epsilon).droppedGroups =
        (npUnique uids).countP (fun uid =>
          Counted sqrt epsilon rewards uids validMask GroupCounts.droppedGroups uid) ∧
      (groupCounts sqrt rewards uids validMask epsilon).effectiveGroups =
        (npUnique uids).countP (fun uid =>
          Counted sqrt epsilon rewards uids validMask GroupCounts.effectiveGroups uid) ∧
      (groupCounts sqrt rewards uids validMask epsilon).zeroVarianceGroups =
        (npUnique uids).countP (fun uid =>
          Counted sqrt epsilon rewards uids validMask GroupCounts.zeroVarianceGroups uid) := by
  refine ⟨?_, ?_, ?_⟩
  · exact (counter_foldl sqrt epsilon rewards uids validMask (fun _ h =>
      droppedGroups_of_not_counted sqrt epsilon rewards uids validMask h) _ _).trans
        (Nat.zero_add _)
  · exact (counter_foldl sqrt epsilon rewards uids validMask (fun _ h =>
      effectiveGroups_of_not_counted sqrt epsilon rewards uids validMask h) _ _).trans
        (Nat.zero_add _)
  · exact (counter_foldl sqrt epsilon rewards uids validMask (fun _ h =>
      zeroVarianceGroups_of_not_counted sqrt epsilon rewards uids validMask h) _ _).trans
        (Nat.zero_add _)

/-! ## The signs of the scalars -/

section Signs

variable [IsStrictOrderedRing K]

variable {uids validMask}

end Signs

end SearchR1.RayTrainer
