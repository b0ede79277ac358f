import SearchR1.Model.RayTrainer
import SearchR1.Verification.Advantage.Isolation

/-! # The row mask and the filter of groups -/

namespace SearchR1.RayTrainer

open PyText TrajectoryFilter CoreAlgos GroupStatistics IndexLoop

/-! ## The indices of a group -/

theorem mem_splitIndices (cfg : TrajectoryFilter.Config) (group : List Trajectory)
    (masked : Bool) (k : ℕ) :
    k ∈ splitIndices cfg group masked ↔
      ∃ traj, group[k]? = some traj ∧ (classifyTrajectory cfg traj).1 = masked := by
  rw [splitIndices, List.mem_map]
  constructor
  · intro h
    rcases h with ⟨p, hp, hk⟩
    rw [List.mem_filter, List.mem_zipIdx_iff_getElem?, hk] at hp
    exact ⟨p.1, hp.1, of_decide_eq_true hp.2⟩
  · intro h
    rcases h with ⟨traj, htraj, hmasked⟩
    refine ⟨(traj, k), ?_, rfl⟩
    rw [List.mem_filter, List.mem_zipIdx_iff_getElem?]
    exact ⟨htraj, decide_eq_true hmasked⟩

theorem length_splitIndices (cfg : TrajectoryFilter.Config) (group : List Trajectory)
    (masked : Bool) :
    (splitIndices cfg group masked).length =
      group.countP fun traj => (classifyTrajectory cfg traj).1 = masked := by
  have hcount : (group.zipIdx.map Prod.fst).countP
      (fun traj => decide ((classifyTrajectory cfg traj).1 = masked)) =
      group.countP fun traj => (classifyTrajectory cfg traj).1 = masked := by
    rw [List.zipIdx_map_fst]
  rw [splitIndices, List.length_map, ← List.countP_eq_length_filter, ← hcount, List.countP_map]
  rfl

/-- The filter masks a whole group or the members that are masked on their own. -/
theorem mem_maskedIndices (cfg : TrajectoryFilter.Config) (group : List Trajectory) (k : ℕ) :
    k ∈ (filterGroup cfg group).maskedIndices ↔
      ∃ traj, group[k]? = some traj ∧
        ((splitIndices cfg group false).length < cfg.minValidTrajectories ∨
          (classifyTrajectory cfg traj).1 = true) := by
  unfold filterGroup
  by_cases hskip : (splitIndices cfg group false).length < cfg.minValidTrajectories
  · simp only [hskip, ite_true, List.mem_range, true_or, and_true]
    rw [← Option.isSome_iff_exists]
    simp
  · simp only [hskip, ite_false, mem_splitIndices, false_or]

/-! ## The rows of a batch by group -/

section Rows

variable {U : Type*} {n P L : ℕ}

/-- What `classify_trajectory` says about a row. -/
def mustMask (batch : Batch U n P L) (maxResponseLength : ℤ) (i : Fin n) : Bool :=
  (classifyTrajectory trajectoryFilter (rowTrajectory batch maxResponseLength i)).1

theorem validSampleMask_eq_false_iff (batch : Batch U n P L) (maxResponseLength : ℤ)
    (i : Fin n) :
    (buildTrajectoryFilterOutputs batch maxResponseLength).validSampleMask i = false ↔
      mustMask batch maxResponseLength i = true := by
  simp [buildTrajectoryFilterOutputs, mustMask]

variable [LinearOrder U]

/-- The trajectories of a uid group, in batch order. -/
def groupTrajectories (batch : Batch U n P L) (maxResponseLength : ℤ) (uid : U) :
    List Trajectory :=
  (npWhere batch.uid uid).map (rowTrajectory batch maxResponseLength)

/-- The rows that `filter_group` masks when it runs on each uid group. -/
def GroupMasked (batch : Batch U n P L) (maxResponseLength : ℤ) (i : Fin n) : Prop :=
  ∃ k ∈ (filterGroup trajectoryFilter
      (groupTrajectories batch maxResponseLength (batch.uid i))).maskedIndices,
    (npWhere batch.uid (batch.uid i))[k]? = some i

/-- The number of trajectories of a group that are not masked. -/
def validCount (batch : Batch U n P L) (maxResponseLength : ℤ) (uid : U) : ℕ :=
  (Finset.univ.filter fun j => batch.uid j = uid ∧ !mustMask batch maxResponseLength j).card

theorem validCount_pos_iff (batch : Batch U n P L) (maxResponseLength : ℤ) (uid : U) :
    0 < validCount batch maxResponseLength uid ↔
      ∃ i, batch.uid i = uid ∧ mustMask batch maxResponseLength i = false := by
  rw [validCount, Finset.card_pos, Finset.filter_nonempty_iff]
  simp

theorem length_splitIndices_groupTrajectories (batch : Batch U n P L) (maxResponseLength : ℤ)
    (uid : U) : (splitIndices trajectoryFilter
      (groupTrajectories batch maxResponseLength uid) false).length =
      validCount batch maxResponseLength uid := by
  have hvalues := congrArg Multiset.card (coe_gather_npWhere batch.uid
    (fun i => !mustMask batch maxResponseLength i) id uid)
  rw [card_groupValues, Multiset.coe_card, gather, List.length_map] at hvalues
  rw [length_splitIndices, groupTrajectories, List.countP_map, validCount, ← hvalues,
    ← List.countP_eq_length_filter]
  apply List.countP_congr
  intro i _
  simp [mustMask]

theorem groupMasked_iff (batch : Batch U n P L) (maxResponseLength : ℤ) (i : Fin n) :
    GroupMasked batch maxResponseLength i ↔
      validCount batch maxResponseLength (batch.uid i) < 2 ∨
        mustMask batch maxResponseLength i = true := by
  have hmem : i ∈ npWhere batch.uid (batch.uid i) := (mem_npWhere batch.uid _ i).mpr rfl
  have hmin : trajectoryFilter.minValidTrajectories = 2 := rfl
  constructor
  · rintro ⟨k, hk, hi⟩
    rw [mem_maskedIndices, length_splitIndices_groupTrajectories, hmin] at hk
    rcases hk with ⟨traj, htraj, hmasked⟩
    rw [groupTrajectories, List.getElem?_map, hi, Option.map_some, Option.some_inj] at htraj
    subst htraj
    exact hmasked.imp_left (by omega)
  · intro h
    rcases List.mem_iff_getElem?.mp hmem with ⟨k, hk⟩
    refine ⟨k, ?_, hk⟩
    rw [mem_maskedIndices, length_splitIndices_groupTrajectories, hmin]
    refine ⟨rowTrajectory batch maxResponseLength i, ?_, h.imp_left (by omega)⟩
    rw [groupTrajectories, List.getElem?_map, hk, Option.map_some]

/-! ## Agreement -/

/-- The rows whose response mask a step of `fit` zeroes are the rows the group filter masks,
and a group with fewer than two valid rows keeps no token. -/
def RefinesGroupFilter (batch : Batch U n P L) (maxResponseLength : ℤ) : Prop :=
  let validSampleMask := (buildTrajectoryFilterOutputs batch maxResponseLength).validSampleMask
  (∀ i, validSampleMask i = false ↔ GroupMasked batch maxResponseLength i) ∧
    ∀ i, validCount batch maxResponseLength (batch.uid i) < 2 →
      ∀ t, zeroInvalid validSampleMask batch.responseMask i t = false

/-- The row mask knows nothing of the minimum per group: the two filters agree exactly when no
group has a lone valid row. -/
theorem refinesGroupFilter_iff (batch : Batch U n P L) (maxResponseLength : ℤ) :
    RefinesGroupFilter batch maxResponseLength ↔
      ∀ i, validCount batch maxResponseLength (batch.uid i) ≠ 1 := by
  constructor
  · intro h i hone
    have hpos : 0 < validCount batch maxResponseLength (batch.uid i) := by omega
    rcases (validCount_pos_iff batch maxResponseLength _).mp hpos with ⟨j, huid, hj⟩
    have hmasked : GroupMasked batch maxResponseLength j := by
      rw [groupMasked_iff, huid]
      left
      omega
    have hfalse := (validSampleMask_eq_false_iff batch maxResponseLength j).mp ((h.1 j).mpr hmasked)
    rw [hj] at hfalse
    cases hfalse
  · intro h
    have hlone : ∀ i, validCount batch maxResponseLength (batch.uid i) < 2 →
        mustMask batch maxResponseLength i = true := by
      intro i hi
      by_contra hvalid
      have hpos := (validCount_pos_iff batch maxResponseLength (batch.uid i)).mpr
        ⟨i, rfl, by simpa using hvalid⟩
      have hne := h i
      omega
    constructor
    · intro i
      rw [validSampleMask_eq_false_iff, groupMasked_iff]
      exact ⟨Or.inr, fun hi => hi.elim (hlone i) id⟩
    · intro i hi t
      have hmask := (validSampleMask_eq_false_iff batch maxResponseLength i).mpr (hlone i hi)
      simp [zeroInvalid, hmask]

end Rows

/-- A group of two rows of which the second timed out. -/
def loneValidBatch : Batch ℕ 2 1 2 where
  uid _ := 0
  attentionMask _ t := t.val < 2
  responseMask _ t := t.val < 1
  searchTimeout := some fun i => some i.val
  searchExceptionType := some fun i => some (if i = 0 then lit "none" else lit "timeout")
  searchResponseTruncated := some fun _ => some 0
  numSearchCalls := some fun _ => 1
  hasFinalAnswer := some fun _ => 1
  answerEm := some fun _ => 1

theorem not_refinesGroupFilter_loneValidBatch : ¬ RefinesGroupFilter loneValidBatch 2 := by
  intro h
  have hcount : validCount loneValidBatch 2 0 = 1 := by decide
  have hmask : zeroInvalid (buildTrajectoryFilterOutputs loneValidBatch 2).validSampleMask
      loneValidBatch.responseMask 0 0 = true := by decide
  have hzero := h.2 0 (by rw [show loneValidBatch.uid 0 = 0 from rfl, hcount]; decide) 0
  rw [hmask] at hzero
  cases hzero

end SearchR1.RayTrainer
