import SearchR1.Model.V1Trainer
import SearchR1.Verification.Advantage.Isolation
import Mathlib.Data.List.NodupEquivFin

/-! # Sessions with one output -/

namespace SearchR1.V1Trainer

open PyText GroupStatistics RayTrainer CoreAlgos

/-! ## Final sessions -/

section FinalSessions

variable {n : ℕ}

theorem mem_keys_recordOutput (keys : Fin n → BatchKey) (d : Dict (Text × Text) (ℤ × Fin n))
    (i : Fin n) (k : Text × Text) :
    k ∈ (recordOutput keys d i).keys ↔ k ∈ d.keys ∨ k = (keys i).sessionKey := by
  unfold recordOutput
  split
  · rw [Dict.keys_set]
    split
    · rename_i hmem
      exact ⟨Or.inl, fun h => h.elim id fun hk => hk ▸ hmem⟩
    · rw [List.mem_append, List.mem_singleton]
  · rename_i hkeep
    have hmem : (keys i).sessionKey ∈ d.keys := by
      by_contra hnot
      rw [(Dict.get?_eq_none_iff d _).mpr hnot] at hkeep
      exact hkeep rfl
    exact ⟨Or.inl, fun h => h.elim id fun hk => hk ▸ hmem⟩

theorem mem_keys_foldl_recordOutput (keys : Fin n → BatchKey) (rows : List (Fin n))
    (d : Dict (Text × Text) (ℤ × Fin n)) (k : Text × Text) :
    k ∈ (rows.foldl (recordOutput keys) d).keys ↔
      k ∈ d.keys ∨ ∃ i ∈ rows, k = (keys i).sessionKey := by
  induction rows generalizing d with
  | nil => simp
  | cons i rows ih =>
      rw [List.foldl_cons, ih, mem_keys_recordOutput, or_assoc, List.exists_mem_cons_iff]

/-- Every row finds its session among the final ones. -/
theorem rowToLocalIndex_lt (keys : Fin n → BatchKey) (i : Fin n) :
    rowToLocalIndex keys i < (finalIndices keys).length := by
  have hmem : (keys i).sessionKey ∈ (finalSessions keys).keys := by
    rw [finalSessions, mem_keys_foldl_recordOutput]
    exact .inr ⟨i, List.mem_finRange i, rfl⟩
  have hlt := List.idxOf_lt_length_of_mem hmem
  simpa [rowToLocalIndex, finalIndices, Dict.keys] using hlt

/-- Every session has one output. -/
def OneOutputPerSession (keys : Fin n → BatchKey) : Prop :=
  Function.Injective fun i => (keys i).sessionKey

/-- The loop over rows of sessions not yet seen appends one item per row. -/
theorem foldl_recordOutput {keys : Fin n → BatchKey} (hkeys : OneOutputPerSession keys)
    (rows : List (Fin n)) (hrows : rows.Nodup) (d : Dict (Text × Text) (ℤ × Fin n))
    (hfresh : ∀ i ∈ rows, (keys i).sessionKey ∉ d.keys) :
    rows.foldl (recordOutput keys) d =
      d ++ rows.map fun i => ((keys i).sessionKey, ((keys i).index, i)) := by
  induction rows generalizing d with
  | nil => simp
  | cons i rows ih =>
      have hi := hfresh i List.mem_cons_self
      rw [List.nodup_cons] at hrows
      have hnone := (Dict.get?_eq_none_iff d _).mpr hi
      rw [List.foldl_cons, recordOutput, hnone, Option.all_none, if_pos rfl,
        Dict.set_of_not_mem d _ _ hi, ih hrows.2]
      · simp
      · intro j hj
        have hne : (keys j).sessionKey ≠ (keys i).sessionKey := by
          intro heq
          exact hrows.1 (hkeys heq ▸ hj)
        simp only [Dict.keys, List.map_append, List.map_cons, List.map_nil, List.mem_append,
          List.mem_singleton, not_or]
        exact ⟨hfresh j (List.mem_cons_of_mem _ hj), hne⟩

theorem finalSessions_eq {keys : Fin n → BatchKey} (hkeys : OneOutputPerSession keys) :
    finalSessions keys =
      (List.finRange n).map fun i => ((keys i).sessionKey, ((keys i).index, i)) := by
  rw [finalSessions, foldl_recordOutput hkeys _ (List.nodup_finRange n)]
  · simp
  · simp [Dict.keys]

theorem finalIndices_eq {keys : Fin n → BatchKey} (hkeys : OneOutputPerSession keys) :
    finalIndices keys = List.finRange n := by
  rw [finalIndices, finalSessions_eq hkeys, List.map_map]
  exact List.map_id _

theorem rowToLocalIndex_eq {keys : Fin n → BatchKey} (hkeys : OneOutputPerSession keys)
    (i : Fin n) : rowToLocalIndex keys i = i := by
  rw [rowToLocalIndex, finalSessions_eq hkeys, Dict.keys, List.map_map]
  have hnodup : ((List.finRange n).map fun i => (keys i).sessionKey).Nodup :=
    (List.nodup_finRange n).map hkeys
  have hget := hnodup.idxOf_getElem i (by simp)
  simpa [Function.comp_def] using hget

end FinalSessions

/-! ## Advantages -/

section Advantage

variable {K U : Type*} [Field K] [LinearOrder K] [LinearOrder U] {n P L : ℕ}

theorem mask_argmax [NeZero L] {mask : Fin L → Bool} {t : Fin L} (h : mask t = true) :
    mask (argmax mask) = true := by
  unfold argmax
  cases hfind : (List.finRange L).find? mask with
  | none =>
      have hnone := List.find?_eq_none.mp hfind t (List.mem_finRange t)
      exact absurd h hnone
  | some s => exact List.find?_some hfind

omit [LinearOrder K] in
theorem maskValue_argmax_mul [NeZero L] (mask : Fin L → Bool) (t : Fin L) :
    (maskValue mask (argmax mask) : K) * maskValue mask t = maskValue mask t := by
  by_cases h : mask t = true
  · simp [maskValue, h, mask_argmax h]
  · simp [maskValue, h]

theorem groupScalar_comp_equiv (sqrt : SquareRoot K) (epsilon : K) (normAdvByStdInGrpo : Bool)
    {m : ℕ} (e : Fin m ≃ Fin n) (index : Fin n → U) (validMask : Fin n → Bool)
    (scores : Fin n → K) (j : Fin m) :
    groupScalar sqrt epsilon normAdvByStdInGrpo (fun j => index (e j))
        (fun j => validMask (e j)) (fun j => scores (e j)) j =
      groupScalar sqrt epsilon normAdvByStdInGrpo index validMask scores (e j) := by
  let σ : {i // index i = index (e j)} ≃ {k // index (e k) = index (e j)} :=
    (e.subtypeEquiv fun k => Iff.rfl).symm
  have hσ : ∀ i, e (σ i).1 = i.1 := fun i => e.apply_symm_apply i.1
  have h : groupScalar sqrt epsilon normAdvByStdInGrpo (fun j => index (e j))
      (fun j => validMask (e j)) (fun j => scores (e j)) (σ ⟨e j, rfl⟩).1 =
        groupScalar sqrt epsilon normAdvByStdInGrpo index validMask scores (e j) :=
    groupScalar_of_equiv sqrt epsilon normAdvByStdInGrpo σ
      (fun i => congrArg validMask (hσ i)) (fun i => congrArg scores (hσ i)) ⟨e j, rfl⟩
  have hj : (σ ⟨e j, rfl⟩).1 = j := e.symm_apply_apply j
  rwa [hj] at h

/-- With one output per session the detour over final sessions changes nothing. -/
theorem computeAdvantageForMultiTrajectories_apply [NeZero L] (sqrt : SquareRoot K)
    (normAdvByStdInGrpo : Bool) (data : StepData U K n L) {keys : Fin n → BatchKey}
    (hkeys : OneOutputPerSession keys) (i : Fin n) (t : Fin L) :
    computeAdvantageForMultiTrajectories sqrt normAdvByStdInGrpo data keys i t =
      groupScalar sqrt defaultEpsilon normAdvByStdInGrpo data.uid
        (data.validSampleMask.getD fun _ => true) (sequenceScores data.tokenLevelRewards) i *
        maskValue (data.responseMask i) t := by
  have hlen : (finalIndices keys).length = n := by
    rw [finalIndices_eq hkeys, List.length_finRange]
  have hnodup : (finalIndices keys).Nodup := finalIndices_eq hkeys ▸ List.nodup_finRange n
  have hall : ∀ i, i ∈ finalIndices keys := fun i => finalIndices_eq hkeys ▸ List.mem_finRange i
  let e := hnodup.getEquivOfForallMemList _ hall
  let j : Fin (finalIndices keys).length := ⟨i, hlen.symm ▸ i.isLt⟩
  have hj : e j = i := by
    change (finalIndices keys).get j = i
    simp [j, finalIndices_eq hkeys]
  have hscalar := groupScalar_comp_equiv sqrt defaultEpsilon normAdvByStdInGrpo e data.uid
    (data.validSampleMask.getD fun _ => true) (sequenceScores data.tokenLevelRewards) j
  have hvalid : ((data.selectIdxs (finalIndices keys)).validSampleMask.getD fun _ => true) =
      fun j => (data.validSampleMask.getD fun _ => true) (e j) := by
    cases hmask : data.validSampleMask with
    | none => simp [StepData.selectIdxs, hmask]
    | some mask =>
        simp only [StepData.selectIdxs, hmask, Option.map_some, Option.getD_some]
        rfl
  have hrow : (data.selectIdxs (finalIndices keys)).responseMask j = data.responseMask i :=
    congrArg data.responseMask hj
  have hrewards : sequenceScores (data.selectIdxs (finalIndices keys)).tokenLevelRewards =
      fun j => sequenceScores data.tokenLevelRewards (e j) := rfl
  rw [hj] at hscalar
  unfold computeAdvantageForMultiTrajectories
  rw [rowToLocalIndex_eq hkeys, List.getD_eq_getElem?_getD, List.getElem?_map,
    List.getElem?_eq_getElem (by simp [hlen]), Option.map_some, Option.getD_some,
    List.getElem_finRange]
  change computeAdvantage _ _ _ _ _ _ j (argmax ((data.selectIdxs _).responseMask j)) * _ = _
  rw [computeAdvantage, computeGrpoOutcomeAdvantage_apply, hvalid, hrewards, hrow, mul_assoc,
    maskValue_argmax_mul]
  exact congrArg (· * maskValue (data.responseMask i) t) hscalar

end Advantage

end SearchR1.V1Trainer
