import SearchR1.Model.TrajectoryFilter
import Mathlib.Data.List.Nodup

/-! # When a trajectory is masked -/

namespace SearchR1.TrajectoryFilter

open PyText AnomalyType

theorem mem_flag {p : Prop} [Decidable p] (a b : AnomalyType) :
    a ∈ (if p then [b] else []) ↔ p ∧ a = b := by
  split <;> simp_all

theorem mem_detectToolAnomalies (a : AnomalyType) (toolMetrics : ToolMetrics) :
    a ∈ detectToolAnomalies toolMetrics ↔
      (isPositive toolMetrics.searchTimeout = true ∧ a = toolTimeout) ∨
      (toolMetrics.searchExceptionType = some (lit "http_error") ∧ a = toolHttpError) ∨
      (toolMetrics.searchExceptionType = some (lit "parse_error") ∧ a = toolParseError) ∨
      (isPositive toolMetrics.searchResponseTruncated = true ∧ a = toolResponseTruncated) := by
  simp only [detectToolAnomalies, List.mem_append, mem_flag, or_assoc]

theorem mem_detectRolloutAnomalies (a : AnomalyType) (responseLength maxResponseLength
    numToolCalls maxToolCalls : ℤ) :
    a ∈ detectRolloutAnomalies responseLength maxResponseLength numToolCalls maxToolCalls ↔
      (maxResponseLength ≤ responseLength ∧ a = sequenceTruncated) ∨
      (maxToolCalls < numToolCalls ∧ a = maxToolCallsExceeded) := by
  simp only [detectRolloutAnomalies, List.mem_append, mem_flag, ge_iff_le, gt_iff_lt]

/-- The format of the answer is a matter for the reward alone. -/
theorem not_mem_defaultMaskOn_of_format {a : AnomalyType} {hasAnswer hasValidFormat
    answerCorrect : Bool}
    (h : a ∈ detectFormatAnomalies hasAnswer hasValidFormat answerCorrect) :
    a ∉ defaultMaskOn := by
  revert a
  cases hasAnswer <;> cases hasValidFormat <;> cases answerCorrect <;> decide

theorem sequenceTruncated_mem_iff (cfg : Config) (traj : Trajectory) :
    sequenceTruncated ∈ (classifyTrajectory cfg traj).2 ↔
      traj.maxResponseLength ≤ traj.responseLength := by
  have hformat : sequenceTruncated ∉
      detectFormatAnomalies traj.hasAnswer traj.hasValidFormat traj.answerCorrect := fun h =>
    not_mem_defaultMaskOn_of_format h (by decide)
  simp [classifyTrajectory, mem_detectToolAnomalies, mem_detectRolloutAnomalies, hformat]

/-! ## Distinct anomalies -/

theorem value_injective : Function.Injective AnomalyType.value := by
  have hmem : ∀ a : AnomalyType, a ∈ anomalyTypes := by
    intro a
    cases a <;> decide
  have hnodup : (anomalyTypes.map AnomalyType.value).Nodup := by decide
  intro a b hab
  exact List.inj_on_of_nodup_map hnodup (hmem a) (hmem b) hab

theorem flag_sublist {p : Prop} [Decidable p] (a : AnomalyType) :
    (if p then [a] else []).Sublist [a] := by
  split
  · exact List.Sublist.refl _
  · exact List.nil_sublist _

theorem detectFormatAnomalies_sublist (hasAnswer hasValidFormat answerCorrect : Bool) :
    (detectFormatAnomalies hasAnswer hasValidFormat answerCorrect).Sublist
      [noFinalAnswer, wrongAnswer, invalidAnswerFormat] := by
  cases hasAnswer <;> cases hasValidFormat <;> cases answerCorrect <;> decide

/-- No anomaly is reported twice. -/
theorem nodup_classifyTrajectory (cfg : Config) (traj : Trajectory) :
    (classifyTrajectory cfg traj).2.Nodup := by
  have htool : (detectToolAnomalies traj.toolMetrics).Sublist
      ([toolTimeout] ++ [toolHttpError] ++ [toolParseError] ++ [toolResponseTruncated]) :=
    (((flag_sublist _).append (flag_sublist _)).append (flag_sublist _)).append (flag_sublist _)
  have hrollout : (detectRolloutAnomalies traj.responseLength traj.maxResponseLength
      traj.numToolCalls cfg.maxToolCalls).Sublist ([sequenceTruncated] ++ [maxToolCallsExceeded]) :=
    (flag_sublist _).append (flag_sublist _)
  have hformat := detectFormatAnomalies_sublist traj.hasAnswer traj.hasValidFormat
    traj.answerCorrect
  exact ((htool.append hrollout).append hformat).nodup (by decide)

/-! ## Masks -/

theorem classifyTrajectory_masked_iff {cfg : Config} (hcfg : cfg.maskOn = none)
    (traj : Trajectory) :
    (classifyTrajectory cfg traj).1 = true ↔
      ∃ a ∈ (classifyTrajectory cfg traj).2, a ∈ defaultMaskOn := by
  simp only [classifyTrajectory, List.any_eq_true, Config.effectiveMaskOn, hcfg,
    List.contains_iff_mem]

/-- With the default anomalies a trajectory is masked for what the tools or the rollout engine
did, whatever the model wrote. -/
theorem classifyTrajectory_default {cfg : Config} (hcfg : cfg.maskOn = none) (traj : Trajectory) :
    (classifyTrajectory cfg traj).1 = true ↔
      isPositive traj.toolMetrics.searchTimeout = true ∨
      traj.toolMetrics.searchExceptionType = some (lit "http_error") ∨
      traj.toolMetrics.searchExceptionType = some (lit "parse_error") ∨
      traj.maxResponseLength ≤ traj.responseLength := by
  rw [classifyTrajectory_masked_iff hcfg]
  simp only [classifyTrajectory, List.mem_append, mem_detectToolAnomalies,
    mem_detectRolloutAnomalies]
  constructor
  · rintro ⟨a, (hrollout | hformat), hmask⟩
    · rcases hrollout with (⟨h, -⟩ | ⟨h, -⟩ | ⟨h, -⟩ | ⟨-, rfl⟩) | ⟨h, -⟩ | ⟨-, rfl⟩
      · exact .inl h
      · exact .inr (.inl h)
      · exact .inr (.inr (.inl h))
      · exact absurd hmask (by decide)
      · exact .inr (.inr (.inr h))
      · exact absurd hmask (by decide)
    · exact absurd hmask (not_mem_defaultMaskOn_of_format hformat)
  · rintro (h | h | h | h)
    · exact ⟨toolTimeout, .inl (.inl (.inl ⟨h, rfl⟩)), by decide⟩
    · exact ⟨toolHttpError, .inl (.inl (.inr (.inl ⟨h, rfl⟩))), by decide⟩
    · exact ⟨toolParseError, .inl (.inl (.inr (.inr (.inl ⟨h, rfl⟩)))), by decide⟩
    · exact ⟨sequenceTruncated, .inl (.inr (.inl ⟨h, rfl⟩)), by decide⟩

end SearchR1.TrajectoryFilter
