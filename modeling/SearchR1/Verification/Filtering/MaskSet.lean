import SearchR1.Verification.Filtering.Classification
import SearchR1.Verification.Filtering.GroupFilter

/-! # The specification of the group filter -/

namespace SearchR1.TrajectoryFilter

open PyText AnomalyType RayTrainer

variable {cfg : Config} {group : List Trajectory}

/-! ## Hits -/

/-- An anomaly of the set was detected in the trajectory. -/
def Hits (maskOn anomalies : List AnomalyType) : Prop := ∃ a ∈ anomalies, a ∈ maskOn

instance decidableHits (maskOn anomalies : List AnomalyType) : Decidable (Hits maskOn anomalies) :=
  inferInstanceAs (Decidable (∃ a ∈ anomalies, a ∈ maskOn))

/-- The detected anomalies of a trajectory. -/
def detected (cfg : Config) (traj : Trajectory) : List AnomalyType :=
  (classifyTrajectory cfg traj).2

theorem not_hits_nil (anomalies : List AnomalyType) : ¬ Hits [] anomalies := by
  rintro ⟨a, -, ha⟩
  cases ha

theorem masked_iff_hits (cfg : Config) (traj : Trajectory) :
    (classifyTrajectory cfg traj).1 = true ↔ Hits cfg.effectiveMaskOn (detected cfg traj) := by
  simp only [classifyTrajectory, List.any_eq_true, List.contains_iff_mem, Hits, detected]

/-! ## The specification -/

/-- The trajectories of a group that have no anomaly of the set. -/
def cleanCount (maskOn : List AnomalyType) (cfg : Config) (group : List Trajectory) : ℕ :=
  group.countP fun traj => ¬ Hits maskOn (detected cfg traj)

/-- What the filter is to make of a group for a set of anomalies: two lists that split the
indices, by the anomalies where enough trajectories are left, and a report where not. -/
structure MeetsSpec (maskOn : List AnomalyType) (cfg : Config) (group : List Trajectory)
    (result : GroupResult) : Prop where
  increasing : result.validIndices.Pairwise (· < ·) ∧ result.maskedIndices.Pairwise (· < ·)
  disjoint : result.validIndices.Disjoint result.maskedIndices
  covers : ∀ k, k ∈ result.validIndices ∨ k ∈ result.maskedIndices ↔ k < group.length
  enough : cfg.minValidTrajectories ≤ cleanCount maskOn cfg group →
    (∀ k traj, group[k]? = some traj →
      (k ∈ result.maskedIndices ↔ Hits maskOn (detected cfg traj))) ∧
    result.skippedInfo = none
  tooFew : cleanCount maskOn cfg group < cfg.minValidTrajectories →
    result.maskedIndices = List.range group.length ∧
    ∃ info, result.skippedInfo = some info ∧ info.nTotal = group.length ∧
      info.nValid = cleanCount maskOn cfg group ∧
      info.nMasked = group.length - cleanCount maskOn cfg group ∧
      info.minRequired = cfg.minValidTrajectories
  onlyHits : result.skippedInfo = none → ∀ k traj, group[k]? = some traj →
    k ∈ result.maskedIndices → Hits maskOn (detected cfg traj)

/-- The specification sees a set through the trajectories it hits. -/
theorem MeetsSpec.congr {maskOn others : List AnomalyType} {result : GroupResult}
    (h : MeetsSpec maskOn cfg group result)
    (heq : ∀ traj ∈ group, Hits maskOn (detected cfg traj) ↔ Hits others (detected cfg traj)) :
    MeetsSpec others cfg group result := by
  have hclean : cleanCount others cfg group = cleanCount maskOn cfg group := by
    apply List.countP_congr
    intro traj htraj
    simp [heq traj htraj]
  have hmem : ∀ {k : ℕ} {traj : Trajectory}, group[k]? = some traj → traj ∈ group := fun hk =>
    List.mem_of_getElem? hk
  refine ⟨h.increasing, h.disjoint, h.covers, ?_, ?_, ?_⟩
  · intro henough
    obtain ⟨hmasked, hinfo⟩ := h.enough (hclean ▸ henough)
    refine ⟨?_, hinfo⟩
    intro k traj hk
    rw [hmasked k traj hk, heq traj (hmem hk)]
  · rw [hclean]
    exact h.tooFew
  · intro hinfo k traj hk hmasked
    exact (heq traj (hmem hk)).mp (h.onlyHits hinfo k traj hk hmasked)

/-! ## The filter -/

theorem pairwise_splitIndices (masked : Bool) :
    (splitIndices cfg group masked).Pairwise (· < ·) := by
  have hrange : (group.zipIdx.map Prod.snd).Pairwise (· < ·) := by
    rw [List.zipIdx_map_snd]
    exact List.pairwise_lt_range'
  exact hrange.sublist (List.filter_sublist.map Prod.snd)

theorem disjoint_splitIndices :
    (splitIndices cfg group false).Disjoint (splitIndices cfg group true) := by
  intro k hfalse htrue
  obtain ⟨traj, hk, hvalid⟩ := (mem_splitIndices cfg group false k).mp hfalse
  obtain ⟨traj', hk', hinvalid⟩ := (mem_splitIndices cfg group true k).mp htrue
  rw [hk] at hk'
  obtain rfl := Option.some.inj hk'
  rw [hvalid] at hinvalid
  cases hinvalid

/-- Every index of the group is in one of the two lists. -/
theorem mem_splitIndices_or_iff (k : ℕ) :
    k ∈ splitIndices cfg group false ∨ k ∈ splitIndices cfg group true ↔ k < group.length := by
  constructor
  · intro h
    rcases h with h | h
    · obtain ⟨traj, hk, -⟩ := (mem_splitIndices cfg group false k).mp h
      exact (List.getElem?_eq_some_iff.mp hk).1
    · obtain ⟨traj, hk, -⟩ := (mem_splitIndices cfg group true k).mp h
      exact (List.getElem?_eq_some_iff.mp hk).1
  · intro hk
    have hget := List.getElem?_eq_getElem hk
    cases hclass : (classifyTrajectory cfg group[k]).1 with
    | false => exact .inl ((mem_splitIndices cfg group false k).mpr ⟨_, hget, hclass⟩)
    | true => exact .inr ((mem_splitIndices cfg group true k).mpr ⟨_, hget, hclass⟩)

theorem mem_splitIndices_iff_hits {k : ℕ} {traj : Trajectory} (hk : group[k]? = some traj) :
    k ∈ splitIndices cfg group true ↔ Hits cfg.effectiveMaskOn (detected cfg traj) := by
  rw [mem_splitIndices, ← masked_iff_hits, hk]
  simp

theorem length_splitIndices_false :
    (splitIndices cfg group false).length = cleanCount cfg.effectiveMaskOn cfg group := by
  rw [length_splitIndices, cleanCount]
  apply List.countP_congr
  intro traj _
  rw [decide_eq_true_iff, decide_eq_true_iff, ← masked_iff_hits, Bool.not_eq_true]

theorem length_splitIndices_true : (splitIndices cfg group true).length =
    group.length - cleanCount cfg.effectiveMaskOn cfg group := by
  have hsplit := List.length_eq_countP_add_countP
    (fun traj => decide ((classifyTrajectory cfg traj).1 = true)) (l := group)
  have hfalse : group.countP (fun traj => decide ¬ (decide ((classifyTrajectory cfg traj).1 =
      true)) = true) = (splitIndices cfg group false).length := by
    rw [length_splitIndices]
    apply List.countP_congr
    intro traj _
    simp
  rw [← length_splitIndices_false, ← hfalse, length_splitIndices]
  omega

/-- The filter meets the specification for the set that it works with. -/
theorem filterGroup_meets (cfg : Config) (group : List Trajectory) :
    MeetsSpec cfg.effectiveMaskOn cfg group (filterGroup cfg group) := by
  rw [filterGroup]
  simp only [length_splitIndices_false, length_splitIndices_true]
  by_cases hskip : cleanCount cfg.effectiveMaskOn cfg group < cfg.minValidTrajectories
  · rw [if_pos hskip]
    refine ⟨⟨.nil, List.pairwise_lt_range⟩, List.disjoint_nil_left _, ?_, ?_, ?_, ?_⟩
    · intro k
      simp
    · exact fun henough => absurd hskip (not_lt.mpr henough)
    · exact fun _ => ⟨rfl, _, rfl, rfl, rfl, rfl, rfl⟩
    · exact fun hinfo => nomatch hinfo
  · rw [if_neg hskip]
    refine ⟨⟨pairwise_splitIndices false, pairwise_splitIndices true⟩, disjoint_splitIndices,
      mem_splitIndices_or_iff, ?_, ?_, ?_⟩
    · exact fun _ => ⟨fun k traj hk => mem_splitIndices_iff_hits hk, rfl⟩
    · exact fun hfew => absurd hfew hskip
    · exact fun _ k traj hk hmem => (mem_splitIndices_iff_hits hk).mp hmem

/-! ## The empty set -/

/-- A result that is right for no anomalies and for a set shows that the set hits nothing. -/
theorem not_hits_of_meetsSpec_nil {maskOn : List AnomalyType} {result : GroupResult}
    (hnil : MeetsSpec [] cfg group result) (h : MeetsSpec maskOn cfg group result) :
    ∀ traj ∈ group, ¬ Hits maskOn (detected cfg traj) := by
  have hall : cleanCount [] cfg group = group.length := by
    rw [cleanCount, List.countP_eq_length]
    intro traj _
    exact decide_eq_true (not_hits_nil _)
  cases hinfo : result.skippedInfo with
  | none =>
      intro traj htraj hhits
      obtain ⟨k, hk⟩ := List.mem_iff_getElem?.mp htraj
      have henough : cfg.minValidTrajectories ≤ cleanCount maskOn cfg group := by
        by_contra hfew
        obtain ⟨-, info, hsome, -⟩ := h.tooFew (not_le.mp hfew)
        rw [hinfo] at hsome
        cases hsome
      have hmasked := ((h.enough henough).1 k traj hk).mpr hhits
      exact not_hits_nil _ (hnil.onlyHits hinfo k traj hk hmasked)
  | some info =>
      have hfew : ∀ {others : List AnomalyType}, MeetsSpec others cfg group result →
          info.nValid = cleanCount others cfg group := by
        intro others hothers
        have hskip : cleanCount others cfg group < cfg.minValidTrajectories := by
          by_contra henough
          rw [(hothers.enough (not_lt.mp henough)).2] at hinfo
          cases hinfo
        obtain ⟨-, info', hsome, -, hvalid, -⟩ := hothers.tooFew hskip
        rw [hinfo] at hsome
        obtain rfl := Option.some.inj hsome
        exact hvalid
      have hcount := (hfew h).symm.trans ((hfew hnil).trans hall)
      rw [cleanCount, List.countP_eq_length] at hcount
      exact fun traj htraj => of_decide_eq_true (hcount traj htraj)

/-- The filter meets the specification for the set it is given, unless that set is empty: then
it must not find any anomaly of the default set. -/
theorem filterGroup_meets_iff (maskOn : List AnomalyType) (minValidTrajectories maxToolCalls : ℤ)
    (group : List Trajectory) :
    let cfg : Config := ⟨some maskOn, minValidTrajectories, maxToolCalls⟩
    MeetsSpec maskOn cfg group (filterGroup cfg group) ↔
      maskOn ≠ [] ∨ ∀ traj ∈ group, ¬ Hits defaultMaskOn (detected cfg traj) := by
  intro cfg
  have hmeets := filterGroup_meets cfg group
  by_cases hnil : maskOn = []
  · have heffective : cfg.effectiveMaskOn = defaultMaskOn := by
      simp [cfg, Config.effectiveMaskOn, hnil]
    rw [heffective] at hmeets
    subst hnil
    constructor
    · exact fun h => .inr (not_hits_of_meetsSpec_nil h hmeets)
    · intro h
      rcases h with h | h
      · exact absurd rfl h
      · exact hmeets.congr fun traj htraj =>
          iff_of_false (h traj htraj) (not_hits_nil _)
  · have heffective : cfg.effectiveMaskOn = maskOn := by
      simp [cfg, Config.effectiveMaskOn, hnil]
    rw [heffective] at hmeets
    exact iff_of_true hmeets (.inl hnil)

/-- A group in which one search timed out. -/
def timedOutGroup : List Trajectory :=
  [{ toolMetrics := { searchTimeout := some 1 } }, {}, {}]

/-- Told to mask nothing, the filter masks the timeout. -/
theorem not_meetsSpec_timedOutGroup :
    ¬ MeetsSpec [] ⟨some [], 2, 10⟩ timedOutGroup (filterGroup ⟨some [], 2, 10⟩ timedOutGroup) := by
  intro h
  have hinfo : (filterGroup ⟨some [], 2, 10⟩ timedOutGroup).skippedInfo = none :=
    Option.isNone_iff_eq_none.mp (by decide)
  have hmasked : 0 ∈ (filterGroup ⟨some [], 2, 10⟩ timedOutGroup).maskedIndices := by
    decide
  exact not_hits_nil _ (h.onlyHits hinfo 0 _ rfl hmasked)

end SearchR1.TrajectoryFilter
