import SearchR1.Library.Quantiles
import SearchR1.Verification.Filtering.LoggedMetrics

/-! # The logged quantiles of the search latencies -/

namespace SearchR1.TrajectoryMetrics

open PyText TrajectoryFilter Quantiles

/-- The indices at which sorted latencies are read. -/
structure IndicesInBounds (nLat : ℕ) : Prop where
  p50 : nLat / 2 < nLat
  p95 : p95Index nLat < nLat
  max : nLat - 1 < nLat

/-- What the logged numbers say about the latencies. -/
structure Summarizes (latencies : List ℚ) (mean p50 p95 max : ℚ) : Prop where
  half_le_p50 : latencies.length ≤ 2 * latencies.countP (· ≤ p50)
  p50_le_half : latencies.length ≤ 2 * latencies.countP (p50 ≤ ·)
  most_le_p95 : 95 * latencies.length ≤ 100 * latencies.countP (· ≤ p95)
  p50_le_p95 : p50 ≤ p95
  p95_le_max : p95 ≤ max
  isGreatest : max ∈ latencies ∧ ∀ x ∈ latencies, x ≤ max
  mean_eq : mean = latencies.sum / latencies.length
  mean_le_max : mean ≤ max
  min_le_mean : ∃ min ∈ latencies, (∀ x ∈ latencies, min ≤ x) ∧ min ≤ mean

theorem indicesInBounds {nLat : ℕ} (h : 0 < nLat) : IndicesInBounds nLat := by
  obtain ⟨-, hp95⟩ := p95Index_mem h
  exact ⟨by omega, by omega, by omega⟩

theorem Summarizes.perm {xs ys : List ℚ} {mean p50 p95 max : ℚ} (h : Summarizes xs mean p50 p95 max)
    (hperm : xs.Perm ys) : Summarizes ys mean p50 p95 max where
  half_le_p50 := by rw [← hperm.length_eq, ← hperm.countP_eq]; exact h.half_le_p50
  p50_le_half := by rw [← hperm.length_eq, ← hperm.countP_eq]; exact h.p50_le_half
  most_le_p95 := by rw [← hperm.length_eq, ← hperm.countP_eq]; exact h.most_le_p95
  p50_le_p95 := h.p50_le_p95
  p95_le_max := h.p95_le_max
  isGreatest := by simpa only [hperm.mem_iff] using h.isGreatest
  mean_eq := by rw [← hperm.length_eq, ← hperm.sum_eq]; exact h.mean_eq
  mean_le_max := h.mean_le_max
  min_le_mean := by simpa only [hperm.mem_iff] using h.min_le_mean

/-- Sorted latencies are summarized by their items at the three indices. -/
theorem summarizes_of_sorted {ys : List ℚ} (hne : ys ≠ []) (h : ys.Pairwise (· ≤ ·))
    (hp50 : ys.length / 2 < ys.length) (hp95 : p95Index ys.length < ys.length)
    (hmax : ys.length - 1 < ys.length) :
    Summarizes ys (ys.sum / ys.length) ys[ys.length / 2] ys[p95Index ys.length]
      ys[ys.length - 1] := by
  have hpos : 0 < ys.length := by omega
  obtain ⟨hmiddle, hlast⟩ := p95Index_mem hpos
  have hgreatest : ∀ x ∈ ys, x ≤ ys[ys.length - 1] := by
    intro x hx
    apply le_getElem_of_mem_take h hmax
    rwa [List.take_of_length_le (by omega)]
  have hleast : ∀ x ∈ ys, ys[0] ≤ x := by
    intro x hx
    exact getElem_le_of_mem_drop h hpos hx
  refine ⟨?_, ?_, ?_, ?_, ?_, ⟨List.getElem_mem _, hgreatest⟩, rfl, mean_le hne hgreatest,
    ys[0], List.getElem_mem _, hleast, le_mean hne hleast⟩
  · have hcount := lt_countP_le h hp50
    omega
  · have hcount := length_sub_le_countP h hp50
    omega
  · have hcount := lt_countP_le h hp95
    -- the rounded-down product leaves less than one item out, the clamp none
    have hindex : 95 * ys.length ≤ 100 * (p95Index ys.length + 1) := by
      rw [p95Index]
      omega
    omega
  · exact h.rel_get_of_le (a := ⟨_, hp50⟩) (b := ⟨_, hp95⟩) hmiddle
  · exact h.rel_get_of_le (a := ⟨_, hp95⟩) (b := ⟨_, hmax⟩) hlast

theorem perm_of_sorted (sort : FloatSort) {latencies ys : List ℚ}
    (h : sort.sorted (latencies.map some) = ys.map some) : ys.Perm latencies := by
  have hperm := sort.perm (latencies.map some)
  rw [h] at hperm
  exact (List.map_perm_map_iff (Option.some_injective ℚ)).mp hperm

theorem getD_map_some {ys : List ℚ} {i : ℕ} (hi : i < ys.length) :
    (ys.map some).getD i none = some ys[i] := by
  simp [List.getD_eq_getElem?_getD, hi]

/-- The logged mean, median, 95th percentile and maximum of the latencies, for every way to sort
them and whatever else is logged. -/
theorem aggregateTrajectoryMetrics_latencies (sort : FloatSort)
    {allAnomalies : List (List AnomalyType)} (hne : allAnomalies ≠ [])
    (allValidFlags allMaskedFlags toolSuccessFlags : List Bool)
    (numTurnsList searchCallsList : List ℤ) (rewards : List ℚ) {latencies : List ℚ}
    (h : latencies ≠ []) :
    IndicesInBounds (sort.sorted (latencies.map some)).length ∧
      ∃ mean p50 p95 max, Summarizes latencies mean p50 p95 max ∧
        ∀ item ∈ [(lit "tool/search_latency_ms_mean", some mean),
            (lit "tool/search_latency_ms_p50", some p50),
            (lit "tool/search_latency_ms_p95", some p95),
            (lit "tool/search_latency_ms_max", some max)],
          (aggregateTrajectoryMetrics sort allAnomalies allValidFlags allMaskedFlags
            (latencies.map some) toolSuccessFlags numTurnsList searchCallsList rewards).get?
              item.1 = some item.2 := by
  obtain ⟨ys, hsorted, hordered⟩ := sort.ordered latencies
  have hperm : ys.Perm latencies := perm_of_sorted sort hsorted
  have hys : ys ≠ [] := fun hnil => h (List.nil_perm.mp (hnil ▸ hperm))
  have hbounds := indicesInBounds (List.length_pos_iff.mpr hys)
  have hlatency := latencyMetrics_map_some sort h hsorted
  rw [Averages.mean_map_some, getD_map_some hbounds.p50, getD_map_some hbounds.p95,
    getD_map_some hbounds.max] at hlatency
  rw [hsorted, List.length_map]
  refine ⟨hbounds, _, _, _, _,
    (summarizes_of_sorted hys hordered hbounds.p50 hbounds.p95 hbounds.max).perm hperm, ?_⟩
  intro item hitem
  rw [aggregateTrajectoryMetrics_eq hne]
  apply Dict.get?_of_mem (keys_assignments.nodup nodup_metricsKeys)
  apply List.mem_append_right
  apply List.mem_append_left
  rw [hlatency]
  exact List.mem_append_left [_] hitem

/-- Three latencies with a tie. -/
theorem latencies_tie :
    IndicesInBounds (AgentLoop.floatSort.sorted ([7, 2, 7].map some)).length ∧
      ∃ mean p50 p95 max, Summarizes [7, 2, 7] mean p50 p95 max ∧
        ∀ item ∈ [(lit "tool/search_latency_ms_mean", some mean),
            (lit "tool/search_latency_ms_p50", some p50),
            (lit "tool/search_latency_ms_p95", some p95),
            (lit "tool/search_latency_ms_max", some max)],
          (aggregateTrajectoryMetrics AgentLoop.floatSort [[]] [true] [false]
            ([7, 2, 7].map some) [] [] [] []).get? item.1 = some item.2 :=
  aggregateTrajectoryMetrics_latencies AgentLoop.floatSort (by simp) [true] [false] [] [] [] []
    (by simp)

end SearchR1.TrajectoryMetrics
