import SearchR1.Library.JsonRoundTrip
import SearchR1.Model.ConvertFsdpToHf

/-! # What remains of the shards -/

namespace SearchR1.ConvertFsdpToHf

open PyText PyJson

variable {ρ : Type} (toBfloat16 : ρ → ρ)

/-! ## One shard -/

theorem get?_map_of_mem {ν : Type} {f : Text → Text} (g : Text → ν) {keys : List Text}
    (hnodup : (keys.map f).Nodup) {key : Text} (hkey : key ∈ keys) :
    Dict.get? (keys.map fun k => (f k, g k)) (f key) = some (g key) := by
  induction keys with
  | nil => cases hkey
  | cons k keys ih =>
      rw [List.map_cons, List.nodup_cons] at hnodup
      rw [List.map_cons, Dict.get?]
      rcases List.mem_cons.mp hkey with rfl | hkey
      · rw [if_pos rfl]
      · have hne : f k ≠ f key := fun h => hnodup.1 (h ▸ List.mem_map_of_mem hkey)
        rw [if_neg hne]
        exact ih hnodup.2 hkey

theorem mergeShard_eq_update (c : Checkpoint ρ) (rank : ℕ) (fullStateDict : StateDict ρ) :
    mergeShard toBfloat16 fullStateDict (c.shard rank) = Dict.update fullStateDict
      (c.keys.map fun key => (cleanKey key, (c.slice rank key).map toBfloat16)) := by
  rw [mergeShard, Checkpoint.shard, Dict.update, List.foldl_map, List.foldl_map]
  rfl

/-- A shard overwrites what was merged before it. -/
theorem get?_mergeShard (c : Checkpoint ρ) (rank : ℕ) (fullStateDict : StateDict ρ) {key : Text}
    (hkey : key ∈ c.keys) :
    Dict.get? (mergeShard toBfloat16 fullStateDict (c.shard rank)) (cleanKey key) =
      some ((c.slice rank key).map toBfloat16) := by
  have hnodup : (Dict.keys (c.keys.map fun key =>
      (cleanKey key, (c.slice rank key).map toBfloat16))).Nodup := by
    rw [Dict.keys, List.map_map]
    exact c.keys_nodup
  rw [mergeShard_eq_update, Dict.get?_update _ _ _ hnodup,
    get?_map_of_mem (fun key => (c.slice rank key).map toBfloat16) c.keys_nodup hkey]
  rfl

/-! ## The order of the files -/

/-- The rank whose file name sorts last. -/
def Checkpoint.IsLast (c : Checkpoint ρ) (rank : ℕ) : Prop :=
  rank < c.worldSize ∧ ∀ r < c.worldSize, c.fileName r ≤ c.fileName rank

theorem fileName_injective (c : Checkpoint ρ) {r r' : ℕ} (h : c.fileName r = c.fileName r') :
    r = r' := by
  rw [Checkpoint.fileName, Checkpoint.fileName, List.append_left_inj, List.append_right_inj] at h
  rw [← digitsValue_natText r, h, digitsValue_natText]

theorem Checkpoint.IsLast.unique {c : Checkpoint ρ} {r r' : ℕ} (h : c.IsLast r)
    (h' : c.IsLast r') : r = r' :=
  fileName_injective c (le_antisymm (h'.2 r h.1) (h.2 r' h'.1))

theorem exists_shardFiles {dir : Directory ρ} {c : Checkpoint ρ} (h : dir.Holds c) :
    ∃ earlier last, shardFiles dir = earlier ++ [c.fileName last] ∧ c.IsLast last := by
  have hperm : (shardFiles dir).Perm ((List.range c.worldSize).map c.fileName) :=
    (List.perm_insertionSort _ _).trans h.files
  have hsorted : (shardFiles dir).Pairwise (· ≤ ·) := List.pairwise_insertionSort _ _
  rcases List.eq_nil_or_concat (shardFiles dir) with hnil | ⟨earlier, f, hf⟩
  · rw [hnil, List.nil_perm, List.map_eq_nil_iff, List.range_eq_nil] at hperm
    exact absurd hperm (Nat.one_le_iff_ne_zero.mp c.worldSize_pos)
  · rw [List.concat_eq_append] at hf
    rw [hf] at hperm hsorted ⊢
    have hmem : f ∈ earlier ++ [f] := List.mem_append_right _ (List.mem_singleton.mpr rfl)
    obtain ⟨last, hlast, rfl⟩ := List.mem_map.mp (hperm.mem_iff.mp hmem)
    refine ⟨earlier, last, rfl, List.mem_range.mp hlast, ?_⟩
    intro r hr
    have hmem := hperm.mem_iff.mpr (List.mem_map_of_mem (List.mem_range.mpr hr))
    rcases List.mem_append.mp hmem with hmem | hmem
    · exact (List.pairwise_append.mp hsorted).2.2 _ hmem _ (List.mem_singleton.mpr rfl)
    · exact (List.mem_singleton.mp hmem).le

/-! ## The merged state dict -/

/-- The merged state dict has every original tensor, in the new type, under its clean name. -/
def Restores (c : Checkpoint ρ) (merged : StateDict ρ) : Prop :=
  ∀ key ∈ c.keys, Dict.get? merged (cleanKey key) = some ((c.tensor key).map toBfloat16)

/-- What is left is the shard of the rank whose file name sorts last. -/
theorem exists_convertFsdpToHf {dir : Directory ρ} {c : Checkpoint ρ} (h : dir.Holds c) :
    ∃ merged last, convertFsdpToHf toBfloat16 true dir = .ok merged ∧ c.IsLast last ∧
      ∀ key ∈ c.keys, Dict.get? merged (cleanKey key) =
        some ((c.slice last key).map toBfloat16) := by
  obtain ⟨earlier, last, hfiles, hlast⟩ := exists_shardFiles h
  refine ⟨mergeFiles toBfloat16 dir (shardFiles dir), last, ?_, hlast, ?_⟩
  · simp [convertFsdpToHf, hfiles]
  · intro key hkey
    rw [hfiles, mergeFiles, List.foldl_append, List.foldl_cons, List.foldl_nil, h.load last hlast.1]
    exact get?_mergeShard toBfloat16 c last _ hkey

/-- The original tensor is one of its slices exactly when the other slices are empty. -/
theorem map_tensor_eq_iff (c : Checkpoint ρ) {last : ℕ} (hlast : last < c.worldSize) (key : Text) :
    (c.slice last key).map toBfloat16 = (c.tensor key).map toBfloat16 ↔
      ∀ r < c.worldSize, r ≠ last → c.slice r key = [] := by
  obtain ⟨before, after, hsplit⟩ := List.append_of_mem (List.mem_range.mpr hlast)
  have hnodup := List.nodup_range (n := c.worldSize)
  rw [hsplit, List.nodup_middle, List.nodup_cons] at hnodup
  have htensor : c.tensor key = before.flatMap (c.slice · key) ++
      (c.slice last key ++ after.flatMap (c.slice · key)) := by
    rw [Checkpoint.tensor, hsplit, List.flatMap_append, List.flatMap_cons]
  have hmem : ∀ r, (r < c.worldSize ∧ r ≠ last) ↔ (r ∈ before ∨ r ∈ after) := by
    intro r
    have hne : r ∈ before ∨ r ∈ after → r ≠ last := by
      rintro hr rfl
      exact hnodup.1 (List.mem_append.mpr hr)
    rw [← List.mem_range, hsplit, List.mem_append, List.mem_cons]
    constructor
    · rintro ⟨hr | hr | hr, hr'⟩
      · exact .inl hr
      · exact absurd hr hr'
      · exact .inr hr
    · intro hr
      exact ⟨hr.imp_right .inr, hne hr⟩
  constructor
  · intro h r hr hne
    have hlen := congrArg List.length h
    rw [htensor] at hlen
    simp only [List.length_map, List.length_append] at hlen
    rcases (hmem r).mp ⟨hr, hne⟩ with hr | hr
    · have hnil := List.eq_nil_of_length_eq_zero (l := before.flatMap (c.slice · key)) (by omega)
      exact List.flatMap_eq_nil_iff.mp hnil r hr
    · have hnil := List.eq_nil_of_length_eq_zero (l := after.flatMap (c.slice · key)) (by omega)
      exact List.flatMap_eq_nil_iff.mp hnil r hr
  · intro h
    have hbefore : before.flatMap (c.slice · key) = [] := by
      rw [List.flatMap_eq_nil_iff]
      intro r hr
      have := (hmem r).mpr (.inl hr)
      exact h r this.1 this.2
    have hafter : after.flatMap (c.slice · key) = [] := by
      rw [List.flatMap_eq_nil_iff]
      intro r hr
      have := (hmem r).mpr (.inr hr)
      exact h r this.1 this.2
    rw [htensor, hbefore, hafter, List.nil_append, List.append_nil]

/-- Merging restores the tensors exactly when all their rows are in the shard of the rank whose
file name sorts last. -/
theorem restores_iff (dir : Directory ρ) (c : Checkpoint ρ) (h : dir.Holds c) :
    (∃ merged, convertFsdpToHf toBfloat16 true dir = .ok merged ∧
        Restores toBfloat16 c merged) ↔
      ∃ last, c.IsLast last ∧
        ∀ key ∈ c.keys, ∀ r < c.worldSize, r ≠ last → c.slice r key = [] := by
  obtain ⟨merged, last, hmerged, hlast, hget⟩ := exists_convertFsdpToHf toBfloat16 h
  have hiff : Restores toBfloat16 c merged ↔
      ∀ key ∈ c.keys, ∀ r < c.worldSize, r ≠ last → c.slice r key = [] := by
    constructor
    · intro hrestores key hkey
      rw [← map_tensor_eq_iff toBfloat16 c hlast.1, ← Option.some.injEq, ← hget key hkey]
      exact hrestores key hkey
    · intro hempty key hkey
      rw [hget key hkey, (map_tensor_eq_iff toBfloat16 c hlast.1 key).mpr (hempty key hkey)]
  constructor
  · rintro ⟨merged', hmerged', hrestores⟩
    obtain rfl : merged = merged' := by
      rw [hmerged] at hmerged'
      exact Except.ok.inj hmerged'
    exact ⟨last, hlast, hiff.mp hrestores⟩
  · rintro ⟨last', hlast', hempty⟩
    obtain rfl := hlast.unique hlast'
    exact ⟨merged, hmerged, hiff.mpr hempty⟩

/-! ## Two ranks with a row each -/

def twoRanks : Checkpoint ℕ where
  worldSize := 2
  worldSize_pos := by decide
  keys := [lit "_fsdp_wrapped_module.lm_head.weight"]
  slice rank _ := [rank]
  keys_nodup := by decide +kernel

def twoRanksDirectory : Directory ℕ where
  listing := [twoRanks.fileName 1, lit "huggingface", twoRanks.fileName 0]
  load f := if f = twoRanks.fileName 0 then twoRanks.shard 0 else twoRanks.shard 1

theorem holds_twoRanks : twoRanksDirectory.Holds twoRanks where
  files := by decide
  load rank hrank := by
    change rank < 2 at hrank
    have hne : twoRanks.fileName 1 ≠ twoRanks.fileName 0 := by decide
    obtain rfl | rfl : rank = 0 ∨ rank = 1 := by omega
    · simp [twoRanksDirectory]
    · simp [twoRanksDirectory, hne]

theorem restores_iff_twoRanks :
    (∃ merged, convertFsdpToHf id true twoRanksDirectory = .ok merged ∧
        Restores id twoRanks merged) ↔
      ∃ last, twoRanks.IsLast last ∧
        ∀ key ∈ twoRanks.keys, ∀ r < twoRanks.worldSize, r ≠ last → twoRanks.slice r key = [] :=
  restores_iff id twoRanksDirectory twoRanks holds_twoRanks

/-- The row of the first rank is lost. -/
theorem not_restores_twoRanks : twoRanksDirectory.Holds twoRanks ∧
    ¬ ∃ merged, convertFsdpToHf id true twoRanksDirectory = .ok merged ∧
      Restores id twoRanks merged := by
  refine ⟨holds_twoRanks, ?_⟩
  intro h
  rcases h with ⟨merged, hmerged, hrestores⟩
  have hlost : (convertFsdpToHf id true twoRanksDirectory).toOption =
      some [(lit "lm_head.weight", [1])] := by
    decide
  rw [hmerged] at hlost
  obtain rfl := Option.some.inj hlost
  have hget := hrestores _ (List.mem_singleton.mpr rfl)
  revert hget
  decide

end SearchR1.ConvertFsdpToHf
