import SearchR1.Verification.Balancing.Partitions

/-! # The data parallel ranks of a balanced batch -/

namespace SearchR1.RayTrainer

open SeqlenBalancing KarmarkarKarp List

variable {U : Type*} [DecidableEq U] {n P L : ℕ}

/-- What the ranks get when the batch is dispatched: equal chunks of the reordered rows. -/
def ranks (dpSize : ℕ) (indices : List (Fin n)) : List (List (Fin n)) :=
  Chunks.chunks (n / dpSize) dpSize indices

/-- The partitions are what the ranks get. -/
theorem ranks_flatten {dpSize : ℕ} {parts : List (List (Fin n))} (hlength : parts.length = dpSize)
    (hequal : ∀ part ∈ parts, part.length * dpSize = n) : ranks dpSize parts.flatten = parts := by
  subst hlength
  apply Chunks.chunks_flatten
  intro part hpart
  exact (Nat.div_eq_of_eq_mul_left (length_pos_of_mem hpart) (hequal part hpart).symm).symm

/-- The work a batch makes of each row. -/
def workloads (batch : Batch U n P L) (i : Fin n) : ℕ := calculateWorkload (globalSeqlenLst batch i)

/-- The ranks of a balanced batch are the partitions, each with its smaller loads at both ends. -/
theorem ranks_of_balanceBatch {dpSize : ℕ} {batch : Batch U n P L} {indices : List (Fin n)}
    (h : balanceBatch partitioner false dpSize batch = some indices) :
    ∃ partitions, KarmarkarKarp.getSeqlenBalancedPartitions (workloads batch) dpSize true =
        some partitions ∧
      ranks dpSize indices = partitions.map (orderPartition (workloads batch)) := by
  simp only [balanceBatch, Bool.false_eq_true, ite_false,
    getSeqlenBalancedPartitions_partitioner] at h
  rcases Option.map_eq_some_iff.mp h with ⟨partitions, hpartitions, rfl⟩
  have hspec := (partitionSpec_of_getSeqlenBalancedPartitions hpartitions
    (startBound_sum _ true)).2.1
  refine ⟨partitions, hpartitions, ?_⟩
  apply ranks_flatten
  · rw [length_map, hspec.length_eq]
  · intro part hpart
    rcases mem_map.mp hpart with ⟨partition, hpartition, rfl⟩
    rw [(orderPartition_perm _ partition).length_eq]
    exact hspec.equal rfl partition hpartition

/-- `_balance_batch` raises only when there are no rows or the ranks do not divide them. Every rank
gets equally many rows, every row goes to one rank, and the work of two ranks differs by no more
than the work of two rows. No other way to hand out the rows has a busiest rank below
`k / (2k - 1)` of it. -/
theorem balanceBatch_ranks (batch : Batch U n P L) (dpSize : ℕ) :
    ((balanceBatch partitioner false dpSize batch).isSome ↔
      0 < dpSize ∧ dpSize ≤ n ∧ dpSize ∣ n) ∧
    ∀ indices, balanceBatch partitioner false dpSize batch = some indices →
      (ranks dpSize indices).flatten ~ finRange n ∧
      (∀ rank ∈ ranks dpSize indices, rank.length * dpSize = n) ∧
      (∀ bound, (∀ i j, workloads batch i ≤ workloads batch j + bound) →
        ∀ rank ∈ ranks dpSize indices, ∀ rank' ∈ ranks dpSize indices,
          load (workloads batch) rank ≤ load (workloads batch) rank' + bound) ∧
      ∀ (assignment : Fin n → Fin dpSize) (most : ℕ),
        (∀ rank, ∑ i with assignment i = rank, workloads batch i ≤ most) →
        ∀ rank ∈ ranks dpSize indices,
          dpSize * load (workloads batch) rank ≤ (2 * dpSize - 1) * most := by
  constructor
  · have hsome : (balanceBatch partitioner false dpSize batch).isSome =
        (KarmarkarKarp.getSeqlenBalancedPartitions (workloads batch) dpSize true).isSome := by
      simp only [balanceBatch, Bool.false_eq_true, ite_false,
        getSeqlenBalancedPartitions_partitioner, Option.isSome_map]
      rfl
    rw [hsome, getSeqlenBalancedPartitions_isSome, ValidCall]
    simp only [forall_true_left]
  · intro indices h
    rcases ranks_of_balanceBatch h with ⟨partitions, hpartitions, hranks⟩
    have hspec := (partitionSpec_of_getSeqlenBalancedPartitions hpartitions
      (startBound_sum _ true)).2.1
    have horder := orderPartition_perm (workloads batch)
    rw [hranks]
    refine ⟨(flatten_map_perm horder partitions).trans hspec.perm, ?_, ?_, ?_⟩
    · rw [forall_mem_map]
      intro partition hpartition
      rw [(horder partition).length_eq, hspec.equal rfl partition hpartition]
    · intro bound hbound
      simp only [forall_mem_map, load_perm (horder _)]
      exact load_le_load_add hpartitions ⟨hbound, fun h => Bool.noConfusion h⟩
    · intro assignment most hmost
      simp only [forall_mem_map, load_perm (horder _)]
      exact load_le_of_assignment hpartitions assignment hmost

/-- Four trajectories of 3, 1, 2 and 1 tokens, two of each prompt. -/
def fourTrajectories : Batch ℕ 4 1 2 where
  uid i := i.val / 2
  attentionMask i t := t.val < [3, 1, 2, 1].getD i.val 0
  responseMask i t := t.val + 1 < [3, 1, 2, 1].getD i.val 0
  searchTimeout := none
  searchExceptionType := none
  searchResponseTruncated := none
  numSearchCalls := none
  hasFinalAnswer := none
  answerEm := none

theorem balanceBatch_ranks_fourTrajectories :
    (ranks 2 [1, 0, 3, 2]).flatten ~ finRange 4 ∧
      (∀ rank ∈ ranks (n := 4) 2 [1, 0, 3, 2], rank.length * 2 = 4) ∧
      (∀ bound, (∀ i j, workloads fourTrajectories i ≤ workloads fourTrajectories j + bound) →
        ∀ rank ∈ ranks 2 [1, 0, 3, 2], ∀ rank' ∈ ranks 2 [1, 0, 3, 2],
          load (workloads fourTrajectories) rank ≤
            load (workloads fourTrajectories) rank' + bound) ∧
      ∀ (assignment : Fin 4 → Fin 2) (most : ℕ),
        (∀ rank, ∑ i with assignment i = rank, workloads fourTrajectories i ≤ most) →
        ∀ rank ∈ ranks 2 [1, 0, 3, 2],
          2 * load (workloads fourTrajectories) rank ≤ (2 * 2 - 1) * most :=
  (balanceBatch_ranks fourTrajectories 2).2 [1, 0, 3, 2] (by decide)

/-! ## Prompts that stay on one rank -/

section PrefixGrouper

variable {rolloutN prompts : ℕ}

/-- The batch of a rollout: `rolloutN` consecutive trajectories of each prompt. -/
def ByPrompt (rolloutN : ℕ) (uid : Fin n → U) : Prop :=
  ∀ i j, uid i = uid j ↔ i.val / rolloutN = j.val / rolloutN

theorem mem_chunk {i : Fin n} {c : ℕ} (hpos : 0 < rolloutN) :
    i ∈ ((finRange n).drop (c * rolloutN)).take rolloutN ↔ i.val / rolloutN = c := by
  have hdiv : i.val / rolloutN = c ↔ c * rolloutN ≤ i.val ∧ i.val < c * rolloutN + rolloutN := by
    rw [Nat.div_eq_iff hpos]
    omega
  rw [hdiv]
  constructor
  · intro h
    rcases mem_iff_getElem.mp h with ⟨t, ht, hti⟩
    rw [length_take, length_drop, length_finRange] at ht
    have hval : i.val = c * rolloutN + t := by
      rw [← hti, getElem_take, getElem_drop, getElem_finRange]
      rfl
    omega
  · intro h
    have hn := i.isLt
    apply mem_iff_getElem.mpr
    refine ⟨i.val - c * rolloutN, ?_, ?_⟩
    · rw [length_take, length_drop, length_finRange]
      omega
    · rw [getElem_take, getElem_drop, getElem_finRange]
      apply Fin.ext
      rw [Fin.val_cast]
      exact Nat.add_sub_of_le h.1

/-- The groups of equal uids are the chunks of the batch, one for each prompt. -/
theorem splitBy_uid {uid : Fin n → U} (huid : ByPrompt rolloutN uid) (hpos : 0 < rolloutN)
    (hn : n = prompts * rolloutN) :
    ((finRange n).splitBy fun i j => uid i = uid j) =
      Chunks.chunks rolloutN prompts (finRange n) := by
  have hlength : (finRange n).length = prompts * rolloutN := by rw [length_finRange, hn]
  have hflatten := Chunks.flatten_chunks_of_length hlength
  have hsizes : ∀ c < prompts,
      (((finRange n).drop (c * rolloutN)).take rolloutN).length = rolloutN := fun c hc =>
    Chunks.length_of_mem_chunks hlength (mem_map_of_mem (mem_range.mpr hc))
  rw [splitBy_eq_iff]
  refine ⟨hflatten.symm, ?_, ?_, ?_⟩
  · intro hnil
    exact hpos.ne (Chunks.length_of_mem_chunks hlength hnil)
  · intro chunk hchunk
    rcases mem_map.mp hchunk with ⟨c, _, rfl⟩
    apply Pairwise.isChain
    apply pairwise_of_forall_mem_list
    intro i hi j hj
    exact decide_eq_true ((huid i j).mpr
      (((mem_chunk hpos).mp hi).trans ((mem_chunk hpos).mp hj).symm))
  · rw [Chunks.chunks, isChain_map, isChain_range]
    intro c hc
    have hc' : c < prompts := by omega
    have hfirst : ((finRange n).drop (c * rolloutN)).take rolloutN ≠ [] :=
      length_pos_iff.mp ((hsizes c hc').symm ▸ hpos)
    have hnext : ((finRange n).drop ((c + 1) * rolloutN)).take rolloutN ≠ [] :=
      length_pos_iff.mp ((hsizes (c + 1) (by omega)).symm ▸ hpos)
    refine ⟨hfirst, hnext, decide_eq_false ?_⟩
    intro heq
    have hlast := (mem_chunk hpos).mp (getLast_mem hfirst)
    have hhead := (mem_chunk hpos).mp (head_mem hnext)
    have hsame := (huid _ _).mp heq
    rw [hlast, hhead] at hsame
    omega

/-- One uid for each prompt. -/
theorem card_image_uid {uid : Fin n → U} (huid : ByPrompt rolloutN uid) (hpos : 0 < rolloutN)
    (hn : n = prompts * rolloutN) : (Finset.univ.image uid).card = prompts := by
  have hfirst : ∀ c : Fin prompts, c.val * rolloutN < n := by
    intro c
    rw [hn]
    exact Nat.mul_lt_mul_of_pos_right c.isLt hpos
  let first (c : Fin prompts) : Fin n := ⟨c.val * rolloutN, hfirst c⟩
  have himage : Finset.univ.image uid = Finset.univ.image (uid ∘ first) := by
    ext u
    simp only [Finset.mem_image, Finset.mem_univ, true_and, Function.comp_apply]
    constructor
    · intro h
      rcases h with ⟨i, rfl⟩
      have hlt : i.val / rolloutN < prompts := by
        rw [Nat.div_lt_iff_lt_mul hpos, ← hn]
        exact i.isLt
      exact ⟨⟨i.val / rolloutN, hlt⟩, (huid _ i).mpr (Nat.mul_div_cancel _ hpos)⟩
    · intro h
      rcases h with ⟨c, rfl⟩
      exact ⟨first c, rfl⟩
  rw [himage, Finset.card_image_of_injective, Finset.card_univ, Fintype.card_fin]
  intro c c' hcc'
  have hsame := (huid _ _).mp hcc'
  simp only [first, Nat.mul_div_cancel _ hpos] at hsame
  exact Fin.ext hsame

/-- The rows of a prompt, as the row of one of them sees them. -/
theorem load_eq_sum {w : Fin n → ℕ} {uid : Fin n → U} {group : List (Fin n)} {i : Fin n}
    (hnodup : group.Nodup) (hmem : ∀ j, j ∈ group ↔ uid j = uid i) :
    load w group = ∑ j with uid j = uid i, w j := by
  have hfilter : (Finset.univ.filter fun j => uid j = uid i) = group.toFinset := by
    ext j
    simp [hmem]
  rw [hfilter, sum_toFinset w hnodup, load]

/-- A group holds the rows of one uid and nothing else. -/
structure GroupSpec (rolloutN : ℕ) (uid : Fin n → U) (group : List (Fin n)) : Prop where
  length_eq : group.length = rolloutN
  nodup : group.Nodup
  mem_iff : ∀ i ∈ group, ∀ j, j ∈ group ↔ uid j = uid i

omit [DecidableEq U] in
theorem groupSpec_of_mem_chunks {uid : Fin n → U} (huid : ByPrompt rolloutN uid)
    (hpos : 0 < rolloutN) (hn : n = prompts * rolloutN) :
    ∀ group ∈ Chunks.chunks rolloutN prompts (finRange n), GroupSpec rolloutN uid group := by
  intro group hgroup
  refine ⟨Chunks.length_of_mem_chunks (by rw [length_finRange, hn]) hgroup, ?_, ?_⟩
  · rcases mem_map.mp hgroup with ⟨c, _, rfl⟩
    exact (nodup_finRange n).sublist ((take_sublist _ _).trans (drop_sublist _ _))
  · rcases mem_map.mp hgroup with ⟨c, _, rfl⟩
    intro i hi j
    rw [mem_chunk hpos, huid j i, (mem_chunk hpos).mp hi]

variable {groups : List (List (Fin n))} {uid : Fin n → U} {w : Fin n → ℕ}

/-- The rows of a partition of groups. -/
def groupRows (groups : List (List (Fin n))) (partition : List (Fin groups.length)) :
    List (Fin n) :=
  (partition.flatMap groups.get).insertionSort (· ≤ ·)

theorem groupRows_perm (partition : List (Fin groups.length)) :
    groupRows groups partition ~ partition.flatMap groups.get :=
  perm_insertionSort _ _

omit [DecidableEq U] in
theorem length_groupRows (hgroups : ∀ group ∈ groups, GroupSpec rolloutN uid group)
    (partition : List (Fin groups.length)) :
    (groupRows groups partition).length = partition.length * rolloutN := by
  rw [(groupRows_perm partition).length_eq]
  induction partition with
  | nil => simp
  | cons g partition ih =>
      rw [flatMap_cons, length_append, ih, (hgroups _ (get_mem groups g)).length_eq, length_cons,
        Nat.succ_mul, Nat.add_comm]

theorem load_groupRows (partition : List (Fin groups.length)) :
    load w (groupRows groups partition) = load (fun g => load w (groups.get g)) partition := by
  rw [load_perm (groupRows_perm partition)]
  induction partition with
  | nil => rfl
  | cons g partition ih =>
      rw [load, flatMap_cons, map_append, sum_append]
      rw [load] at ih
      rw [ih]
      rfl

omit [DecidableEq U] in
theorem mem_groupRows_of_uid_eq (hgroups : ∀ group ∈ groups, GroupSpec rolloutN uid group)
    {partition : List (Fin groups.length)} {i j : Fin n} (hi : i ∈ groupRows groups partition)
    (hij : uid j = uid i) : j ∈ groupRows groups partition := by
  rw [(groupRows_perm partition).mem_iff, mem_flatMap] at hi ⊢
  rcases hi with ⟨g, hg, hi⟩
  exact ⟨g, hg, ((hgroups _ (get_mem groups g)).mem_iff i hi j).mpr hij⟩

theorem getGroupBalancedPartitions_groups (seqlenList : Fin n → ℕ) (kPartitions : ℕ)
    (hsplit : ((finRange n).splitBy fun i j => uid i = uid j) = groups) :
    getGroupBalancedPartitions partitioner seqlenList uid kPartitions =
      (KarmarkarKarp.getSeqlenBalancedPartitions
        (fun g => load (fun i => calculateWorkload (seqlenList i)) (groups.get g)) kPartitions
        true).map (·.map (groupRows groups)) := by
  subst hsplit
  rw [getGroupBalancedPartitions, getSeqlenBalancedPartitions_partitioner]
  split
  · rfl
  · rename_i hlt
    rw [getSeqlenBalancedPartitions_eq_none fun hvalid => hlt hvalid.2.1, Option.map_none]

/-- The ranks of a batch that is balanced prompt by prompt are partitions of the prompts. -/
theorem balanceBatch_groups {batch : Batch U n P L} (dpSize : ℕ)
    (huid : ByPrompt rolloutN batch.uid) (hpos : 0 < rolloutN) (hn : n = prompts * rolloutN) :
    ∃ groups : List (List (Fin n)), groups.length = prompts ∧
      (∀ group ∈ groups, GroupSpec rolloutN batch.uid group) ∧
      balanceBatch partitioner true dpSize batch =
        if prompts % dpSize ≠ 0 then none
        else (KarmarkarKarp.getSeqlenBalancedPartitions
          (fun g => load (workloads batch) (groups.get g)) dpSize true).map fun partitions =>
            (partitions.map (groupRows groups)).flatten := by
  refine ⟨Chunks.chunks rolloutN prompts (finRange n), Chunks.length_chunks _ _ _,
    groupSpec_of_mem_chunks huid hpos hn, ?_⟩
  simp only [balanceBatch, ite_true, card_image_uid huid hpos hn,
    getGroupBalancedPartitions_groups (globalSeqlenLst batch) dpSize (splitBy_uid huid hpos hn),
    Option.map_map]
  rfl

/-- With the prefix grouper, the batch of a rollout is balanced when the ranks divide the prompts.
All trajectories of a prompt go to one rank, and the work of two ranks differs by no more than
that of two prompts. -/
theorem balanceBatch_prefixGrouper (batch : Batch U n P L) (dpSize : ℕ)
    (huid : ByPrompt rolloutN batch.uid) (hpos : 0 < rolloutN) (hn : n = prompts * rolloutN) :
    ((balanceBatch partitioner true dpSize batch).isSome ↔
      0 < dpSize ∧ dpSize ≤ prompts ∧ dpSize ∣ prompts) ∧
    ∀ indices, balanceBatch partitioner true dpSize batch = some indices →
      (ranks dpSize indices).flatten ~ finRange n ∧
      (∀ rank ∈ ranks dpSize indices, rank.length * dpSize = n) ∧
      (∀ rank ∈ ranks dpSize indices, ∀ i ∈ rank, ∀ j, batch.uid j = batch.uid i → j ∈ rank) ∧
      ∀ bound, (∀ i j, ∑ i' with batch.uid i' = batch.uid i, workloads batch i' ≤
          ∑ j' with batch.uid j' = batch.uid j, workloads batch j' + bound) →
        ∀ rank ∈ ranks dpSize indices, ∀ rank' ∈ ranks dpSize indices,
          load (workloads batch) rank ≤ load (workloads batch) rank' + bound := by
  rcases balanceBatch_groups dpSize huid hpos hn with
    ⟨groups, hlength, hgroups, hbalance⟩
  constructor
  · rw [hbalance]
    by_cases hdvd : prompts % dpSize ≠ 0
    · rw [if_pos hdvd]
      constructor
      · intro hsome
        cases hsome
      · intro hvalid
        exact absurd (Nat.mod_eq_zero_of_dvd hvalid.2.2) hdvd
    · rw [if_neg hdvd, Option.isSome_map, getSeqlenBalancedPartitions_isSome, ValidCall, hlength]
      simp only [forall_true_left]
  · intro indices h
    have hperm := balanceBatch_perm h
    rw [hbalance, Option.ite_none_left_eq_some] at h
    rcases Option.map_eq_some_iff.mp h.2 with ⟨partitions, hpartitions, rfl⟩
    have hspec := (partitionSpec_of_getSeqlenBalancedPartitions hpartitions
      (startBound_sum _ true)).2.1
    have hequal : ∀ part ∈ partitions.map (groupRows groups), part.length * dpSize = n := by
      rw [forall_mem_map]
      intro partition hpartition
      rw [length_groupRows hgroups, Nat.mul_right_comm, hspec.equal rfl partition hpartition,
        hlength, hn]
    rw [ranks_flatten (by rw [length_map, hspec.length_eq]) hequal]
    refine ⟨hperm, hequal, ?_, ?_⟩
    · rw [forall_mem_map]
      intro partition _ i hi j hij
      exact mem_groupRows_of_uid_eq hgroups hi hij
    · intro bound hbound
      simp only [forall_mem_map, load_groupRows]
      apply load_le_load_add hpartitions
      refine ⟨?_, fun h => Bool.noConfusion h⟩
      intro g g'
      have hg := hgroups _ (get_mem groups g)
      have hg' := hgroups _ (get_mem groups g')
      have hi : groups.get g ≠ [] := length_pos_iff.mp (hg.length_eq.symm ▸ hpos)
      have hj : groups.get g' ≠ [] := length_pos_iff.mp (hg'.length_eq.symm ▸ hpos)
      change load (workloads batch) (groups.get g) ≤ load (workloads batch) (groups.get g') + bound
      rw [load_eq_sum hg.nodup (hg.mem_iff _ (head_mem hi)),
        load_eq_sum hg'.nodup (hg'.mem_iff _ (head_mem hj))]
      exact hbound _ _

end PrefixGrouper

theorem balanceBatch_prefixGrouper_fourTrajectories :
    ((balanceBatch partitioner true 2 fourTrajectories).isSome ↔ 0 < 2 ∧ 2 ≤ 2 ∧ 2 ∣ 2) ∧
    ∀ indices, balanceBatch partitioner true 2 fourTrajectories = some indices →
      (ranks 2 indices).flatten ~ finRange 4 ∧
      (∀ rank ∈ ranks 2 indices, rank.length * 2 = 4) ∧
      (∀ rank ∈ ranks 2 indices, ∀ i ∈ rank, ∀ j,
        fourTrajectories.uid j = fourTrajectories.uid i → j ∈ rank) ∧
      ∀ bound, (∀ i j,
          ∑ i' with fourTrajectories.uid i' = fourTrajectories.uid i,
            workloads fourTrajectories i' ≤
          ∑ j' with fourTrajectories.uid j' = fourTrajectories.uid j,
            workloads fourTrajectories j' + bound) →
        ∀ rank ∈ ranks 2 indices, ∀ rank' ∈ ranks 2 indices,
          load (workloads fourTrajectories) rank ≤
            load (workloads fourTrajectories) rank' + bound :=
  balanceBatch_prefixGrouper fourTrajectories 2
    (show ByPrompt 2 fourTrajectories.uid from fun _ _ => Iff.rfl) (by decide)
    (show 4 = 2 * 2 from rfl)

end SearchR1.RayTrainer
