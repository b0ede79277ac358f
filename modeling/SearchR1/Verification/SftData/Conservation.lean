import SearchR1.Model.RawSftRecords
import SearchR1.Verification.SftData.Records
import Mathlib.Algebra.BigOperators.Group.List.Basic

/-! # No record is lost or counted twice

Every line that is not blank ends in one counter, however many checks stand before it. -/

namespace SearchR1.BuildSftData

open PyText PyJson PyLoop

/-- The counters of discarded records, in the order of the summary. -/
def discardReasons : List Discard :=
  [.noToolCall, .invalidToolJson, .invalidToolName, .emptyQuery, .failedRetrieval,
    .missingToolResponse, .invalidRoleSequence, .missingFinalAnswer, .wrongAnswer, .tooManyTurns,
    .tooManyToolCalls, .tooLong]

/-- The counters of `stats` but `total`. -/
inductive Counter where
  | kept
  | discarded (reason : Discard)
  deriving DecidableEq

def Stats.count (stats : Stats) : Counter → ℕ
  | .kept => stats.kept
  | .discarded reason => stats.discarded reason

/-- One more record, which one counter counts and no other. -/
structure Stats.Increments (stats stats' : Stats) (counter : Counter) : Prop where
  total : stats'.total = stats.total + 1
  count : ∀ c, stats'.count c = stats.count c + if c = counter then 1 else 0

theorem Stats.Increments.unique {stats stats' : Stats} {counter counter' : Counter}
    (h : stats.Increments stats' counter) (h' : stats.Increments stats' counter') :
    counter = counter' := by
  have hcount := (h.count counter).symm.trans (h'.count counter)
  by_contra hne
  rw [if_pos rfl, if_neg hne] at hcount
  omega

/-- The number of discarded records. -/
def Stats.discardTotal (stats : Stats) : ℕ := (discardReasons.map stats.discarded).sum

theorem Stats.Increments.discardTotal {stats stats' : Stats} {counter : Counter}
    (h : stats.Increments stats' counter) :
    stats'.kept + stats'.discardTotal = stats.kept + stats.discardTotal + 1 := by
  have hkept : stats'.kept = stats.kept + if .kept = counter then 1 else 0 := h.count .kept
  have hdiscarded : stats'.discarded = fun reason =>
      stats.discarded reason + if .discarded reason = counter then 1 else 0 :=
    funext fun reason => h.count (.discarded reason)
  rw [hkept, Stats.discardTotal, hdiscarded, List.sum_map_add, Stats.discardTotal]
  cases counter with
  | kept =>
      have hnone : (discardReasons.map fun r => if Counter.discarded r = .kept then 1 else 0).sum =
          0 := by decide
      rw [hnone, if_pos rfl]
      omega
  | discarded reason =>
      have hone : (discardReasons.map fun r =>
          if Counter.discarded r = .discarded reason then 1 else 0).sum = 1 := by
        cases reason <;> decide
      rw [hone, if_neg (by simp)]
      omega

namespace Raw

variable {F : Type} {py : Python F} {args : Args F}

/-! ## The statistics of the datasets -/

/-- An update in place adds to the sum over the datasets what it adds to one of them. -/
theorem sum_countDataset {f : DatasetStats → DatasetStats} {sameKey : Json F → Json F → Bool}
    {key : Json F} {d d' : List (Json F × DatasetStats)}
    (h : countDataset sameKey f d key = .ok d') {g : DatasetStats → ℕ} {n : ℕ}
    (hf : ∀ s, g (f s) = g s + n) :
    (d'.map fun e => g e.2).sum = (d.map fun e => g e.2).sum + n := by
  induction d generalizing d' with
  | nil => cases h
  | cons e d ih =>
      rw [countDataset] at h
      split at h
      · obtain rfl := Except.ok.inj h
        simp only [List.map_cons, List.sum_cons, hf]
        omega
      · cases hd : countDataset sameKey f d key with
        | error raised =>
            rw [hd] at h
            cases h
        | ok rest =>
            rw [hd] at h
            obtain rfl := Except.ok.inj h
            simp only [List.map_cons, List.sum_cons, ih hd]
            omega

theorem sum_initDataset {g : DatasetStats → ℕ} (hg : g { total := 0, kept := 0 } = 0)
    (sameKey : Json F → Json F → Bool) (d : List (Json F × DatasetStats)) (key : Json F) :
    ((initDataset sameKey d key).map fun e => g e.2).sum = (d.map fun e => g e.2).sum := by
  unfold initDataset
  split
  · rfl
  · simp [hg]

def State.datasetTotal (st : State F) : ℕ := (st.datasetStats.map fun e => e.2.total).sum

def State.datasetKept (st : State F) : ℕ := (st.datasetStats.map fun e => e.2.kept).sum

/-! ## One record -/

/-- The two ways in which the checks end. -/
theorem examine_cases {st st' : State F} {question trajectory goldenAnswers dataSource : Json F}
    (h : examine py args st question trajectory goldenAnswers dataSource = .ok st') :
    (∃ reason, st' = st.bump reason) ∨
      ∃ numToolCalls datasetStats,
        countDataset args.sameKey (fun d => { d with kept := d.kept + 1 }) st.datasetStats
          dataSource = .ok datasetStats ∧
        st' = { stats := { st.stats with kept := st.stats.kept + 1 }
                datasetStats := datasetStats
                output := st.output ++
                  [outputRecord py question trajectory goldenAnswers dataSource
                    numToolCalls] } := by
  have hbump : ∀ {reason}, (pure (st.bump reason) : Except Raised (State F)) = .ok st' →
      ∃ reason, st' = st.bump reason := fun h => ⟨_, (Except.ok.inj h).symm⟩
  unfold examine at h
  obtain ⟨turns, -, h⟩ := bind_eq_ok_iff.mp h
  obtain ⟨tool, -, h⟩ := bind_eq_ok_iff.mp h
  cases tool with
  | some toolReason => exact .inl (hbump h)
  | none => ?_
  obtain ⟨numToolCalls, -, h⟩ := bind_eq_ok_iff.mp h
  obtain ⟨hasAnswer, -, h⟩ := bind_eq_ok_iff.mp h
  split at h
  · exact .inl (hbump h)
  obtain ⟨predictedAnswer, -, h⟩ := bind_eq_ok_iff.mp h
  split at h
  · exact .inl (hbump h)
  obtain ⟨correct, -, h⟩ := bind_eq_ok_iff.mp h
  split at h
  · exact .inl (hbump h)
  obtain ⟨failed, -, h⟩ := bind_eq_ok_iff.mp h
  split at h
  · exact .inl (hbump h)
  obtain ⟨sequence, -, h⟩ := bind_eq_ok_iff.mp h
  cases sequence with
  | some seqReason => exact .inl (hbump h)
  | none => ?_
  obtain ⟨assistantTurns, -, h⟩ := bind_eq_ok_iff.mp h
  simp only at h
  split at h
  · exact .inl (hbump h)
  split at h
  · exact .inl (hbump h)
  split at h
  · exact .inl (hbump h)
  obtain ⟨datasetStats, hdatasets, h⟩ := bind_eq_ok_iff.mp h
  exact .inr ⟨numToolCalls, datasetStats, hdatasets, (Except.ok.inj h).symm⟩

/-- The trajectory of a record stands unchanged in what is written for it. -/
def Writes (example_ record : Json F) : Prop :=
  ∃ trajectory, get example_ "trajectory" (.arr []) = .ok trajectory ∧
    get record "messages" .null = .ok trajectory

/-- What a round of the loop does. -/
structure Round (st : State F) (example_ : Json F) (counter : Counter) (st' : State F) : Prop where
  increments : st.stats.Increments st'.stats counter
  datasetTotal : st'.datasetTotal = st.datasetTotal + 1
  datasetKept : st'.datasetKept = st.datasetKept + if counter = .kept then 1 else 0
  output : ∃ records, st'.output = st.output ++ records ∧
    List.Forall₂ Writes (if counter = .kept then [example_] else []) records

theorem increments_bump (st : State F) (datasetStats : List (Json F × DatasetStats))
    (reason : Discard) :
    st.stats.Increments (State.bump
      { st with stats := { st.stats with total := st.stats.total + 1 }, datasetStats } reason).stats
      (.discarded reason) := by
  refine ⟨rfl, ?_⟩
  intro c
  cases c with
  | kept => simp [Stats.count, State.bump]
  | discarded r => simp [Stats.count, State.bump]

theorem round_bump (st : State F) (example_ : Json F) (reason : Discard)
    {datasetStats : List (Json F × DatasetStats)}
    (htotal : (datasetStats.map fun e => e.2.total).sum = st.datasetTotal + 1)
    (hkept : (datasetStats.map fun e => e.2.kept).sum = st.datasetKept) :
    Round st example_ (.discarded reason)
      (State.bump { st with stats := { st.stats with total := st.stats.total + 1 }, datasetStats }
        reason) where
  increments := increments_bump st datasetStats reason
  datasetTotal := htotal
  datasetKept := by
    rw [if_neg (by simp)]
    exact hkept
  output := ⟨[], by simp [State.bump], by simp⟩

theorem round_of_processExample {st st' : State F} {example_ : Json F}
    (h : processExample py args st example_ = .ok st') :
    ∃ counter, Round st example_ counter st' := by
  unfold processExample at h
  obtain ⟨question, -, h⟩ := bind_eq_ok_iff.mp h
  obtain ⟨trajectory, htrajectory, h⟩ := bind_eq_ok_iff.mp h
  obtain ⟨goldenAnswers, -, h⟩ := bind_eq_ok_iff.mp h
  obtain ⟨dataSource, -, h⟩ := bind_eq_ok_iff.mp h
  obtain ⟨_, -, h⟩ := bind_eq_ok_iff.mp h
  obtain ⟨datasetStats, hdatasets, h⟩ := bind_eq_ok_iff.mp h
  have htotal : (datasetStats.map fun e => e.2.total).sum = st.datasetTotal + 1 := by
    rw [sum_countDataset hdatasets (g := DatasetStats.total) fun _ => rfl, sum_initDataset rfl]
    rfl
  have hkept : (datasetStats.map fun e => e.2.kept).sum = st.datasetKept := by
    rw [sum_countDataset hdatasets (g := DatasetStats.kept) (n := 0) fun _ => rfl,
      sum_initDataset rfl]
    rfl
  rcases examine_cases h with ⟨reason, rfl⟩ | ⟨numToolCalls, datasetStats', hdatasets', rfl⟩
  · exact ⟨.discarded reason, round_bump st example_ reason htotal hkept⟩
  · refine ⟨.kept, ?_⟩
    constructor
    · refine ⟨rfl, ?_⟩
      intro c
      cases c with
      | kept => simp [Stats.count]
      | discarded r => simp [Stats.count]
    · have hsum := sum_countDataset hdatasets' (g := DatasetStats.total) (n := 0) fun _ => rfl
      exact hsum.trans htotal
    · have hsum := sum_countDataset hdatasets' (g := DatasetStats.kept) (n := 1) fun _ => rfl
      rw [if_pos rfl, ← hkept]
      exact hsum
    · refine ⟨_, rfl, ?_⟩
      rw [if_pos rfl]
      exact .cons ⟨trajectory, htrajectory, rfl⟩ .nil

/-! ## Whole runs -/

/-- A run from the empty statistics, with the counter that each record went to. -/
inductive Rounds (py : Python F) (args : Args F) : List (Json F × Counter) → State F → Prop where
  | nil : Rounds py args [] {}
  | snoc {rounds : List (Json F × Counter)} {st st' : State F} {example_ : Json F}
      {counter : Counter} : Rounds py args rounds st →
      processExample py args st example_ = .ok st' → st.stats.Increments st'.stats counter →
      Rounds py args (rounds ++ [(example_, counter)]) st'

/-- What the statistics and the output of a run say about its records. -/
structure Conserves (rounds : List (Json F × Counter)) (st : State F) : Prop where
  total : st.stats.total = rounds.length
  count : ∀ counter, st.stats.count counter = (rounds.map Prod.snd).count counter
  discards : st.stats.total = st.stats.kept + st.stats.discardTotal
  datasetTotal : st.datasetTotal = st.stats.total
  datasetKept : st.datasetKept = st.stats.kept
  output : List.Forall₂ Writes ((rounds.filter fun r => r.2 = .kept).map Prod.fst) st.output

theorem Conserves.snoc {rounds : List (Json F × Counter)} {st st' : State F} {example_ : Json F}
    {counter : Counter} (h : Conserves rounds st) (hround : Round st example_ counter st') :
    Conserves (rounds ++ [(example_, counter)]) st' where
  total := by
    rw [hround.increments.total, h.total]
    simp
  count := by
    intro c
    rw [hround.increments.count, h.count, List.map_append, List.count_append]
    by_cases hc : c = counter
    · simp [hc]
    · simp [hc, Ne.symm hc]
  discards := by
    have hdiscards := hround.increments.discardTotal
    have htotal := hround.increments.total
    have hbefore := h.discards
    omega
  datasetTotal := by rw [hround.datasetTotal, hround.increments.total, h.datasetTotal]
  datasetKept := by
    have hkept := hround.increments.count .kept
    simp only [Stats.count, eq_comm (a := Counter.kept)] at hkept
    rw [hround.datasetKept, h.datasetKept, hkept]
  output := by
    obtain ⟨records, houtput, hwrites⟩ := hround.output
    rw [houtput, List.filter_append, List.map_append]
    refine List.rel_append h.output ?_
    by_cases hc : counter = .kept
    · simpa [hc] using hwrites
    · simpa [hc] using hwrites

/-- The records of the input file. -/
def readRecords (py : Python F) (lines : List Text) : Option (List (Json F)) :=
  ((lines.map strip).filter fun line => !line.isEmpty).mapM (loads py.json)

theorem main_snoc (lines : List Text) (line : Text) :
    main py args (lines ++ [line]) =
      main py args lines >>= fun st => processLine py args st line := by
  simp [main, List.foldlM_append]

theorem readRecords_snoc_blank {lines : List Text} {line : Text} (h : (strip line).isEmpty) :
    readRecords py (lines ++ [line]) = readRecords py lines := by
  simp [readRecords, h]

theorem readRecords_snoc {lines : List Text} {line : Text} (h : ¬ (strip line).isEmpty)
    {records : List (Json F)} (hlines : readRecords py lines = some records) {example_ : Json F}
    (hline : loads py.json (strip line) = some example_) :
    readRecords py (lines ++ [line]) = some (records ++ [example_]) := by
  unfold readRecords at hlines ⊢
  simp [List.filter_append, h, List.mapM_append, hlines, hline]

/-- On every input on which `main` completes, each line that is not blank is read as a record that
exactly one counter counts, and the output holds the kept ones in their order. -/
theorem main_conserves {lines : List Text} {st : State F} (h : main py args lines = .ok st) :
    ∃ rounds, Rounds py args rounds st ∧ readRecords py lines = some (rounds.map Prod.fst) ∧
      Conserves rounds st := by
  induction lines using List.reverseRecOn generalizing st with
  | nil =>
      obtain rfl := Except.ok.inj h
      refine ⟨[], .nil, rfl, rfl, ?_, rfl, rfl, rfl, .nil⟩
      intro counter
      cases counter <;> rfl
  | append_singleton lines line ih =>
      rw [main_snoc] at h
      obtain ⟨before, hbefore, h⟩ := bind_eq_ok_iff.mp h
      obtain ⟨rounds, hrounds, hrecords, hconserves⟩ := ih hbefore
      unfold processLine at h
      split at h
      · rename_i hblank
        obtain rfl := Except.ok.inj h
        exact ⟨rounds, hrounds, (readRecords_snoc_blank hblank).trans hrecords, hconserves⟩
      · rename_i hblank
        split at h
        · cases h
        · rename_i example_ hline
          obtain ⟨counter, hround⟩ := round_of_processExample h
          refine ⟨rounds ++ [(example_, counter)], hrounds.snoc h hround.increments, ?_,
            hconserves.snoc hround⟩
          rw [readRecords_snoc hblank hrecords hline, List.map_append]
          rfl

/-! ## A kept record and a discarded one -/

/-- The sameness of keys that are texts. -/
def sameText : Json F → Json F → Bool
  | .str s, .str t => s = t
  | _, _ => false

def keptRecord : Text :=
  recordLine
    [("user", lit "q"), ("assistant", searchCallText "x"),
      ("tool", lit "<information>d</information>"), ("assistant", lit "<answer>y</answer>")] "y"

def wrongRecord : Text :=
  recordLine
    [("user", lit "q"), ("assistant", searchCallText "x"),
      ("tool", lit "<information>d</information>"), ("assistant", lit "<answer>z</answer>")] "y"

theorem stats_keptRecord :
    ((main asciiPython { sameKey := sameText } [keptRecord, [], wrongRecord]).toOption.map
      fun st => (st.stats.total, st.stats.kept, st.stats.discarded .wrongAnswer)) =
      some (2, 1, 1) := by
  decide +kernel

theorem main_conserves_keptRecord : ∃ st rounds, st.stats.total = 2 ∧ st.stats.kept = 1 ∧
    Rounds asciiPython { sameKey := sameText } rounds st ∧ Conserves rounds st := by
  obtain ⟨st, hst, hstats⟩ := Option.map_eq_some_iff.mp stats_keptRecord
  obtain ⟨htotal, hkept, -⟩ := Prod.mk.inj hstats |>.imp_right Prod.mk.inj
  cases hmain : main asciiPython { sameKey := sameText } [keptRecord, [], wrongRecord] with
  | error raised =>
      rw [hmain] at hst
      cases hst
  | ok st' =>
      rw [hmain] at hst
      obtain rfl := Option.some.inj hst
      obtain ⟨rounds, hrounds, -, hconserves⟩ := main_conserves hmain
      exact ⟨st', rounds, htotal, hkept, hrounds, hconserves⟩

end Raw

end SearchR1.BuildSftData
