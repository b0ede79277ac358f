import Mathlib.Data.List.Basic

/-! # Runs of a machine that emits -/

namespace Runs

variable {σ ε : Type*}

/-- A machine with the list of what each step emits. -/
structure Machine (σ ε : Type*) where
  init : σ → Prop
  step : σ → List ε → σ → Prop

/-- The states a machine reaches, with all that was emitted on the way. -/
inductive Run (M : Machine σ ε) : σ → List ε → Prop where
  | init {s : σ} : M.init s → Run M s []
  | step {s s' : σ} {emitted new : List ε} :
      Run M s emitted → M.step s new s' → Run M s' (emitted ++ new)

variable {M : Machine σ ε}

theorem Run.invariant {I : σ → List ε → Prop} (hinit : ∀ s, M.init s → I s [])
    (hstep : ∀ s s' emitted new, I s emitted → M.step s new s' → I s' (emitted ++ new))
    {s : σ} {emitted : List ε} (h : Run M s emitted) : I s emitted := by
  induction h with
  | init hs => exact hinit _ hs
  | step _ hs ih => exact hstep _ _ _ _ ih hs

/-- What every step emits. -/
theorem Run.forall_emitted {p : ε → Prop}
    (hstep : ∀ s s' new, M.step s new s' → ∀ e ∈ new, p e) {s : σ} {emitted : List ε}
    (h : Run M s emitted) : ∀ e ∈ emitted, p e := by
  apply h.invariant (I := fun _ emitted => ∀ e ∈ emitted, p e)
  · intro s _ e he
    cases he
  · intro s s' emitted new ih hs e he
    rcases List.mem_append.mp he with he | he
    · exact ih e he
    · exact hstep s s' new hs e he

end Runs
