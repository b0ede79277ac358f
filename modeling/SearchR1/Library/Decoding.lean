import Mathlib.Data.List.Basic

/-! # Autoregressive decoding

`next` gives the token after a text, and decoding goes on until a token ends it or the budget is
spent. -/

namespace Decoding

variable {τ : Type*} (next : List τ → τ) (ends : τ → Bool)

def decode : ℕ → List τ → List τ
  | 0, _ => []
  | budget + 1, text =>
      if ends (next text) then [next text] else next text :: decode budget (text ++ [next text])

/-- Decoding can be interrupted after any tokens that do not end it: from the text with them it
continues as it would have. -/
theorem decode_of_prefix {part : List τ} {budget : ℕ} {text : List τ}
    (hpart : part <+: decode next ends budget text) (hopen : ∀ t ∈ part, ends t = false) :
    decode next ends budget text =
      part ++ decode next ends (budget - part.length) (text ++ part) := by
  induction part generalizing budget text with
  | nil => simp
  | cons t part ih =>
      rw [List.forall_mem_cons] at hopen
      cases budget with
      | zero => exact absurd hpart (by simp [decode])
      | succ budget =>
          rw [decode] at hpart ⊢
          by_cases hend : ends (next text)
          · rw [if_pos hend, List.cons_prefix_cons] at hpart
            rw [← hpart.1, hopen.1] at hend
            cases hend
          · rw [if_neg hend, List.cons_prefix_cons] at hpart
            rw [if_neg hend, ← hpart.1, List.cons_append]
            rw [← hpart.1] at hpart
            congr 1
            rw [ih hpart.2 hopen.2]
            simp

end Decoding
