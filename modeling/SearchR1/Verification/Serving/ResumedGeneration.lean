import SearchR1.Library.Decoding
import SearchR1.Model.LlmServerClient

/-! # A resumed generation against an uninterrupted one -/

namespace SearchR1.LlmServer

open Decoding

variable {T P E : Type} (next : List T → T) (ends : T → Bool) (maxModelLen : ℕ)

/-- The tokens a call may generate at most. -/
def budget (maxModelLen : ℕ) (promptIds : List T) : Option ℤ → ℕ
  | none => maxModelLen - promptIds.length
  | some limit => min limit.toNat (maxModelLen - promptIds.length)

/-- What a generation gives that nothing interrupts. -/
def uninterrupted (promptIds : List T) (limit : Option ℤ) : List T :=
  decode next ends (budget maxModelLen promptIds limit) promptIds

variable {next ends maxModelLen}

/-- The budget that is left after some tokens. -/
theorem budget_append (promptIds part : List T) (limit : Option ℤ) :
    budget maxModelLen (promptIds ++ part) (limit.map fun most => most - (part.length : ℤ)) =
      budget maxModelLen promptIds limit - part.length := by
  cases limit with
  | none =>
      simp only [budget, Option.map_none, List.length_append]
      omega
  | some most =>
      simp only [budget, Option.map_some, List.length_append]
      omega

/-- What the loop has generated so far is a part of the uninterrupted generation that does not end
it. -/
structure OnTrack (next : List T → T) (ends : T → Bool) (maxModelLen : ℕ) (promptIds : List T)
    (limit : Option ℤ) (tokenIds : List T) : Prop where
  part : tokenIds <+: uninterrupted next ends maxModelLen promptIds limit
  unfinished : ∀ t ∈ tokenIds, ends t = false

theorem OnTrack.rest {promptIds : List T} {limit : Option ℤ} {tokenIds : List T}
    (h : OnTrack next ends maxModelLen promptIds limit tokenIds) :
    uninterrupted next ends maxModelLen promptIds limit =
      tokenIds ++ uninterrupted next ends maxModelLen (promptIds ++ tokenIds)
        (limit.map fun most => most - (tokenIds.length : ℤ)) := by
  rw [uninterrupted, decode_of_prefix next ends h.part h.unfinished, uninterrupted, budget_append]

variable {server : Server T P E}

end SearchR1.LlmServer
