import SearchR1.Library.Text

/-! # Generation that resumes after an abort -/

namespace SearchR1.LlmServer

open PyText

/-- The reasons that `generate` tells apart. -/
inductive StopReason where
  | aborted
  | abort
  | length
  | other (reason : Text)
  deriving DecidableEq

variable {T P E : Type}

/-- `TokenOutput` of one call, with `extra_fields["global_steps"]`. -/
structure TokenOutput (T P E : Type) where
  tokenIds : List T
  logProbs : Option (List P)
  routedExperts : Option (List E)
  stopReason : Option StopReason
  numPreempted : Option ℕ
  globalSteps : Option ℤ

/-- `output.stop_reason in ("aborted", "abort")`. -/
def TokenOutput.isAborted (output : TokenOutput T P E) : Bool :=
  output.stopReason = some .aborted ∨ output.stopReason = some .abort

/-- `final_output`, with the versions of the weights. -/
structure FinalOutput (T P E : Type) where
  tokenIds : List T := []
  logProbs : List P := []
  routedExperts : Option (List E) := none
  stopReason : Option StopReason := none
  numPreempted : ℕ := 0
  globalSteps : Option ℤ := none
  minGlobalSteps : Option ℤ := none
  maxGlobalSteps : Option ℤ := none

/-- What one call adds to the output: only the experts of its own tokens are appended. -/
def FinalOutput.merge (final : FinalOutput T P E) (output : TokenOutput T P E) :
    FinalOutput T P E where
  tokenIds := final.tokenIds ++ output.tokenIds
  logProbs := final.logProbs ++ output.logProbs.getD []
  routedExperts :=
    match output.routedExperts with
    | none => final.routedExperts
    | some experts =>
        if output.tokenIds = [] then final.routedExperts
        else
          match final.routedExperts with
          | none => some experts
          | some earlier =>
              some (earlier ++ experts.drop (experts.length - output.tokenIds.length))
  stopReason := output.stopReason
  numPreempted := final.numPreempted + output.numPreempted.getD 0
  globalSteps := output.globalSteps
  minGlobalSteps :=
    if final.minGlobalSteps = none then output.globalSteps else final.minGlobalSteps
  maxGlobalSteps := output.globalSteps

/-- A server as the client sees it: the output of each call, by its number, for a prompt and the
limit of the sampling parameters. -/
abbrev Server (T P E : Type) := ℕ → List T → Option ℤ → TokenOutput T P E

/-- The loop of `FullyAsyncLLMServerClient.generate` from the call with the given number on, where
`limit` is what `sampling_params` holds; with the output, what it then holds, and `none` when it is
still running after `fuel` calls. -/
def generateLoop (server : Server T P E) (shouldRetry : Bool) (promptIds : List T)
    (originalMaxTokens : Option ℤ) :
    ℕ → ℕ → Option ℤ → FinalOutput T P E → Option (FinalOutput T P E × Option ℤ)
  | 0, _, _, _ => none
  | fuel + 1, call, limit, final =>
      let output := server call (promptIds ++ final.tokenIds) limit
      let final := final.merge output
      let limit := originalMaxTokens.map fun most : ℤ => most - (final.tokenIds.length : ℤ)
      if originalMaxTokens.any fun most : ℤ => most ≤ (final.tokenIds.length : ℤ) then
        some ({ final with stopReason := some .length }, limit)
      else if output.isAborted && shouldRetry then
        generateLoop server shouldRetry promptIds originalMaxTokens fuel (call + 1) limit final
      else some (final, limit)

/-- `FullyAsyncLLMServerClient.generate`. -/
def generate (server : Server T P E) (shouldRetry : Bool) (promptIds : List T)
    (originalMaxTokens : Option ℤ) (fuel : ℕ) : Option (FinalOutput T P E × Option ℤ) :=
  generateLoop server shouldRetry promptIds originalMaxTokens fuel 0 originalMaxTokens {}

end SearchR1.LlmServer
