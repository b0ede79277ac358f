import SearchR1.Library.Blocks
import SearchR1.Library.Dict
import SearchR1.Library.Json
import Mathlib.Data.List.Lex
import Mathlib.Data.List.Sort

/-! # Merging the shards of a checkpoint

A tensor is the list of its rows. -/

namespace SearchR1.ConvertFsdpToHf

open PyText PyJson

/-- A value of a shard; the local part of a distributed tensor is what `to_local` returns. -/
inductive Param (ρ : Type) where
  | dtensor (localPart : List ρ)
  | tensor (rows : List ρ)
  | other

abbrev Shard (ρ : Type) := Dict Text (Param ρ)

abbrev StateDict (ρ : Type) := Dict Text (List ρ)

/-- The names in a checkpoint directory, in the order of `os.listdir`, and what each file
loads to. -/
structure Directory (ρ : Type) where
  listing : List Text
  load : Text → Shard ρ

inductive FileNotFound where
  | hfConfigPath
  | shardFiles

/-- `str.replace(pat, "")`: each round takes out the leftmost occurrence. -/
def removeAll (pat : Text) : ℕ → Text → Text
  | 0, s => s
  | fuel + 1, s =>
      match cut pat s with
      | none => s
      | some (a, rest) => a ++ removeAll pat fuel rest

def cleanKey (key : Text) : Text := removeAll (lit "_fsdp_wrapped_module.") key.length key

def isShardFile (f : Text) : Bool :=
  (lit "model_world_size").isPrefixOf f && (lit ".pt").isSuffixOf f

variable {ρ : Type} (toBfloat16 : ρ → ρ)

def Param.toTensor : Param ρ → Option (List ρ)
  | .dtensor localPart => some localPart
  | .tensor rows => some rows
  | .other => none

/-- A round of the loop over the items of a shard. -/
def mergeParam (fullStateDict : StateDict ρ) (item : Text × Param ρ) : StateDict ρ :=
  match item.2.toTensor with
  | some rows => fullStateDict.set (cleanKey item.1) (rows.map toBfloat16)
  | none => fullStateDict

def mergeShard (fullStateDict : StateDict ρ) (shard : Shard ρ) : StateDict ρ :=
  shard.foldl (mergeParam toBfloat16) fullStateDict

def mergeFiles (dir : Directory ρ) (files : List Text) : StateDict ρ :=
  files.foldl (fun fullStateDict f => mergeShard toBfloat16 fullStateDict (dir.load f)) []

def shardFiles (dir : Directory ρ) : List Text :=
  (dir.listing.filter isShardFile).insertionSort (· ≤ ·)

/-- `convert_fsdp_to_hf` up to the merged state dict; `configExists` tells whether the path of
the configuration exists. -/
def convertFsdpToHf (configExists : Bool) (dir : Directory ρ) :
    Except FileNotFound (StateDict ρ) :=
  if !configExists then .error .hfConfigPath
  else if shardFiles dir = [] then .error .shardFiles
  else .ok (mergeFiles toBfloat16 dir (shardFiles dir))

/-! ## Checkpoints -/

/-- A state dict split by rows over the ranks. -/
structure Checkpoint (ρ : Type) where
  worldSize : ℕ
  worldSize_pos : 1 ≤ worldSize
  keys : List Text
  slice : ℕ → Text → List ρ
  keys_nodup : (keys.map cleanKey).Nodup

/-- The file that the checkpoint manager writes for a rank. -/
def Checkpoint.fileName (c : Checkpoint ρ) (rank : ℕ) : Text :=
  lit "model_world_size_" ++ natText c.worldSize ++ lit "_rank_" ++ natText rank ++ lit ".pt"

def Checkpoint.shard (c : Checkpoint ρ) (rank : ℕ) : Shard ρ :=
  c.keys.map fun key => (key, .dtensor (c.slice rank key))

/-- The original tensor: the slices in rank order. -/
def Checkpoint.tensor (c : Checkpoint ρ) (key : Text) : List ρ :=
  (List.range c.worldSize).flatMap fun rank => c.slice rank key

/-- The shard files of a directory are those of the checkpoint. -/
structure Directory.Holds (dir : Directory ρ) (c : Checkpoint ρ) : Prop where
  files : (dir.listing.filter isShardFile).Perm ((List.range c.worldSize).map c.fileName)
  load : ∀ rank < c.worldSize, dir.load (c.fileName rank) = c.shard rank

end SearchR1.ConvertFsdpToHf
