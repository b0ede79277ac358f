import SearchR1.Library.Chunks
import SearchR1.Library.Masked

/-! # Calls of a worker group -/

namespace SearchR1.WorkerGroup

/-- The device mesh of an engine: the ranks of a sequence-parallel group are consecutive. -/
structure Mesh where
  dpSize : ℕ
  spSize : ℕ
  dpSize_pos : 0 < dpSize
  spSize_pos : 0 < spSize

namespace Mesh

variable (mesh : Mesh)

def worldSize : ℕ := mesh.dpSize * mesh.spSize

/-- `get_data_parallel_rank`. -/
def dataParallelRank (rank : ℕ) : ℕ := rank / mesh.spSize

/-- `is_mp_src_rank_with_outputs`. -/
def isMpSrcRankWithOutputs (rank : ℕ) : Bool := rank % mesh.spSize = 0

/-- `_query_dispatch_info`, of every worker. -/
def dpRankMapping : List ℕ := (List.range mesh.worldSize).map mesh.dataParallelRank

/-- `_query_collect_info`, of every worker. -/
def collectMask : List Bool := (List.range mesh.worldSize).map mesh.isMpSrcRankWithOutputs

end Mesh

variable {α β : Type}

/-- `chunk_tensordict`. -/
def chunkTensordict (td : List α) (chunks : ℕ) : Option (List (List α)) :=
  if chunks = 0 ∨ td.length % chunks ≠ 0 then none
  else some (Chunks.chunks (td.length / chunks) chunks td)

/-- `dispatch_nd_compute`. -/
def dispatchNdCompute (dpRankMapping : List ℕ) (dpSize : ℕ) (arg : List α) : Option (List α) :=
  if arg.length = dpSize then dpRankMapping.mapM fun localDpRank => arg[localDpRank]? else none

/-- `dispatch_lazy_compute_data_proto`. -/
def dispatchLazyComputeDataProto (dpRankMapping : List ℕ) (data : List α) :
    Option (List (List α)) :=
  dpRankMapping.max?.bind fun lastRank =>
    (chunkTensordict data (lastRank + 1)).bind (dispatchNdCompute dpRankMapping (lastRank + 1))

/-- `collect_nd_compute`. -/
def collectNdCompute (collectMask : List Bool) (output : List α) : Option (List α) :=
  if output.length = collectMask.length then some (Masked.select id collectMask output) else none

/-- `BatchData.concat` of what was collected; only a worker that is to be collected returns rows. -/
def concat (output : List (Option (List β))) : Option (List β) :=
  if output = [] then none else (output.mapM id).map List.flatten

/-- A method registered with `make_nd_compute_dataproto_dispatch_fn`. -/
def Mesh.call (mesh : Mesh) (worker : ℕ → List α → Option (List β)) (data : List α) :
    Option (List β) := do
  let args ← dispatchLazyComputeDataProto mesh.dpRankMapping data
  let output ← args.zipIdx.mapM fun arg =>
    (worker (mesh.dataParallelRank arg.2) arg.1).map fun rows =>
      if mesh.isMpSrcRankWithOutputs arg.2 then some rows else none
  let outputInDp ← collectNdCompute mesh.collectMask output
  concat outputInDp

end SearchR1.WorkerGroup
