import SearchR1.Library.Text
import SearchR1.Library.Blocks
import SearchR1.Library.Tags
import SearchR1.Library.Dict
import SearchR1.Library.Json
import SearchR1.Library.JsonScan
import SearchR1.Library.JsonRoundTrip
import SearchR1.Model.Runtime
import SearchR1.Model.ToolParser
import SearchR1.Model.GenerateTeacherTrajectories
import SearchR1.Model.AnswerMatching
import SearchR1.Model.BuildSftData
import SearchR1.Library.Monadic
import SearchR1.Library.Fields
import SearchR1.Library.Overlap
import SearchR1.Library.Averages
import SearchR1.Model.AsciiRuntime
import SearchR1.Verification.ToolCalls.Strict
import SearchR1.Verification.ToolCalls.Lenient
import SearchR1.Verification.ToolCalls.Agreement
import SearchR1.Model.SearchTool
import SearchR1.Verification.ToolCalls.Query
import SearchR1.Verification.SftData.RoleSequence
import SearchR1.Verification.SftData.Records
import SearchR1.Library.IndexLoop
import SearchR1.Library.GroupStatistics
import SearchR1.Model.CoreAlgos
import SearchR1.Model.GrpoVectorized
import SearchR1.Verification.Advantage.Isolation
import SearchR1.Model.TrajectoryFilter
import SearchR1.Model.RayTrainer
import SearchR1.Verification.Filtering.GroupFilter
import SearchR1.Verification.Filtering.MaskSet
import SearchR1.Model.V1Trainer
import SearchR1.Verification.Advantage.Sessions
import SearchR1.Verification.Advantage.TrainerPaths
import SearchR1.Verification.Advantage.Vectorized
import SearchR1.Library.Runs
import SearchR1.Model.ToolAgentLoop
import SearchR1.Verification.Rollout.Accumulation
import SearchR1.Verification.Rollout.Steps
import SearchR1.Model.QaEmToolReward
import SearchR1.Model.AgentLoop
import SearchR1.Verification.Filtering.Classification
import SearchR1.Verification.Rollout.Budget
import SearchR1.Verification.Rollout.SearchOutcomes
import SearchR1.Verification.Rollout.Anomalies
import SearchR1.Verification.Rollout.SearchCredit
import SearchR1.Model.TrajectoryMetrics
import SearchR1.Verification.Filtering.LoggedMetrics
import SearchR1.Verification.Rollout.ResponseText
import SearchR1.Verification.Rollout.XmlFallback
import SearchR1.Verification.Rollout.TruncationAccounting
import SearchR1.Model.SearchToolInstances
import SearchR1.Verification.Rollout.InstanceIsolation
import SearchR1.Model.ConvertToHermesSft
import SearchR1.Verification.Conversion.Query
import SearchR1.Verification.Conversion.Completeness
import SearchR1.Verification.Conversion.Idempotence
import SearchR1.Model.TeacherTrajectories
import SearchR1.Verification.Teacher.Turns
import SearchR1.Verification.Conversion.Trajectories
import SearchR1.Model.QaParquet
import SearchR1.Verification.Teacher.Metadata
import SearchR1.Library.LruCache
import SearchR1.Model.RetrievalService
import SearchR1.Verification.Retrieval.CacheTransparency
import SearchR1.Verification.Retrieval.Padding
import SearchR1.Verification.Rollout.LengthBound
import SearchR1.Model.ConvertFsdpToHf
import SearchR1.Verification.Checkpoint.Merge
import SearchR1.Model.EvalEmF1
import SearchR1.Model.ConvertAndEval
import SearchR1.Verification.Evaluation.LastAnswer
import SearchR1.Verification.Evaluation.ExactMatch
import SearchR1.Verification.Evaluation.Acceptance
import SearchR1.Verification.Evaluation.NormalForm
import SearchR1.Verification.Evaluation.TokenF1
import SearchR1.Model.SeqlenBalancing
import SearchR1.Verification.Advantage.Unmasked
import SearchR1.Verification.Advantage.Laws
import SearchR1.Verification.Advantage.Reordering
import SearchR1.Verification.Rollout.Totality
import SearchR1.Verification.Rollout.Framing
import SearchR1.Verification.Rollout.EvidenceBonus
import SearchR1.Verification.ToolCalls.Recovery
import SearchR1.Verification.ToolCalls.Grammar
import SearchR1.Verification.Teacher.QueryExtraction
import SearchR1.Verification.Teacher.FailedRetrieval
import SearchR1.Library.Recency
import SearchR1.Verification.Retrieval.CacheRecency
import SearchR1.Library.Quantiles
import SearchR1.Verification.Filtering.LatencyQuantiles
import SearchR1.Model.GroupMetrics
import SearchR1.Verification.Advantage.GroupMetrics
import SearchR1.Model.RawSftRecords
import SearchR1.Verification.SftData.Conservation
import SearchR1.Verification.SftData.DiscardReasons
import SearchR1.Verification.SftData.Reading
import SearchR1.Verification.SftData.RawAgreement
import SearchR1.Library.HeapLoop
import SearchR1.Library.Spread
import SearchR1.Library.Chunks
import SearchR1.Model.KarmarkarKarp
import SearchR1.Verification.Balancing.Differencing
import SearchR1.Verification.Balancing.KarmarkarKarp
import SearchR1.Verification.Balancing.Partitions
import SearchR1.Verification.Balancing.Ranks
import SearchR1.Model.MicroBatches
import SearchR1.Verification.Balancing.MicroBatches
import SearchR1.Library.Decoding
import SearchR1.Model.RequestLoadBalancer
import SearchR1.Verification.Serving.LoadBalancer
import SearchR1.Verification.Serving.StickySessions
import SearchR1.Model.LlmServerClient
import SearchR1.Verification.Serving.ResumedGeneration
import SearchR1.Library.OldestFirst
import SearchR1.Model.ReplayBuffer
import SearchR1.Model.AgentLoopTQ
import SearchR1.Model.V1Fit
import SearchR1.Verification.ReplayBuffer.Keys
import SearchR1.Verification.ReplayBuffer.Store
import SearchR1.Verification.ReplayBuffer.Tasks
import SearchR1.Verification.ReplayBuffer.Sampling
import SearchR1.Verification.ReplayBuffer.Invariant
import SearchR1.Verification.ReplayBuffer.Interleavings
import SearchR1.Verification.ReplayBuffer.Groups
import SearchR1.Verification.ReplayBuffer.Staleness
import SearchR1.Verification.ReplayBuffer.Upsampling
import SearchR1.Library.Masked
import SearchR1.Library.Grouping
import SearchR1.Model.TokenAdvantages
import SearchR1.Verification.Advantage.TokenReturns
import SearchR1.Verification.Advantage.OptimalTokenBaseline
import SearchR1.Model.OutcomeAdvantages
import SearchR1.Verification.Advantage.LeaveOneOut
import SearchR1.Model.PolicyLoss
import SearchR1.Verification.Balancing.LossSplitting
import SearchR1.Model.WorkerGroup
import SearchR1.Model.EngineForward
import SearchR1.Library.Jagged
import SearchR1.Verification.Engine.Workers
import SearchR1.Verification.Engine.Forward
import SearchR1.Verification.Engine.Padding
import SearchR1.Verification.Engine.LogProbs
