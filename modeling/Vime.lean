import Vime.Agent.SampleBuilder
import Vime.Foundation.RoseTree
import Vime.Agent.TrajectoryManager
import Vime.Agent.Absorption
import Vime.Agent.TokenExactness
import Vime.Agent.ResponseTrace
import Vime.Agent.NodeIdentity
import Vime.Agent.PathTrace
import Vime.Agent.Adapters.GenerateCall
import Vime.Agent.TrainedOnce
import Vime.Foundation.StopSampling
import Vime.Agent.Adapters.Continuation
import Vime.Backends.MegatronUtils.CpUtils
import Vime.Backends.MegatronUtils.CpPartition
import Vime.Foundation.Bins
import Vime.Utils.FlopsUtils
import Vime.Utils.SeqlenBalancing
import Vime.Utils.Packing
import Vime.Utils.DpSchedule
import Vime.Utils.DpScheduleContract
import Vime.Foundation.Execution
import Vime.Rollout.FullyAsyncDistributed
import Vime.Rollout.RunningWorkers
import Vime.Data.DataSource
import Vime.Data.QueueDataSource.Take
import Vime.Data.QueueDataSource.Refill
import Vime.Data.QueueDataSource.TrainingState
import Vime.Foundation.LittleEndian
import Vime.Foundation.Masks
import Vime.Utils.DiskDelta
import Vime.Data.Rewind
import Vime.Utils.PpoUtils
import Vime.Backends.MegatronUtils.Advantages
import Vime.Backends.MegatronUtils.Loss
import Vime.Data.BatchBuilder
import Vime.Backends.MegatronUtils.StepLoss
import Vime.Backends.MegatronUtils.Data
import Vime.Backends.MegatronUtils.LogProbs
import Vime.Backends.MegatronUtils.KeepMask
import Vime.Backends.MegatronUtils.Spans
import Vime.Backends.MegatronUtils.SpanWriters
import Vime.Backends.MegatronUtils.Layouts
import Vime.Backends.MegatronUtils.PackedStream
import Vime.Backends.MegatronUtils.Readers
import Vime.Backends.MegatronUtils.Redistribute
import Vime.Backends.MegatronUtils.MicroBatch
import Vime.Data.QueueDataSource.Batches
import Vime.Data.QueueDataSource.Acknowledgement
import Vime.Data.QueueDataSource.DurableAcknowledgement
import Vime.Rollout.GenerationPool
import Vime.Rollout.PoolLifecycle
import Vime.Rollout.PoolContract
import Vime.Rollout.FullyAsyncRollout
import Vime.Rollout.DrainingPause
import Vime.Utils.PpoBatch
import Vime.Backends.MegatronUtils.BatchReturns
import Vime.Data.GroupedRewards
import Vime.Data.RolloutMeans
import Vime.Data.GroupedRewardsContract
import Vime.Utils.MergedSets
import Vime.Utils.ScheduleSuccess
import Vime.Utils.Sample
import Vime.Utils.SampleRecord
import Vime.Utils.SampleAppends
import Vime.Utils.AlignedAppends
import Vime.Utils.RejectedAppends
import Vime.Utils.UntouchedAppends
import Vime.Agent.AppendedTurns
import Vime.Foundation.Occurrences
import Vime.Rollout.MultimodalPlaceholders
import Vime.Rollout.RetriedGroups
import Vime.Rollout.BatchSelection
import Vime.Backends.MegatronUtils.TensorSharding
import Vime.Rollout.StreamingGeneration
import Vime.Rollout.StreamedReplies
import Vime.Foundation.BulkArrays
import Vime.Utils.SamplerSupports
import Vime.Utils.SupportRows
import Vime.Backends.MegatronUtils.QuantizerCompressedTensors
import Vime.Utils.MaskUtils
import Vime.Utils.MarkedTokens
import Vime.Utils.RenderedTurns
import Vime.Utils.AssistantSpans
import Vime.Utils.AssistantLossMask
import Vime.Backends.MegatronUtils.UpdateWeight.ExpertRouting
import Vime.Backends.MegatronUtils.UpdateWeight.TransferBatches
import Vime.Backends.MegatronUtils.UpdateWeight.PlannedParams
import Vime.Backends.MegatronUtils.UpdateWeight.ExpertPlan
import Vime.Agent.TurnRuns
import Vime.Agent.RunMasks
import Vime.Agent.Emission
import Vime.Agent.Adapters.FinishSession
import Vime.Agent.AlignedReplay
import Vime.Data.Bundles
import Vime.Data.HandedBatches
import Vime.Backends.MegatronUtils.RoutedAlignment
import Vime.Backends.MegatronUtils.UpdateWeight.AgreedInfos
import Vime.Backends.MegatronUtils.UpdateWeight.ExportedParams
import Vime.Backends.MegatronUtils.HfCheckpointSaver
import Vime.Backends.MegatronUtils.UpdateWeight.CheckpointTensors
import Vime.Backends.MegatronUtils.UpdateWeight.PatchedTensors
import Vime.Backends.MegatronUtils.UpdateWeight.PulledWeights
import Vime.Backends.MegatronUtils.UpdateWeight.SyncRuns
import Vime.Backends.MegatronUtils.UpdateWeight.RetriedUpdates
import Vime.Backends.MegatronUtils.UpdateWeight.PulledSnapshots
import Vime.Ray.TrainingRecovery
import Vime.Ray.ReplayWindow
import Vime.Ray.SettledCalls
import Vime.Ray.RecoveryRuns
