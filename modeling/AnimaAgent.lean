import AnimaAgent.Agent.ApprovalGates
import AnimaAgent.Agent.AutoResolution
import AnimaAgent.Agent.CachedAnswers
import AnimaAgent.Agent.FailedAnswers
import AnimaAgent.Agent.RunTranscript
import AnimaAgent.Agent.StrandedRuns
import AnimaAgent.Agent.TerminalRecords
import AnimaAgent.Agent.UpstreamSessions
import AnimaAgent.Bus.Buffers
import AnimaAgent.Cache.Agreement
import AnimaAgent.Cache.Recency
import AnimaAgent.Cache.Ttl
import AnimaAgent.Channel.Registry
import AnimaAgent.Channel.SessionCallers
import AnimaAgent.Channel.SessionIndexes
import AnimaAgent.Context.FileNames
import AnimaAgent.Context.HistoryAppends
import AnimaAgent.Context.Promotion
import AnimaAgent.Context.ReadBack
import AnimaAgent.Context.Recency
import AnimaAgent.Context.Snapshots
import AnimaAgent.Dispatcher.BreakerCalls
import AnimaAgent.Dispatcher.BreakerRecovery
import AnimaAgent.Dispatcher.Drained
import AnimaAgent.Dispatcher.HalfOpenTrials
import AnimaAgent.Dispatcher.RoundRobin
import AnimaAgent.Dispatcher.RouteFairness
import AnimaAgent.Execution.AskedTools
import AnimaAgent.Execution.FinalText
import AnimaAgent.Execution.LifecycleWords
import AnimaAgent.Execution.PanickedThreads
import AnimaAgent.Execution.RecordedContent
import AnimaAgent.Messages.CompactFrame
import AnimaAgent.Metrics
import AnimaAgent.Orchestrator.GroupModes
import AnimaAgent.Orchestrator.LlmDecompose
import AnimaAgent.Orchestrator.RoutedTasks
import AnimaAgent.Orchestrator.SubtaskOrder
import AnimaAgent.Pipeline.Conservation
import AnimaAgent.Provider.OpenAiBody
import AnimaAgent.Provider.SplitCompletion
import AnimaAgent.Provider.SseLines
import AnimaAgent.Runtime.IndexIntegrity
import AnimaAgent.Runtime.JsonStore
import AnimaAgent.Streaming.PartialDrains
import AnimaAgent.Streaming.Truncation
import AnimaAgent.Tasks.Scheduler
import AnimaAgent.Tools.Search
import AnimaAgent.Web.DeletedSession
import AnimaAgent.Web.RecentEvents
import AnimaAgent.Worker.BusyAnswers
import AnimaAgent.Worker.StreamedText
import AnimaAgent.Worker.TaskResults
