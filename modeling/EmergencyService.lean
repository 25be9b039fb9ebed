import EmergencyService.Foundation.AtomicProgram
import EmergencyService.Foundation.ThreadInterleaving
import EmergencyService.Foundation.GhostOutlines
import EmergencyService.Foundation.GuardedRuns
import EmergencyService.Foundation.JavaRuntime
import EmergencyService.Foundation.JsonValue
import EmergencyService.Frames.JavaFrame
import EmergencyService.Foundation.CppRuntime
import EmergencyService.Foundation.TerminatedStream
import EmergencyService.Foundation.SeparatorRuns
import EmergencyService.Foundation.SplitLoops
import EmergencyService.Foundation.SeparatedPieces
import EmergencyService.Foundation.StreamLines
import EmergencyService.Foundation.Utf8Text
import EmergencyService.Foundation.PendingOperations
import EmergencyService.Foundation.RecordedRuns
import EmergencyService.Foundation.TopicBroker
import EmergencyService.Foundation.TopicSession
import EmergencyService.Foundation.CallTraces
import EmergencyService.Frames.CppFrame
import EmergencyService.Frames.FrameExchange
import EmergencyService.Frames.FrameShape
import EmergencyService.Frames.FrameSplit
import EmergencyService.Frames.FrameStream
import EmergencyService.Frames.CppIndices
import EmergencyService.Frames.FrameBytes
import EmergencyService.Frames.DecoderLimits
import EmergencyService.Frames.HeaderPositions
import EmergencyService.Frames.EncoderRoundTrip
import EmergencyService.Server.ConnectionsImpl
import EmergencyService.Server.StompProtocolImpl
import EmergencyService.Server.RelayHops
import EmergencyService.Server.SubscriptionSweep
import EmergencyService.Server.CallFootprint
import EmergencyService.Server.HandlerThreads
import EmergencyService.Server.ServerRuns
import EmergencyService.Server.DisconnectEffect
import EmergencyService.Server.ProcessRun
import EmergencyService.Server.FrameEvents
import EmergencyService.Server.BranchOutcomes
import EmergencyService.Server.FrameOutcome
import EmergencyService.Server.AnswerSource
import EmergencyService.Server.MessageRelay
import EmergencyService.Server.OwnReplies
import EmergencyService.Server.RelayTraces
import EmergencyService.Server.MessageOrigins
import EmergencyService.Server.ReplyCount
import EmergencyService.Server.LoginHistory
import EmergencyService.Server.ConnectAnswers
import EmergencyService.Server.SubscriberLogins
import EmergencyService.Server.OtherConnections
import EmergencyService.Foundation.LocalCounters
import EmergencyService.Server.MessageIds
import EmergencyService.Server.SubscriptionRemoval
import EmergencyService.Server.SendAcceptance
import EmergencyService.Server.ChannelOrder
import EmergencyService.Server.LoginRaces
import EmergencyService.Server.SettledPasscodes
import EmergencyService.Server.SubscriptionRaces
import EmergencyService.Server.ProcessReturn
import EmergencyService.Server.MalformedInput
import EmergencyService.Server.HandlerLoops
import EmergencyService.Server.CleanupOutline
import EmergencyService.Server.EndedHandlings
import EmergencyService.Server.LoginsPerConnection
import EmergencyService.Foundation.SerialTasks
import EmergencyService.Server.ActorPool
import EmergencyService.Foundation.ReadLoops
import EmergencyService.Server.ReadTasks
import EmergencyService.Server.ReadModes
import EmergencyService.Foundation.DrainingRuns
import EmergencyService.Server.PoolProgress
import EmergencyService.Foundation.BufferQueue
import EmergencyService.Foundation.BufferedOutput
import EmergencyService.Foundation.LeasedCells
import EmergencyService.Server.BufferPool
import EmergencyService.Server.BlockingWrites
import EmergencyService.Server.NonBlockingWrites
import EmergencyService.Server.WriteStream
import EmergencyService.Server.WriteWakeup
import EmergencyService.Server.WriteProgress
import EmergencyService.Server.SelectorLoop
import EmergencyService.Server.ClosingFrames
import EmergencyService.Server.ReplyDelivery
import EmergencyService.Server.BrokerRounds
import EmergencyService.Server.BrokerRefinement
import EmergencyService.Client.EventReport
import EmergencyService.Client.EventsFile
import EmergencyService.Client.FrameBodyEvent
import EmergencyService.Client.KeyboardInput
import EmergencyService.Client.ProtocolSplit
import EmergencyService.Client.ReportLines
import EmergencyService.Client.ReportFidelity
import EmergencyService.Client.ChannelCommands
import EmergencyService.Client.SubscriptionRequests
import EmergencyService.Client.SubscriptionAgreement
import EmergencyService.Client.ReceiptCorrelation
import EmergencyService.Client.ReportValidity
import EmergencyService.Client.ServerResponses
import EmergencyService.Client.KeyboardLoop
import EmergencyService.Client.SessionProtocol
import EmergencyService.Client.CommandDispatch
import EmergencyService.Client.RelayedReports
import EmergencyService.Client.ReportFiling
import EmergencyService.Foundation.StdSort
import EmergencyService.Client.EventSummary
import EmergencyService.Client.ValidationExactness
import EmergencyService.Client.ReportStream
import EmergencyService.Client.DeliveredReports
