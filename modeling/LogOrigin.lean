import LogOrigin.Sink.Journal
import LogOrigin.StackFrame.Symbol
import LogOrigin.Main
import LogOrigin.Proofs.BindingRecords
import LogOrigin.Proofs.BindingAlone
import LogOrigin.Proofs.TraceRoundTrip
import LogOrigin.AdapterSet.Call
import LogOrigin.Proofs.AdapterSet
import LogOrigin.Proofs.SourceLines
import LogOrigin.Proofs.JsonTrailing
import LogOrigin.Proofs.EventLines
import LogOrigin.Proofs.ReplayFile
import LogOrigin.AdapterSet.Operation
import LogOrigin.Sink.Watched
import LogOrigin.Proofs.WatchedAdapters
import LogOrigin.Proofs.AdapterViews
import LogOrigin.Proofs.SinkMaps
import LogOrigin.Proofs.AdapterOperations
import LogOrigin.Proofs.ReplayParts
import LogOrigin.Proofs.Payloads
import LogOrigin.Proofs.LiveAttribution
import LogOrigin.Proofs.EventRoundTrip
import LogOrigin.Proofs.DeviceFailures
import LogOrigin.Proofs.FailedReplay
import LogOrigin.Proofs.LineTerminators
import LogOrigin.Proofs.TraceGrammar
import LogOrigin.Proofs.CommandRuns
import LogOrigin.Proofs.TraceNoise
import LogOrigin.Proofs.CauseAttribution
import LogOrigin.Proofs.TornSymbols
import LogOrigin.Proofs.RecordMembers
import LogOrigin.Proofs.SkipCounts
import LogOrigin.Proofs.SinkHandles
import LogOrigin.Proofs.TornLines
import LogOrigin.Proofs.AppendedLines
import LogOrigin.Proofs.MemberOrder
import LogOrigin.Proofs.HeadlessTraces
import LogOrigin.Proofs.ErrorChain
