import TlshubEbpf.Lib.Program
import TlshubEbpf.Netlink.Message
import TlshubEbpf.Netlink.System
import TlshubEbpf.Capture.TlshubClient
import TlshubEbpf.Api.Tlshub
import TlshubEbpf.Capture.FetchKey
import TlshubEbpf.Api.FetchKey
import TlshubEbpf.Netlink.Exchange
import TlshubEbpf.Clients.ErrorTermination
import TlshubEbpf.Netlink.Stream
import TlshubEbpf.Capture.Stream
import TlshubEbpf.Api.Stream
import TlshubEbpf.Clients.Agreement
import TlshubEbpf.Capture.KeyProvider
import TlshubEbpf.Capture.MessageOrigin
import TlshubEbpf.Api.PortBinding
import TlshubEbpf.Ktls.KtlsConfig
import TlshubEbpf.Bpf.Capture
import TlshubEbpf.Lib.Transitions
import TlshubEbpf.Bpf.EventSoundness
import TlshubEbpf.Bpf.LostConnections
import TlshubEbpf.Bpf.Concurrency
import TlshubEbpf.Netlink.OpenSockets
import TlshubEbpf.Capture.ProviderLifecycle
import TlshubEbpf.Bench.Connection
import TlshubEbpf.Bench.EchoFidelity
import TlshubEbpf.Bench.Deadlock
import TlshubEbpf.Bench.Outcomes
import TlshubEbpf.Capture.PerformanceMetrics
import TlshubEbpf.Capture.MetricsInvariant
import TlshubEbpf.Capture.EventReport
import TlshubEbpf.Lib.Memory
import TlshubEbpf.Netlink.RequestBytes
import TlshubEbpf.Netlink.Requests
import TlshubEbpf.Capture.Requests
import TlshubEbpf.Api.Requests
import TlshubEbpf.Clients.RequestBytes
import TlshubEbpf.Capture.ByteOrder
import TlshubEbpf.Capture.GetKeyTrace
import TlshubEbpf.Bpf.MapInvariant
import TlshubEbpf.Bench.CompleteEcho
import TlshubEbpf.Ktls.Attempts
import TlshubEbpf.Lib.Statistics
import TlshubEbpf.Bench.LatencyStatistics
import TlshubEbpf.Capture.Statistics
import TlshubEbpf.Capture.SystemMetrics
import TlshubEbpf.Capture.Durations
import TlshubEbpf.Capture.DataTransfer
import TlshubEbpf.Capture.EventTimes
import TlshubEbpf.Lib.Decimal
import TlshubEbpf.Lib.Printf
import TlshubEbpf.Capture.Export
import TlshubEbpf.Lib.Json
import TlshubEbpf.Capture.ExportRoundTrip
import TlshubEbpf.Bench.Options
import TlshubEbpf.Bench.Export
import TlshubEbpf.Bench.NumericOptions
import TlshubEbpf.Lib.JsonStrings
import TlshubEbpf.Lib.Utf8
import TlshubEbpf.Bench.ExportValidity
import TlshubEbpf.Capture.PodMapping
import TlshubEbpf.Capture.LoadConfig
import TlshubEbpf.Capture.AnalyzePerf
import TlshubEbpf.Lib.Ranking
import TlshubEbpf.Capture.ModeRanking
import TlshubEbpf.Capture.ProcFiles
import TlshubEbpf.Lib.Scan
import TlshubEbpf.Lib.Triple
import TlshubEbpf.Lib.Ledger
import TlshubEbpf.Capture.SystemUpdates
import TlshubEbpf.Capture.Daemon
import TlshubEbpf.Capture.ProviderCleanup
import TlshubEbpf.Capture.DaemonInvariant
import TlshubEbpf.Capture.DaemonShutdown
import TlshubEbpf.Capture.DaemonReport
import TlshubEbpf.Bench.EchoServer
import TlshubEbpf.Bench.EchoServing
import TlshubEbpf.Bench.EchoRefinement
import TlshubEbpf.Bench.CsvExport
import TlshubEbpf.Lib.Settings
import TlshubEbpf.Bench.OptionOrder
import TlshubEbpf.Bench.Main
import TlshubEbpf.Bench.MainReport
