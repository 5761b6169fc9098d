import TlshubEbpf.Capture.PerformanceMetrics
import TlshubEbpf.Lib.Printf

/-! # Export of the metrics (`performance_metrics.c`)

The texts that the two exporters write, in any arithmetic on doubles: the digits that
are printed of a result depend on how it was rounded. -/

set_option autoImplicit false

namespace TlshubEbpf.Capture

open Lib

structure Exported where
  ret : Int
  file : Option (List Char)
  ctx : PerfMetricsCtx

def exportSummary (time : ℤ) (system : SystemMetrics) (stats : PerformanceStats) : List Char :=
  List.flatten
    [fprintf "\x7b\n" [],
      fprintf "  \"timestamp\": %ld,\n" [.ld time],
      fprintf "  \"summary\": \x7b\n" [],
      fprintf "    \"total_connections\": %llu,\n" [.llu stats.totalConnections],
      fprintf "    \"successful_connections\": %llu,\n" [.llu stats.successfulConnections],
      fprintf "    \"failed_connections\": %llu,\n" [.llu stats.failedConnections],
      fprintf "    \"active_connections\": %u,\n" [.u system.activeConnections],
      fprintf "    \"avg_connection_latency_ms\": %.3f,\n" [.f stats.avgConnectionLatencyMs],
      fprintf "    \"min_connection_latency_ms\": %.3f,\n" [.f stats.minConnectionLatencyMs],
      fprintf "    \"max_connection_latency_ms\": %.3f,\n" [.f stats.maxConnectionLatencyMs],
      fprintf "    \"avg_key_negotiation_ms\": %.3f,\n" [.f stats.avgKeyNegotiationMs],
      fprintf "    \"min_key_negotiation_ms\": %.3f,\n" [.f stats.minKeyNegotiationMs],
      fprintf "    \"max_key_negotiation_ms\": %.3f,\n" [.f stats.maxKeyNegotiationMs],
      fprintf "    \"avg_throughput_mbps\": %.2f,\n" [.f stats.avgThroughputMbps],
      fprintf "    \"max_throughput_mbps\": %.2f,\n" [.f stats.maxThroughputMbps],
      fprintf "    \"total_bytes_transferred\": %llu,\n" [.llu stats.totalBytesTransferred],
      fprintf "    \"cpu_usage_percent\": %.2f,\n" [.f stats.avgCpuUsage],
      fprintf "    \"memory_usage_kb\": %llu\n" [.llu stats.avgMemoryUsageKb],
      fprintf "  \x7d,\n" []]

section Exporters
variable (doubles : Doubles)

/-- One turn of the loop; `more` is the test for the comma. -/
def exportConnection (cm : ConnectionMetrics) (more : Bool) : List Char :=
  List.flatten
    [fprintf "    \x7b\n" [],
      fprintf "      \"connection_id\": %llu,\n" [.llu cm.connectionId],
      fprintf "      \"connection_latency_ms\": %.3f,\n"
        [.f (doubles.nsToMs cm.connectionLatency.durationNs)],
      fprintf "      \"key_negotiation_ms\": %.3f,\n"
        [.f (doubles.nsToMs cm.keyNegotiation.durationNs)],
      fprintf "      \"bytes_sent\": %llu,\n" [.llu cm.bytesSent],
      fprintf "      \"bytes_received\": %llu,\n" [.llu cm.bytesReceived],
      fprintf "      \"throughput_mbps\": %.2f\n" [.f cm.throughputMbps],
      fprintf "    \x7d%s\n" [.s (if more then [','] else [])]]

/-- `opened` is whether `fopen` succeeds and `time` is what `time(NULL)` returns. -/
def perfMetricsExportJson (opened : Bool) (time : ℤ) (ctx : PerfMetricsCtx) : Exported :=
  if opened then
    let ctx := perfMetricsCalculateStats doubles ctx
    let current := ctx.currentConnections
    { ret := 0
      file := some (exportSummary time ctx.systemMetrics ctx.stats ++
        (fprintf "  \"connections\": [\n" [] ++
          (((List.range current.toNat).flatMap fun (i : ℕ) =>
              exportConnection doubles (ctx.connMetrics i) (UInt32.ofNat i < current - 1)) ++
            (fprintf "  ]\n" [] ++ fprintf "\x7d\n" []))))
      ctx := { ctx with accessed := visitedIndices current.toNat ++ ctx.accessed } }
  else
    ⟨-1, none, ctx⟩

def exportRow (cm : ConnectionMetrics) : List Char :=
  fprintf "%llu,%.3f,%.3f,%llu,%llu,%.2f\n"
    [.llu cm.connectionId, .f (doubles.nsToMs cm.connectionLatency.durationNs),
      .f (doubles.nsToMs cm.keyNegotiation.durationNs), .llu cm.bytesSent, .llu cm.bytesReceived,
      .f cm.throughputMbps]

def perfMetricsExportCsv (opened : Bool) (ctx : PerfMetricsCtx) : Exported :=
  if opened then
    let current := ctx.currentConnections
    { ret := 0
      file := some
        (fprintf
          "connection_id,connection_latency_ms,key_negotiation_ms,bytes_sent,bytes_received,throughput_mbps\n"
          [] ++
          (List.range current.toNat).flatMap fun (i : ℕ) => exportRow doubles (ctx.connMetrics i))
      ctx := { ctx with accessed := visitedIndices current.toNat ++ ctx.accessed } }
  else
    ⟨-1, none, ctx⟩

end Exporters

end TlshubEbpf.Capture
