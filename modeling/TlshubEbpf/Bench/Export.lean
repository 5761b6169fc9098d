import TlshubEbpf.Bench.Options
import TlshubEbpf.Bench.Outcomes

/-! # Export of the benchmark (`bench_common.c`)

The bytes that `export_metrics_json` writes, a call of `fprintf` after the other.  The
target goes into the file as it is in the configuration. -/

set_option autoImplicit false

namespace TlshubEbpf.Bench

open Lib

structure FinalMetrics extends GlobalMetrics where
  totalTestDurationSec : ℚ
  cpuUsagePercent : ℚ
  memoryUsageMb : ℚ

def ConnState.code : ConnState → Int
  | .init => 0
  | .connecting => 1
  | .connected => 2
  | .sending => 3
  | .receiving => 4
  | .closing => 5
  | .closed => 6
  | .failed => 7
  | .timeout => 8

def BenchMode.name : BenchMode → List Char
  | .client => ['c', 'l', 'i', 'e', 'n', 't']
  | .server => ['s', 'e', 'r', 'v', 'e', 'r']

def exportConfiguration (config : BenchConfig) : List Char :=
  List.flatten
    [fprintf "\x7b\n" [],
      fprintf "  \"test_configuration\": \x7b\n" [],
      fprintf "    \"mode\": \"%s\",\n" [.s config.mode.name],
      fprintf "    \"target_ip\": \"%s\",\n" [.s (latin1 config.targetIp.string)],
      fprintf "    \"target_port\": %u,\n" [.u config.targetPort.toUInt32],
      fprintf "    \"listen_port\": %u,\n" [.u config.listenPort.toUInt32],
      fprintf "    \"data_size\": %zu,\n" [.zu config.dataSize.bytes],
      fprintf "    \"concurrency\": %d,\n" [.d config.concurrency],
      fprintf "    \"total_connections\": %d\n" [.d config.totalConnections],
      fprintf "  \x7d,\n" []]

def exportSummary (metrics : FinalMetrics) : List Char :=
  List.flatten
    [fprintf "  \"summary_metrics\": \x7b\n" [],
      fprintf "    \"total_connections\": %d,\n" [.d metrics.totalConnections],
      fprintf "    \"successful_connections\": %d,\n" [.d metrics.successfulConnections],
      fprintf "    \"failed_connections\": %d,\n" [.d metrics.failedConnections],
      fprintf "    \"timeout_connections\": %d,\n" [.d metrics.timeoutConnections],
      fprintf "    \"total_bytes_sent\": %lu,\n" [.lu metrics.totalBytesSent],
      fprintf "    \"total_bytes_received\": %lu,\n" [.lu metrics.totalBytesReceived],
      fprintf "    \"avg_connection_latency_ms\": %.3f,\n" [.f metrics.avgConnectionLatencyMs],
      fprintf "    \"min_connection_latency_ms\": %.3f,\n" [.f metrics.minConnectionLatencyMs],
      fprintf "    \"max_connection_latency_ms\": %.3f,\n" [.f metrics.maxConnectionLatencyMs],
      fprintf "    \"avg_throughput_mbps\": %.3f,\n" [.f metrics.avgThroughputMbps],
      fprintf "    \"total_test_duration_sec\": %.3f,\n" [.f metrics.totalTestDurationSec],
      fprintf "    \"cpu_usage_percent\": %.2f,\n" [.f metrics.cpuUsagePercent],
      fprintf "    \"memory_usage_mb\": %.2f\n" [.f metrics.memoryUsageMb],
      fprintf "  \x7d,\n" []]

/-- One turn of the loop; `more` is the test for the comma. -/
def exportConnection (stats : ConnStats) (more : Bool) : List Char :=
  List.flatten
    [fprintf "    \x7b\n" [],
      fprintf "      \"conn_id\": %d,\n" [.d stats.connId],
      fprintf "      \"state\": %d,\n" [.d stats.state.code],
      fprintf "      \"bytes_sent\": %lu,\n" [.lu stats.bytesSent],
      fprintf "      \"bytes_received\": %lu,\n" [.lu stats.bytesReceived],
      fprintf "      \"connection_latency_ms\": %.3f,\n" [.f stats.connectionLatencyMs],
      fprintf "      \"data_transfer_time_ms\": %.3f,\n" [.f stats.dataTransferTimeMs],
      fprintf "      \"throughput_mbps\": %.3f\n" [.f stats.throughputMbps],
      fprintf "    \x7d%s\n" [.s (if more then [','] else [])]]

def exportDetails (connStatsArray : ℕ → ConnStats) (numConnections : Int) : List Char :=
  fprintf "  \"connection_details\": [\n" [] ++
    (((List.range numConnections.toNat).flatMap fun (i : ℕ) =>
        exportConnection (connStatsArray i) ((i : Int) < numConnections - 1)) ++
      (fprintf "  ]\n" [] ++ fprintf "\x7d\n" []))

def exportMetricsJson (opened : Bool) (config : BenchConfig) (metrics : FinalMetrics)
    (connStatsArray : ℕ → ConnStats) (numConnections : Int) : Int × Option (List UInt8) :=
  if opened then
    (0, some ((exportConfiguration config ++
      (exportSummary metrics ++ exportDetails connStatsArray numConnections)).map Char.toUInt8))
  else
    (-1, none)

end TlshubEbpf.Bench
