import TlshubEbpf.Bench.CsvExport
import TlshubEbpf.Bench.EchoServer
import TlshubEbpf.Bench.LatencyStatistics

/-! # The benchmark (`main.c`)

`main` takes its options, and either serves clients or runs its connections and writes
the two files.  What the system answers is part of the environment.  What is printed on
the way has no effect. -/

set_option autoImplicit false

namespace TlshubEbpf.Bench

open Lib

/-- What `getrusage` returns: times in seconds and microseconds, and kilobytes. -/
structure ResourceUsage where
  utimeSec : ℤ
  utimeUsec : ℤ
  stimeSec : ℤ
  stimeUsec : ℤ
  maxrss : ℤ

structure BenchEnv where
  jsonTime : ℤ
  csvTime : ℤ
  pid : ℤ
  options : List CommandOption
  server : ServerEnv
  arrivals : List Arrival
  callocOk : Bool
  testStartTime : Timespec
  testEndTime : Timespec
  connection : ℕ → ConnectionScript
  /-- A connection in which `send` raises SIGPIPE. -/
  brokenPipe : Option ℕ
  cpuUsage : Option ResourceUsage
  memoryUsage : Option ResourceUsage
  opens : List UInt8 → Bool

def getMemoryUsage : Option ResourceUsage → ℚ
  | some usage => usage.maxrss / 1024
  | none => 0

/-- The part of `finalize_metrics` that asks the system. -/
def cpuUsagePercent (usage : Option ResourceUsage) (totalTestDurationSec : ℚ) : ℚ :=
  match usage with
  | some usage =>
      if totalTestDurationSec > 0 then
        let userTimeSec : ℚ := usage.utimeSec + usage.utimeUsec / 1000000
        let sysTimeSec : ℚ := usage.stimeSec + usage.stimeUsec / 1000000
        (userTimeSec + sysTimeSec) / totalTestDurationSec * 100
      else
        0
  | none => 0

def finalMetrics (env : BenchEnv) (metrics : GlobalMetrics) : FinalMetrics :=
  let totalTestDurationSec := timespecDiffMs env.testStartTime env.testEndTime / 1000
  { finalizeMetrics metrics with
    totalTestDurationSec
    cpuUsagePercent := cpuUsagePercent env.cpuUsage totalTestDurationSec
    memoryUsageMb := getMemoryUsage env.memoryUsage }

structure BenchEnd where
  status : Int
  files : List (List UInt8 × List UInt8)

/-- What a file of this name holds in the end. -/
def BenchEnd.fileNamed (name : List UInt8) (ended : BenchEnd) : Option (List UInt8) :=
  ended.files.reverse.lookup name

def BenchEnv.scripts (env : BenchEnv) (count : ℕ) : List ConnectionScript :=
  (List.range count).map env.connection

/-- The two exports, of which the second may replace the file of the first. -/
def exportFiles (env : BenchEnv) (config : BenchConfig) (metrics : FinalMetrics)
    (connStatsArray : List ConnStats) : List (List UInt8 × List UInt8) :=
  let stats := fun i => connStatsArray.getD i ConnStats.zeroed
  let json := exportMetricsJson (env.opens config.outputJson.string) config metrics stats
    config.totalConnections
  let csv := exportMetricsCsv (env.opens config.outputCsv.string) config metrics stats
    config.totalConnections
  (json.2.map fun file => (config.outputJson.string, file)).toList ++
    (csv.2.map fun file => (config.outputCsv.string, file)).toList

/-- The connections one after the other, as far as one whose `send` raises SIGPIPE.
`run_tcp_client` returns 0 whatever becomes of them. -/
def runClientMode (env : BenchEnv) (config : BenchConfig) : Option BenchEnd :=
  let count := config.totalConnections.toNat
  match env.brokenPipe.filter (· < count) with
  | some broken =>
      (runTcpClient config.dataSize (env.scripts broken)).map fun _ => ⟨sigpipeStatus, []⟩
  | none =>
      (runTcpClient config.dataSize (env.scripts count)).map fun (metrics, connStatsArray) =>
        ⟨0, exportFiles env config (finalMetrics env metrics) connStatsArray⟩

def benchMain (env : BenchEnv) : Option BenchEnd :=
  match parseOptions (initConfig env.jsonTime env.csvTime env.pid) env.options with
  | .error (.invalid _) => some ⟨1, []⟩
  | .error (.usage status) => some ⟨status, []⟩
  | .ok config =>
      match config.mode with
      | .server =>
          match (runEchoServer env.server env.arrivals EchoServer.start).1 with
          | .returned ret => some ⟨if ret = 0 then 0 else 1, []⟩
          | .exited status => some ⟨status, []⟩
          | .crashed => none
          | .blocked => none
      | .client =>
          if env.callocOk = false then some ⟨1, []⟩ else runClientMode env config

end TlshubEbpf.Bench
