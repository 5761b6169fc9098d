import Mathlib.Algebra.Group.Int.Defs
import Mathlib.Algebra.Group.Nat.Defs
import Mathlib.Algebra.Order.Ring.Rat
import Mathlib.Data.List.Basic
import Mathlib.Logic.Function.Basic
import TlshubEbpf.Lib.Timespec

/-! # The metrics context (`performance_metrics.c`)

Records of connections lie in an array that is used from its start; a slot is
never used again.  The array is a function on all indices, and the indices that
the functions use are recorded.  A `double` is the rational number it stands for.
The statistics take the arithmetic on doubles as a parameter; elsewhere it is exact. -/

set_option autoImplicit false

namespace TlshubEbpf.Capture

open Lib

structure Timepoint where
  start : Timespec
  finish : Timespec
  durationNs : UInt64
  deriving DecidableEq

structure ConnectionMetrics where
  connectionId : UInt64
  connectionLatency : Timepoint
  keyNegotiation : Timepoint
  bytesSent : UInt64
  bytesReceived : UInt64
  throughputMbps : ℚ
  firstDataTime : Timespec
  lastDataTime : Timespec

structure SystemMetrics where
  cpuUsagePercent : ℚ
  memoryUsageKb : UInt64
  memoryRssKb : UInt64
  memoryVmsKb : UInt64
  activeConnections : UInt32
  measurementTime : Timespec

@[ext]
structure PerformanceStats where
  totalConnections : UInt64
  successfulConnections : UInt64
  failedConnections : UInt64
  avgConnectionLatencyMs : ℚ
  minConnectionLatencyMs : ℚ
  maxConnectionLatencyMs : ℚ
  avgKeyNegotiationMs : ℚ
  minKeyNegotiationMs : ℚ
  maxKeyNegotiationMs : ℚ
  avgThroughputMbps : ℚ
  maxThroughputMbps : ℚ
  totalBytesTransferred : UInt64
  avgCpuUsage : ℚ
  peakCpuUsage : ℚ
  avgMemoryUsageKb : UInt64
  peakMemoryUsageKb : UInt64

structure CpuStat where
  user : UInt64
  nice : UInt64
  system : UInt64
  idle : UInt64
  iowait : UInt64
  irq : UInt64
  softirq : UInt64
  deriving DecidableEq

structure PerfMetricsCtx where
  connMetrics : Int → ConnectionMetrics
  maxConnections : UInt32
  currentConnections : UInt32
  systemMetrics : SystemMetrics
  stats : PerformanceStats
  monitoringEnabled : Int
  prevCpuStat : CpuStat
  cpuFirstCall : Int
  /-- The indices at which `conn_metrics` has been accessed, the latest first. -/
  accessed : List Int

def zeroTime : Timespec := ⟨0, 0⟩

def Timepoint.zeroed : Timepoint := ⟨zeroTime, zeroTime, 0⟩

def ConnectionMetrics.zeroed : ConnectionMetrics :=
  { connectionId := 0
    connectionLatency := Timepoint.zeroed
    keyNegotiation := Timepoint.zeroed
    bytesSent := 0
    bytesReceived := 0
    throughputMbps := 0
    firstDataTime := zeroTime
    lastDataTime := zeroTime }

def perfMetricsInit (maxConnections : UInt32) : PerfMetricsCtx :=
  { connMetrics := fun _ => ConnectionMetrics.zeroed
    maxConnections := maxConnections
    currentConnections := 0
    systemMetrics :=
      { cpuUsagePercent := 0
        memoryUsageKb := 0
        memoryRssKb := 0
        memoryVmsKb := 0
        activeConnections := 0
        measurementTime := zeroTime }
    stats :=
      { totalConnections := 0
        successfulConnections := 0
        failedConnections := 0
        avgConnectionLatencyMs := 0
        minConnectionLatencyMs := 999999
        maxConnectionLatencyMs := 0
        avgKeyNegotiationMs := 0
        minKeyNegotiationMs := 999999
        maxKeyNegotiationMs := 0
        avgThroughputMbps := 0
        maxThroughputMbps := 0
        totalBytesTransferred := 0
        avgCpuUsage := 0
        peakCpuUsage := 0
        avgMemoryUsageKb := 0
        peakMemoryUsageKb := 0 }
    monitoringEnabled := 1
    prevCpuStat := ⟨0, 0, 0, 0, 0, 0, 0⟩
    cpuFirstCall := 1
    accessed := [] }

def perfMetricsSetEnabled (enabled : Int) (ctx : PerfMetricsCtx) : PerfMetricsCtx :=
  { ctx with monitoringEnabled := enabled }

def intOfU32 (word : UInt32) : Int :=
  if word.toNat < 2 ^ 31 then word.toNat else word.toNat - 2 ^ 32

theorem intOfU32_small (word : UInt32) (small : word.toNat < 2 ^ 31) :
    intOfU32 word = word.toNat :=
  if_pos small

theorem u32_succ (word : UInt32) (room : word.toNat + 1 < 2 ^ 32) :
    (word + 1).toNat = word.toNat + 1 := by
  rw [UInt32.toNat_add]
  exact Nat.mod_eq_of_lt room

theorem u64_succ (word : UInt64) (room : word.toNat + 1 < 2 ^ 64) :
    (word + 1).toNat = word.toNat + 1 := by
  rw [UInt64.toNat_add]
  exact Nat.mod_eq_of_lt room

theorem u64_sub_toNat (a b : UInt64) : ((a - b).toNat : Int) = (a.toNat - b.toNat) % 2 ^ 64 := by
  have bound := b.toNat_lt
  rw [UInt64.toNat_sub]
  omega

def perfTimeDiffNs (start finish : Timespec) : UInt64 :=
  let startNs := UInt64.ofInt start.tvSec * 1000000000 + UInt64.ofInt start.tvNsec
  let endNs := UInt64.ofInt finish.tvSec * 1000000000 + UInt64.ofInt finish.tvNsec
  endNs - startNs

theorem u64_ofInt_toNat (value : Int) : ((UInt64.ofInt value).toNat : Int) = value % 2 ^ 64 := by
  have bound : (value % 2 ^ 64).toNat < 2 ^ 64 := by omega
  rw [UInt64.ofInt, UInt64.toNat_ofNat_of_lt' bound, Int.toNat_of_nonneg (by omega)]

theorem perfTimeDiffNs_toNat (start finish : Timespec) :
    ((perfTimeDiffNs start finish).toNat : Int) = (finish.ns - start.ns) % 2 ^ 64 := by
  have word : ∀ time : Timespec,
      UInt64.ofInt time.tvSec * 1000000000 + UInt64.ofInt time.tvNsec = UInt64.ofInt time.ns := by
    intro time
    rw [Timespec.ns, UInt64.ofInt_add, UInt64.ofInt_mul]
    rfl
  simp only [perfTimeDiffNs]
  rw [word, word, u64_sub_toNat, u64_ofInt_toNat, u64_ofInt_toNat, ← Int.sub_emod]

theorem perfTimeDiffNs_sinceBoot (start finish : Timespec) (started : start.SinceBoot)
    (finished : finish.SinceBoot) (advances : start.ns ≤ finish.ns) :
    ((perfTimeDiffNs start finish).toNat : Int) = finish.ns - start.ns := by
  have nonneg := started.1
  have bounded := finished.2
  rw [perfTimeDiffNs_toNat]
  omega

def perfNsToMs (ns : UInt64) : ℚ := ns.toNat / 1000000

def PerfMetricsCtx.write (ctx : PerfMetricsCtx) (index : Int) (record : ConnectionMetrics) :
    PerfMetricsCtx :=
  { ctx with
    connMetrics := Function.update ctx.connMetrics index record
    accessed := index :: ctx.accessed }

def perfMetricsConnectionStart (connectionId : UInt64) (ctx : PerfMetricsCtx) :
    Int × PerfMetricsCtx :=
  if ctx.monitoringEnabled = 0 then
    (-1, ctx)
  else if ctx.currentConnections ≥ ctx.maxConnections then
    (-1, ctx)
  else
    let index := intOfU32 ctx.currentConnections
    let ctx := { ctx with currentConnections := ctx.currentConnections + 1 }
    let ctx := ctx.write index { ConnectionMetrics.zeroed with connectionId := connectionId }
    (index,
      { ctx with
        stats := { ctx.stats with totalConnections := ctx.stats.totalConnections + 1 }
        systemMetrics :=
          { ctx.systemMetrics with
            activeConnections := ctx.systemMetrics.activeConnections + 1 } })

/-- The check that the calls about one connection begin with. -/
def PerfMetricsCtx.Tracks (ctx : PerfMetricsCtx) (connIndex : Int) : Prop :=
  ¬ (ctx.monitoringEnabled = 0 ∨ connIndex < 0 ∨ connIndex ≥ intOfU32 ctx.currentConnections)

instance (ctx : PerfMetricsCtx) (connIndex : Int) : Decidable (ctx.Tracks connIndex) :=
  inferInstanceAs (Decidable (¬ (_ ∨ _ ∨ _)))

/-- The calls that change one record share this: check, then change the record. -/
def onRecord (change : ConnectionMetrics → ConnectionMetrics) (connIndex : Int)
    (ctx : PerfMetricsCtx) : PerfMetricsCtx :=
  if ctx.Tracks connIndex then
    ctx.write connIndex (change (ctx.connMetrics connIndex))
  else
    ctx

theorem onRecord_keeps {α : Type} (view : PerfMetricsCtx → α)
    (kept : ∀ ctx index record, view (PerfMetricsCtx.write ctx index record) = view ctx)
    (change : ConnectionMetrics → ConnectionMetrics) (connIndex : Int) (ctx : PerfMetricsCtx) :
    view (onRecord change connIndex ctx) = view ctx := by
  unfold onRecord
  split
  · exact kept ctx connIndex _
  · rfl

def perfTimepointStart (now : Timespec) (tp : Timepoint) : Timepoint :=
  { tp with start := now }

def perfTimepointEnd (now : Timespec) (tp : Timepoint) : Timepoint :=
  { tp with finish := now, durationNs := perfTimeDiffNs tp.start now }

def perfMetricsConnectionLatencyStart (now : Timespec) : Int → PerfMetricsCtx → PerfMetricsCtx :=
  onRecord fun cm => { cm with connectionLatency := perfTimepointStart now cm.connectionLatency }

def perfMetricsConnectionLatencyEnd (now : Timespec) : Int → PerfMetricsCtx → PerfMetricsCtx :=
  onRecord fun cm => { cm with connectionLatency := perfTimepointEnd now cm.connectionLatency }

def perfMetricsKeyNegotiationStart (now : Timespec) : Int → PerfMetricsCtx → PerfMetricsCtx :=
  onRecord fun cm => { cm with keyNegotiation := perfTimepointStart now cm.keyNegotiation }

def perfMetricsKeyNegotiationEnd (now : Timespec) : Int → PerfMetricsCtx → PerfMetricsCtx :=
  onRecord fun cm => { cm with keyNegotiation := perfTimepointEnd now cm.keyNegotiation }

/-- The clock is read for the first packet, if this is it, and for the last one. -/
def recordTransfer (bytesSent bytesReceived : UInt64) (first last : Timespec)
    (cm : ConnectionMetrics) : ConnectionMetrics :=
  let cm :=
    if cm.bytesSent = 0 ∧ cm.bytesReceived = 0 then { cm with firstDataTime := first } else cm
  let cm :=
    { cm with
      bytesSent := cm.bytesSent + bytesSent
      bytesReceived := cm.bytesReceived + bytesReceived
      lastDataTime := last }
  let totalBytes := cm.bytesSent + cm.bytesReceived
  let timeDiffNs := perfTimeDiffNs cm.firstDataTime cm.lastDataTime
  if timeDiffNs > 100000000 then
    let timeSeconds := (timeDiffNs.toNat : ℚ) / 1000000000
    { cm with throughputMbps := (totalBytes.toNat : ℚ) * 8 / (timeSeconds * 1000000) }
  else
    cm

def perfMetricsRecordDataTransfer (bytesSent bytesReceived : UInt64) (first last : Timespec) :
    Int → PerfMetricsCtx → PerfMetricsCtx :=
  onRecord (recordTransfer bytesSent bytesReceived first last)

def perfMetricsConnectionEnd (connIndex : Int) (success : Int) (ctx : PerfMetricsCtx) :
    PerfMetricsCtx :=
  if ctx.Tracks connIndex then
    let stats :=
      if success ≠ 0 then
        { ctx.stats with successfulConnections := ctx.stats.successfulConnections + 1 }
      else
        { ctx.stats with failedConnections := ctx.stats.failedConnections + 1 }
    let active := ctx.systemMetrics.activeConnections
    -- the slot is not given back: `currentConnections` stays
    { ctx with
      stats := stats
      systemMetrics :=
        { ctx.systemMetrics with
          activeConnections := if active > 0 then active - 1 else active } }
  else
    ctx

/-! ## `perf_metrics_calculate_stats` -/

/-- What conversions and operations on doubles return, rounded in whatever way. -/
structure Doubles where
  nsToMs : UInt64 → ℚ
  add : ℚ → ℚ → ℚ
  divCount : ℚ → UInt32 → ℚ

def Doubles.exact : Doubles where
  nsToMs := perfNsToMs
  add := (· + ·)
  divCount total count := total / count.toNat

/-- Each result is rounded; a `__u32` is a double as it is. -/
def Doubles.rounded (round : ℚ → ℚ) : Doubles where
  nsToMs ns := round (round ns.toNat / 1000000)
  add a b := round (a + b)
  divCount total count := round (total / count.toNat)

structure StatsTotals where
  latencyCount : UInt32
  negotiationCount : UInt32
  totalConnectionLatency : ℚ
  totalKeyNegotiation : ℚ
  totalThroughput : ℚ
  throughputSamples : UInt32

def resetStats (stats : PerformanceStats) : PerformanceStats :=
  { stats with
    minConnectionLatencyMs := 999999
    maxConnectionLatencyMs := 0
    minKeyNegotiationMs := 999999
    maxKeyNegotiationMs := 0
    maxThroughputMbps := 0
    totalBytesTransferred := 0 }

def visitedIndices (current : Nat) : List Int :=
  ((List.range current).map Int.ofNat).reverse

section CalculateStats
variable (doubles : Doubles)

def countLatency (cm : ConnectionMetrics) (acc : StatsTotals × PerformanceStats) :
    StatsTotals × PerformanceStats :=
  let (totals, stats) := acc
  if cm.connectionLatency.durationNs > 0 then
    let latencyMs := doubles.nsToMs cm.connectionLatency.durationNs
    ({ totals with
        totalConnectionLatency := doubles.add totals.totalConnectionLatency latencyMs
        latencyCount := totals.latencyCount + 1 },
      { stats with
        minConnectionLatencyMs :=
          if latencyMs < stats.minConnectionLatencyMs then latencyMs
          else stats.minConnectionLatencyMs
        maxConnectionLatencyMs :=
          if latencyMs > stats.maxConnectionLatencyMs then latencyMs
          else stats.maxConnectionLatencyMs })
  else
    acc

def countNegotiation (cm : ConnectionMetrics) (acc : StatsTotals × PerformanceStats) :
    StatsTotals × PerformanceStats :=
  let (totals, stats) := acc
  if cm.keyNegotiation.durationNs > 0 then
    let negotiationMs := doubles.nsToMs cm.keyNegotiation.durationNs
    ({ totals with
        totalKeyNegotiation := doubles.add totals.totalKeyNegotiation negotiationMs
        negotiationCount := totals.negotiationCount + 1 },
      { stats with
        minKeyNegotiationMs :=
          if negotiationMs < stats.minKeyNegotiationMs then negotiationMs
          else stats.minKeyNegotiationMs
        maxKeyNegotiationMs :=
          if negotiationMs > stats.maxKeyNegotiationMs then negotiationMs
          else stats.maxKeyNegotiationMs })
  else
    acc

def countThroughput (cm : ConnectionMetrics) (acc : StatsTotals × PerformanceStats) :
    StatsTotals × PerformanceStats :=
  let (totals, stats) := acc
  if cm.throughputMbps > 0 then
    ({ totals with
        totalThroughput := doubles.add totals.totalThroughput cm.throughputMbps
        throughputSamples := totals.throughputSamples + 1 },
      { stats with
        maxThroughputMbps :=
          if cm.throughputMbps > stats.maxThroughputMbps then cm.throughputMbps
          else stats.maxThroughputMbps })
  else
    acc

def countRecord (cm : ConnectionMetrics) (acc : StatsTotals × PerformanceStats) :
    StatsTotals × PerformanceStats :=
  let (totals, stats) := countThroughput doubles cm
    (countNegotiation doubles cm (countLatency doubles cm acc))
  (totals,
    { stats with
      totalBytesTransferred := stats.totalBytesTransferred + (cm.bytesSent + cm.bytesReceived) })

def averageStats (totals : StatsTotals) (system : SystemMetrics) (stats : PerformanceStats) :
    PerformanceStats :=
  let stats :=
    if totals.latencyCount > 0 then
      { stats with
        avgConnectionLatencyMs :=
          doubles.divCount totals.totalConnectionLatency totals.latencyCount }
    else
      -- the average of an earlier call stays
      { stats with minConnectionLatencyMs := 0 }
  let stats :=
    if totals.negotiationCount > 0 then
      { stats with
        avgKeyNegotiationMs :=
          doubles.divCount totals.totalKeyNegotiation totals.negotiationCount }
    else
      { stats with minKeyNegotiationMs := 0 }
  let stats :=
    if totals.throughputSamples > 0 then
      { stats with
        avgThroughputMbps := doubles.divCount totals.totalThroughput totals.throughputSamples }
    else
      stats
  { stats with avgCpuUsage := system.cpuUsagePercent, avgMemoryUsageKb := system.memoryUsageKb }

def perfMetricsCalculateStats (ctx : PerfMetricsCtx) : PerfMetricsCtx :=
  let (totals, stats) := (List.range ctx.currentConnections.toNat).foldl
    (fun acc (i : Nat) => countRecord doubles (ctx.connMetrics i) acc)
    (⟨0, 0, 0, 0, 0, 0⟩, resetStats ctx.stats)
  { ctx with
    stats := averageStats doubles totals ctx.systemMetrics stats
    accessed := visitedIndices ctx.currentConnections.toNat ++ ctx.accessed }

end CalculateStats

end TlshubEbpf.Capture
