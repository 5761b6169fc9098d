import TlshubEbpf.Capture.EventTimes
import TlshubEbpf.Capture.SystemMetrics

/-! # Events and system updates in one context

`perf_metrics_update_system` changes the usage part of the context, and the calls for an
event neither read nor change that part.  However the two are interleaved, the records and
the counters are those of the events alone. -/

set_option autoImplicit false

namespace TlshubEbpf.Capture

open Lib Bpf

structure UsagePart where
  cpuUsagePercent : ℚ
  memoryUsageKb : UInt64
  memoryRssKb : UInt64
  memoryVmsKb : UInt64
  measurementTime : Timespec
  peakCpuUsage : ℚ
  peakMemoryUsageKb : UInt64
  prevCpuStat : CpuStat
  cpuFirstCall : Int

def PerfMetricsCtx.usagePart (ctx : PerfMetricsCtx) : UsagePart :=
  { cpuUsagePercent := ctx.systemMetrics.cpuUsagePercent
    memoryUsageKb := ctx.systemMetrics.memoryUsageKb
    memoryRssKb := ctx.systemMetrics.memoryRssKb
    memoryVmsKb := ctx.systemMetrics.memoryVmsKb
    measurementTime := ctx.systemMetrics.measurementTime
    peakCpuUsage := ctx.stats.peakCpuUsage
    peakMemoryUsageKb := ctx.stats.peakMemoryUsageKb
    prevCpuStat := ctx.prevCpuStat
    cpuFirstCall := ctx.cpuFirstCall }

def PerfMetricsCtx.withUsage (usage : UsagePart) (ctx : PerfMetricsCtx) : PerfMetricsCtx :=
  { ctx with
    systemMetrics :=
      { ctx.systemMetrics with
        cpuUsagePercent := usage.cpuUsagePercent
        memoryUsageKb := usage.memoryUsageKb
        memoryRssKb := usage.memoryRssKb
        memoryVmsKb := usage.memoryVmsKb
        measurementTime := usage.measurementTime }
    stats :=
      { ctx.stats with
        peakCpuUsage := usage.peakCpuUsage
        peakMemoryUsageKb := usage.peakMemoryUsageKb }
    prevCpuStat := usage.prevCpuStat
    cpuFirstCall := usage.cpuFirstCall }

section Usage
variable (usage : UsagePart) (ctx : PerfMetricsCtx)

@[simp] theorem withUsage_usagePart : ctx.withUsage ctx.usagePart = ctx := rfl

@[simp] theorem withUsage_withUsage (usage' : UsagePart) :
    (ctx.withUsage usage).withUsage usage' = ctx.withUsage usage' := rfl

/-- An update leaves everything else as it was. -/
theorem perfMetricsUpdateSystem_withUsage (cpu : Option CpuStat) (memory : Option MemoryUsage)
    (now : Timespec) :
    (perfMetricsUpdateSystem cpu memory now ctx).2 =
      ctx.withUsage (perfMetricsUpdateSystem cpu memory now ctx).2.usagePart := by
  by_cases unread : ctx.monitoringEnabled = 0 ∨ cpu = none
  · rw [perfMetricsUpdateSystem_unread cpu memory now ctx unread]
    rfl
  · obtain ⟨enabled, isRead⟩ := not_or.mp unread
    obtain ⟨curr, rfl⟩ := Option.ne_none_iff_exists'.mp isRead
    rw [perfMetricsUpdateSystem, if_neg enabled]
    by_cases later : ctx.cpuFirstCall = 0
    · simp only [if_pos later]
      cases memory <;> rfl
    · simp only [if_neg later]
      cases memory <;> rfl

theorem onRecord_withUsage (change : ConnectionMetrics → ConnectionMetrics) (connIndex : Int) :
    onRecord change connIndex (ctx.withUsage usage) =
      (onRecord change connIndex ctx).withUsage usage := by
  unfold onRecord
  by_cases tracked : ctx.Tracks connIndex
  · have same : (ctx.withUsage usage).Tracks connIndex := tracked
    rw [if_pos tracked, if_pos same]
    rfl
  · have same : ¬ (ctx.withUsage usage).Tracks connIndex := tracked
    rw [if_neg tracked, if_neg same]

theorem connectionStart_withUsage (connectionId : UInt64) :
    perfMetricsConnectionStart connectionId (ctx.withUsage usage) =
      ((perfMetricsConnectionStart connectionId ctx).1,
        (perfMetricsConnectionStart connectionId ctx).2.withUsage usage) := by
  unfold perfMetricsConnectionStart
  by_cases disabled : ctx.monitoringEnabled = 0
  · have same : (ctx.withUsage usage).monitoringEnabled = 0 := disabled
    rw [if_pos disabled, if_pos same]
  · have same : ¬ (ctx.withUsage usage).monitoringEnabled = 0 := disabled
    rw [if_neg disabled, if_neg same]
    by_cases full : ctx.currentConnections ≥ ctx.maxConnections
    · have same : (ctx.withUsage usage).currentConnections ≥
          (ctx.withUsage usage).maxConnections := full
      rw [if_pos full, if_pos same]
    · have same : ¬ (ctx.withUsage usage).currentConnections ≥
          (ctx.withUsage usage).maxConnections := full
      rw [if_neg full, if_neg same]
      rfl

theorem connectionEnd_withUsage (connIndex success : Int) :
    perfMetricsConnectionEnd connIndex success (ctx.withUsage usage) =
      (perfMetricsConnectionEnd connIndex success ctx).withUsage usage := by
  unfold perfMetricsConnectionEnd
  by_cases tracked : ctx.Tracks connIndex
  · have same : (ctx.withUsage usage).Tracks connIndex := tracked
    rw [if_pos tracked, if_pos same]
    by_cases succeeded : success ≠ 0
    · rw [if_pos succeeded, if_pos succeeded]
      rfl
    · rw [if_neg succeeded, if_neg succeeded]
      rfl
  · have same : ¬ (ctx.withUsage usage).Tracks connIndex := tracked
    rw [if_neg tracked, if_neg same]

theorem ifStarted_withUsage (connIndex : Int) (call : Int → PerfMetricsCtx → PerfMetricsCtx)
    (same : ∀ ctx : PerfMetricsCtx, call connIndex (ctx.withUsage usage) =
      (call connIndex ctx).withUsage usage) :
    ifStarted connIndex call (ctx.withUsage usage) =
      (ifStarted connIndex call ctx).withUsage usage := by
  unfold ifStarted
  split
  · exact same ctx
  · rfl

theorem account_withUsage (handled : HandledEvent) :
    handled.account (ctx.withUsage usage) = (handled.account ctx).withUsage usage := by
  have record : ∀ (change : ConnectionMetrics → ConnectionMetrics) (connIndex : Int)
      (ctx : PerfMetricsCtx), ifStarted connIndex (onRecord change) (ctx.withUsage usage) =
        (ifStarted connIndex (onRecord change) ctx).withUsage usage :=
    fun change connIndex ctx => ifStarted_withUsage usage ctx connIndex _ fun ctx =>
      onRecord_withUsage usage ctx change connIndex
  have ending : ∀ (success connIndex : Int) (ctx : PerfMetricsCtx),
      ifStarted connIndex (fun connIndex => perfMetricsConnectionEnd connIndex success)
          (ctx.withUsage usage) =
        (ifStarted connIndex (fun connIndex => perfMetricsConnectionEnd connIndex success)
          ctx).withUsage usage :=
    fun success connIndex ctx => ifStarted_withUsage usage ctx connIndex _ fun ctx =>
      connectionEnd_withUsage usage ctx connIndex success
  simp only [HandledEvent.account, eventBegins, eventEnds, connectionStart_withUsage,
    perfMetricsConnectionLatencyStart, perfMetricsKeyNegotiationStart,
    perfMetricsKeyNegotiationEnd, perfMetricsConnectionLatencyEnd, record, ending]
  split <;> rfl

end Usage

end TlshubEbpf.Capture
