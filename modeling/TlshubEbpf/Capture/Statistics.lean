import Mathlib.Algebra.Field.Rat
import TlshubEbpf.Capture.MetricsInvariant
import TlshubEbpf.Lib.Statistics

/-! # The statistics of `perf_metrics_calculate_stats`

The loop over the records counts three measures: the durations of the connections
and of the key negotiations as far as they are positive, and the positive
throughputs.  A `Measure` is what it keeps of one of them.  What the loop does holds
of any arithmetic; that the averages are means, of the exact one. -/

set_option autoImplicit false

namespace TlshubEbpf.Capture

open Lib

def PerfMetricsCtx.records (ctx : PerfMetricsCtx) : List ConnectionMetrics :=
  (List.range ctx.currentConnections.toNat).map fun (i : ℕ) => ctx.connMetrics i

def durationSample (doubles : Doubles) (tp : Timepoint) : Option ℚ :=
  if tp.durationNs > 0 then some (doubles.nsToMs tp.durationNs) else none

def throughputSample (cm : ConnectionMetrics) : Option ℚ :=
  if cm.throughputMbps > 0 then some cm.throughputMbps else none

namespace PerfMetricsCtx

def latencies (doubles : Doubles) (ctx : PerfMetricsCtx) : List ℚ :=
  ctx.records.filterMap fun cm => durationSample doubles cm.connectionLatency

def negotiations (doubles : Doubles) (ctx : PerfMetricsCtx) : List ℚ :=
  ctx.records.filterMap fun cm => durationSample doubles cm.keyNegotiation

def throughputs (ctx : PerfMetricsCtx) : List ℚ :=
  ctx.records.filterMap throughputSample

def transferred (ctx : PerfMetricsCtx) : ℕ :=
  (ctx.records.map fun cm => cm.bytesSent.toNat + cm.bytesReceived.toNat).sum

end PerfMetricsCtx

structure Measured (samples : List ℚ) (low avg high : ℚ) : Prop where
  least : low = Lib.least samples
  mean : avg = Lib.mean samples
  greatest : high = Lib.greatest samples
  ordered : low ≤ avg ∧ avg ≤ high

/-- What a call on the context computes in exact arithmetic. -/
structure StatsExact (ctx : PerfMetricsCtx) : Prop where
  latency : Measured (ctx.latencies .exact)
    (perfMetricsCalculateStats .exact ctx).stats.minConnectionLatencyMs
    (perfMetricsCalculateStats .exact ctx).stats.avgConnectionLatencyMs
    (perfMetricsCalculateStats .exact ctx).stats.maxConnectionLatencyMs
  negotiation : Measured (ctx.negotiations .exact)
    (perfMetricsCalculateStats .exact ctx).stats.minKeyNegotiationMs
    (perfMetricsCalculateStats .exact ctx).stats.avgKeyNegotiationMs
    (perfMetricsCalculateStats .exact ctx).stats.maxKeyNegotiationMs
  avgThroughput : (perfMetricsCalculateStats .exact ctx).stats.avgThroughputMbps =
    mean ctx.throughputs
  maxThroughput : (perfMetricsCalculateStats .exact ctx).stats.maxThroughputMbps =
    greatest ctx.throughputs
  bytes : (perfMetricsCalculateStats .exact ctx).stats.totalBytesTransferred.toNat =
    ctx.transferred % 2 ^ 64
  again : (perfMetricsCalculateStats .exact (perfMetricsCalculateStats .exact ctx)).stats =
    (perfMetricsCalculateStats .exact ctx).stats

/-! ## One measure -/

def PerformanceStats.latency (stats : PerformanceStats) : ℚ × ℚ × ℚ :=
  (stats.minConnectionLatencyMs, stats.avgConnectionLatencyMs, stats.maxConnectionLatencyMs)

def PerformanceStats.negotiation (stats : PerformanceStats) : ℚ × ℚ × ℚ :=
  (stats.minKeyNegotiationMs, stats.avgKeyNegotiationMs, stats.maxKeyNegotiationMs)

def PerformanceStats.throughput (stats : PerformanceStats) : ℚ × ℚ :=
  (stats.avgThroughputMbps, stats.maxThroughputMbps)

/-- The number of samples so far, their tally, and the average of an earlier call. -/
structure Measure where
  samples : UInt32
  tally : Tally ℚ
  average : ℚ

section Arithmetic
variable (doubles : Doubles)

def Measure.count (measure : Measure) (x : ℚ) : Measure :=
  { measure with
    samples := measure.samples + 1
    tally := measure.tally.countWith doubles.add x }

def Measure.result (measure : Measure) : ℚ × ℚ × ℚ :=
  (if measure.samples > 0 then measure.tally.lowest else 0,
    if measure.samples > 0 then doubles.divCount measure.tally.total measure.samples
      else measure.average,
    measure.tally.highest)

def Doubles.average (samples : List ℚ) : ℚ :=
  doubles.divCount (samples.foldl doubles.add 0) (UInt32.ofNat samples.length)

/-- The average after a call: without a sample it stays as it was. -/
def Doubles.averageAfter (before : ℚ) (samples : List ℚ) : ℚ :=
  if samples = [] then before else doubles.average samples

def Doubles.measured (start before : ℚ) (samples : List ℚ) : ℚ × ℚ × ℚ :=
  (if samples = [] then 0 else lowest start samples, doubles.averageAfter before samples,
    highest 0 samples)

theorem averageAfter_twice (before : ℚ) (samples : List ℚ) :
    doubles.averageAfter (doubles.averageAfter before samples) samples =
      doubles.averageAfter before samples := by
  unfold Doubles.averageAfter
  split <;> rfl

omit doubles in
theorem average_exact (samples : List ℚ) (few : samples.length < 2 ^ 32) :
    Doubles.exact.average samples = mean samples := by
  show samples.foldl (· + ·) 0 / ((UInt32.ofNat samples.length).toNat : ℚ) = _
  rw [foldl_add_eq, zero_add, UInt32.toNat_ofNat_of_lt' few, mean]

omit doubles in
theorem averageAfter_exact (before : ℚ) (samples : List ℚ) (few : samples.length < 2 ^ 32) :
    Doubles.exact.averageAfter before samples =
      if samples = [] then before else mean samples := by
  rw [Doubles.averageAfter, average_exact samples few]

theorem foldl_measure (samples : List ℚ) (measure : Measure) :
    samples.foldl (Measure.count doubles) measure =
      { measure with
        samples := measure.samples + UInt32.ofNat samples.length
        tally := samples.foldl (Tally.countWith doubles.add) measure.tally } := by
  induction samples generalizing measure with
  | nil => simp
  | cons x rest ih =>
      rw [List.foldl_cons, ih (measure.count doubles x), List.length_cons, UInt32.ofNat_add]
      simp only [Measure.count, List.foldl_cons, Measure.mk.injEq, and_true]
      grind

theorem result_foldl (samples : List ℚ) (start before : ℚ) (few : samples.length < 2 ^ 32) :
    (samples.foldl (Measure.count doubles) ⟨0, ⟨0, start, 0⟩, before⟩).result doubles =
      doubles.measured start before samples := by
  rw [foldl_measure, foldl_countWith, Doubles.measured, Doubles.averageAfter]
  dsimp only
  rw [UInt32.zero_add]
  have number : (UInt32.ofNat samples.length).toNat = samples.length :=
    UInt32.toNat_ofNat_of_lt' few
  have some_iff : UInt32.ofNat samples.length > 0 ↔ samples ≠ [] := by
    rw [gt_iff_lt, UInt32.lt_iff_toNat_lt, number]
    exact List.length_pos_iff
  by_cases none : samples = []
  · have empty : ¬ UInt32.ofNat samples.length > 0 := fun some => some_iff.mp some none
    simp only [Measure.result, if_neg empty, if_pos none]
  · simp only [Measure.result, if_pos (some_iff.mpr none), if_neg none, Doubles.average]

end Arithmetic

/-- What the loop starts from must not show in the result. -/
def MeasureFits (samples : List ℚ) (average : ℚ) : Prop :=
  (samples = [] → average = 0) ∧ (samples ≠ [] → ∃ x ∈ samples, x ≤ 999999)

section Measured
variable (samples : List ℚ) (positive : ∀ x ∈ samples, 0 < x) (average : ℚ)
include positive

theorem highest_eq_greatest : highest 0 samples = greatest samples := by
  cases samples with
  | nil => rfl
  | cons x rest =>
      rw [highest_eq_greatest_iff 0 (x :: rest) (List.cons_ne_nil x rest)]
      exact ⟨x, List.mem_cons_self, (positive x List.mem_cons_self).le⟩

theorem measured_iff :
    Measured samples (if samples = [] then 0 else lowest 999999 samples)
        (if samples = [] then average else mean samples) (highest 0 samples) ↔
      MeasureFits samples average := by
  rw [highest_eq_greatest samples positive]
  by_cases none : samples = []
  · subst none
    rw [if_pos rfl, if_pos rfl, MeasureFits]
    constructor
    · intro measured
      exact ⟨fun _ => measured.mean.trans mean_nil, fun some => absurd rfl some⟩
    · intro fits
      have zero := fits.1 rfl
      rw [zero]
      exact ⟨rfl, mean_nil.symm, rfl, le_rfl, le_rfl⟩
  · simp only [if_neg none, MeasureFits]
    rw [← lowest_eq_least_iff 999999 samples none]
    constructor
    · intro measured
      exact ⟨fun empty => absurd empty none, fun _ => measured.least⟩
    · intro fits
      have least := fits.2 none
      rw [least]
      exact ⟨rfl, rfl, rfl, least_le_mean samples, mean_le_greatest samples⟩

end Measured

def latencyMeasure (acc : StatsTotals × PerformanceStats) : Measure :=
  { samples := acc.1.latencyCount
    tally :=
      { total := acc.1.totalConnectionLatency
        lowest := acc.2.minConnectionLatencyMs
        highest := acc.2.maxConnectionLatencyMs }
    average := acc.2.avgConnectionLatencyMs }

def negotiationMeasure (acc : StatsTotals × PerformanceStats) : Measure :=
  { samples := acc.1.negotiationCount
    tally :=
      { total := acc.1.totalKeyNegotiation
        lowest := acc.2.minKeyNegotiationMs
        highest := acc.2.maxKeyNegotiationMs }
    average := acc.2.avgKeyNegotiationMs }

/-- The minimum is not kept: 0 is below each sample. -/
def throughputMeasure (acc : StatsTotals × PerformanceStats) : Measure :=
  { samples := acc.1.throughputSamples
    tally :=
      { total := acc.1.totalThroughput
        lowest := 0
        highest := acc.2.maxThroughputMbps }
    average := acc.2.avgThroughputMbps }

section Record
variable (doubles : Doubles) (acc : StatsTotals × PerformanceStats) (cm : ConnectionMetrics)

/-- What a turn of the loop does to a view of its variables, from what its four parts do. -/
theorem view_countRecord {β : Type} (view : StatsTotals × PerformanceStats → β)
    (latency negotiation throughput bytes : β → β)
    (first : ∀ acc, view (countLatency doubles cm acc) = latency (view acc))
    (second : ∀ acc, view (countNegotiation doubles cm acc) = negotiation (view acc))
    (third : ∀ acc, view (countThroughput doubles cm acc) = throughput (view acc))
    (fourth : ∀ totals stats, view (totals, { stats with
      totalBytesTransferred := stats.totalBytesTransferred + (cm.bytesSent + cm.bytesReceived) }) =
        bytes (view (totals, stats))) :
    view (countRecord doubles cm acc) = bytes (throughput (negotiation (latency (view acc)))) := by
  rw [countRecord, fourth, third, second, first]

theorem latencyMeasure_countRecord :
    latencyMeasure (countRecord doubles cm acc) =
      (durationSample doubles cm.connectionLatency).elim (latencyMeasure acc)
        ((latencyMeasure acc).count doubles) := by
  refine view_countRecord doubles acc cm latencyMeasure
    (fun measure =>
      (durationSample doubles cm.connectionLatency).elim measure (measure.count doubles))
    id id id ?_ ?_ ?_ fun _ _ => rfl
  · intro acc
    simp only [countLatency, durationSample]
    by_cases positive : cm.connectionLatency.durationNs > 0
    · simp only [if_pos positive]
      rfl
    · simp only [if_neg positive]
      rfl
  · intro acc
    simp only [countNegotiation]
    split <;> rfl
  · intro acc
    simp only [countThroughput]
    split <;> rfl

theorem negotiationMeasure_countRecord :
    negotiationMeasure (countRecord doubles cm acc) =
      (durationSample doubles cm.keyNegotiation).elim (negotiationMeasure acc)
        ((negotiationMeasure acc).count doubles) := by
  refine view_countRecord doubles acc cm negotiationMeasure id
    (fun measure =>
      (durationSample doubles cm.keyNegotiation).elim measure (measure.count doubles))
    id id ?_ ?_ ?_ fun _ _ => rfl
  · intro acc
    simp only [countLatency]
    split <;> rfl
  · intro acc
    simp only [countNegotiation, durationSample]
    by_cases positive : cm.keyNegotiation.durationNs > 0
    · simp only [if_pos positive]
      rfl
    · simp only [if_neg positive]
      rfl
  · intro acc
    simp only [countThroughput]
    split <;> rfl

theorem throughputMeasure_countRecord :
    throughputMeasure (countRecord doubles cm acc) =
      (throughputSample cm).elim (throughputMeasure acc)
        ((throughputMeasure acc).count doubles) := by
  refine view_countRecord doubles acc cm throughputMeasure id id
    (fun measure => (throughputSample cm).elim measure (measure.count doubles)) id
    ?_ ?_ ?_ fun _ _ => rfl
  · intro acc
    simp only [countLatency]
    split <;> rfl
  · intro acc
    simp only [countNegotiation]
    split <;> rfl
  · intro acc
    simp only [countThroughput, throughputSample]
    by_cases positive : cm.throughputMbps > 0
    · have above : ¬ cm.throughputMbps < 0 := not_lt.mpr positive.le
      simp only [if_pos positive, Option.elim_some]
      rw [Measure.count, Tally.countWith_above doubles.add (throughputMeasure acc).tally _ above]
      rfl
    · simp only [if_neg positive]
      rfl

theorem totalBytesTransferred_countRecord :
    (countRecord doubles cm acc).2.totalBytesTransferred =
      acc.2.totalBytesTransferred + (cm.bytesSent + cm.bytesReceived) := by
  refine view_countRecord doubles acc cm (fun acc => acc.2.totalBytesTransferred) id id id
    (· + (cm.bytesSent + cm.bytesReceived)) ?_ ?_ ?_ fun _ _ => rfl
  · intro acc
    simp only [countLatency]
    split <;> rfl
  · intro acc
    simp only [countNegotiation]
    split <;> rfl
  · intro acc
    simp only [countThroughput]
    split <;> rfl

end Record

def counted (doubles : Doubles) (ctx : PerfMetricsCtx) : StatsTotals × PerformanceStats :=
  ctx.records.foldl (fun acc cm => countRecord doubles cm acc)
    (⟨0, 0, 0, 0, 0, 0⟩, resetStats ctx.stats)

theorem perfMetricsCalculateStats_stats (doubles : Doubles) (ctx : PerfMetricsCtx) :
    (perfMetricsCalculateStats doubles ctx).stats =
      averageStats doubles (counted doubles ctx).1 ctx.systemMetrics (counted doubles ctx).2 := by
  rw [counted, PerfMetricsCtx.records, List.foldl_map]
  rfl

theorem averageStats_eq (doubles : Doubles) (totals : StatsTotals) (system : SystemMetrics)
    (stats : PerformanceStats) :
    averageStats doubles totals system stats =
      { stats with
        minConnectionLatencyMs := ((latencyMeasure (totals, stats)).result doubles).1
        avgConnectionLatencyMs := ((latencyMeasure (totals, stats)).result doubles).2.1
        minKeyNegotiationMs := ((negotiationMeasure (totals, stats)).result doubles).1
        avgKeyNegotiationMs := ((negotiationMeasure (totals, stats)).result doubles).2.1
        avgThroughputMbps := ((throughputMeasure (totals, stats)).result doubles).2.1
        avgCpuUsage := system.cpuUsagePercent
        avgMemoryUsageKb := system.memoryUsageKb } := by
  by_cases latency : totals.latencyCount > 0 <;>
    by_cases negotiation : totals.negotiationCount > 0 <;>
      by_cases throughput : totals.throughputSamples > 0 <;>
        simp only [averageStats, Measure.result, latencyMeasure, negotiationMeasure,
          throughputMeasure, latency, negotiation, throughput, if_true, if_false]

section Call
variable (doubles : Doubles) (ctx : PerfMetricsCtx)

theorem length_records : ctx.records.length < 2 ^ 32 := by
  rw [PerfMetricsCtx.records, List.length_map, List.length_range]
  exact ctx.currentConnections.toNat_lt

theorem length_samples (sample : ConnectionMetrics → Option ℚ) :
    (ctx.records.filterMap sample).length < 2 ^ 32 :=
  Nat.lt_of_le_of_lt (List.length_filterMap_le sample ctx.records) (length_records ctx)

theorem latencyMeasure_counted :
    (latencyMeasure (counted doubles ctx)).result doubles =
      doubles.measured 999999 ctx.stats.avgConnectionLatencyMs (ctx.latencies doubles) := by
  rw [counted, view_foldl (fun acc cm => countRecord doubles cm acc) latencyMeasure
    (fun cm => durationSample doubles cm.connectionLatency) (Measure.count doubles)
    (fun acc cm => latencyMeasure_countRecord doubles acc cm)]
  exact result_foldl doubles _ 999999 ctx.stats.avgConnectionLatencyMs (length_samples ctx _)

theorem negotiationMeasure_counted :
    (negotiationMeasure (counted doubles ctx)).result doubles =
      doubles.measured 999999 ctx.stats.avgKeyNegotiationMs (ctx.negotiations doubles) := by
  rw [counted, view_foldl (fun acc cm => countRecord doubles cm acc) negotiationMeasure
    (fun cm => durationSample doubles cm.keyNegotiation) (Measure.count doubles)
    (fun acc cm => negotiationMeasure_countRecord doubles acc cm)]
  exact result_foldl doubles _ 999999 ctx.stats.avgKeyNegotiationMs (length_samples ctx _)

theorem throughputMeasure_counted :
    (throughputMeasure (counted doubles ctx)).result doubles =
      doubles.measured 0 ctx.stats.avgThroughputMbps ctx.throughputs := by
  rw [counted, view_foldl (fun acc cm => countRecord doubles cm acc) throughputMeasure
    throughputSample (Measure.count doubles)
    (fun acc cm => throughputMeasure_countRecord doubles acc cm)]
  exact result_foldl doubles _ 0 ctx.stats.avgThroughputMbps (length_samples ctx _)

theorem totalBytesTransferred_counted :
    (counted doubles ctx).2.totalBytesTransferred.toNat = ctx.transferred % 2 ^ 64 := by
  have running : ∀ (records : List ConnectionMetrics) (acc : StatsTotals × PerformanceStats),
      (records.foldl (fun acc cm => countRecord doubles cm acc) acc).2.totalBytesTransferred.toNat =
        (acc.2.totalBytesTransferred.toNat +
          (records.map fun cm => cm.bytesSent.toNat + cm.bytesReceived.toNat).sum) % 2 ^ 64 := by
    intro records
    induction records with
    | nil =>
        intro acc
        exact (Nat.mod_eq_of_lt acc.2.totalBytesTransferred.toNat_lt).symm
    | cons cm rest ih =>
        intro acc
        rw [List.foldl_cons, ih, totalBytesTransferred_countRecord, UInt64.toNat_add,
          UInt64.toNat_add, List.map_cons, List.sum_cons]
        omega
  have total := running ctx.records (⟨0, 0, 0, 0, 0, 0⟩, resetStats ctx.stats)
  have reset : (resetStats ctx.stats).totalBytesTransferred.toNat = 0 := rfl
  rw [reset, Nat.zero_add] at total
  exact total

theorem calculated_latency :
    (perfMetricsCalculateStats doubles ctx).stats.latency =
      doubles.measured 999999 ctx.stats.avgConnectionLatencyMs (ctx.latencies doubles) := by
  rw [perfMetricsCalculateStats_stats, averageStats_eq]
  exact latencyMeasure_counted doubles ctx

theorem calculated_negotiation :
    (perfMetricsCalculateStats doubles ctx).stats.negotiation =
      doubles.measured 999999 ctx.stats.avgKeyNegotiationMs (ctx.negotiations doubles) := by
  rw [perfMetricsCalculateStats_stats, averageStats_eq]
  exact negotiationMeasure_counted doubles ctx

theorem calculated_throughput :
    (perfMetricsCalculateStats doubles ctx).stats.throughput =
      (doubles.averageAfter ctx.stats.avgThroughputMbps ctx.throughputs,
        highest 0 ctx.throughputs) := by
  rw [perfMetricsCalculateStats_stats, averageStats_eq]
  exact congrArg Prod.snd (throughputMeasure_counted doubles ctx)

theorem calculated_bytes :
    (perfMetricsCalculateStats doubles ctx).stats.totalBytesTransferred.toNat =
      ctx.transferred % 2 ^ 64 := by
  rw [perfMetricsCalculateStats_stats, averageStats_eq]
  exact totalBytesTransferred_counted doubles ctx

theorem latency_again :
    (perfMetricsCalculateStats doubles (perfMetricsCalculateStats doubles ctx)).stats.latency =
      (perfMetricsCalculateStats doubles ctx).stats.latency := by
  have average := congrArg (fun result => result.2.1) (calculated_latency doubles ctx)
  dsimp only [PerformanceStats.latency, Doubles.measured] at average
  have same : (perfMetricsCalculateStats doubles ctx).latencies doubles =
    ctx.latencies doubles := rfl
  rw [calculated_latency doubles (perfMetricsCalculateStats doubles ctx),
    calculated_latency doubles ctx, same, average, Doubles.measured, averageAfter_twice]
  rfl

theorem negotiation_again :
    (perfMetricsCalculateStats doubles (perfMetricsCalculateStats doubles ctx)).stats.negotiation =
      (perfMetricsCalculateStats doubles ctx).stats.negotiation := by
  have average := congrArg (fun result => result.2.1) (calculated_negotiation doubles ctx)
  dsimp only [PerformanceStats.negotiation, Doubles.measured] at average
  have same : (perfMetricsCalculateStats doubles ctx).negotiations doubles =
    ctx.negotiations doubles := rfl
  rw [calculated_negotiation doubles (perfMetricsCalculateStats doubles ctx),
    calculated_negotiation doubles ctx, same, average, Doubles.measured, averageAfter_twice]
  rfl

theorem throughput_again :
    (perfMetricsCalculateStats doubles (perfMetricsCalculateStats doubles ctx)).stats.throughput =
      (perfMetricsCalculateStats doubles ctx).stats.throughput := by
  have average := congrArg Prod.fst (calculated_throughput doubles ctx)
  dsimp only [PerformanceStats.throughput] at average
  have same : (perfMetricsCalculateStats doubles ctx).throughputs = ctx.throughputs := rfl
  rw [calculated_throughput doubles (perfMetricsCalculateStats doubles ctx),
    calculated_throughput doubles ctx, same, average, averageAfter_twice]

theorem calculated_system :
    (perfMetricsCalculateStats doubles ctx).stats.avgCpuUsage =
        ctx.systemMetrics.cpuUsagePercent ∧
      (perfMetricsCalculateStats doubles ctx).stats.avgMemoryUsageKb =
        ctx.systemMetrics.memoryUsageKb := by
  rw [perfMetricsCalculateStats_stats, averageStats_eq]
  exact ⟨rfl, rfl⟩

/-- A second call changes nothing: the samples are the same, and where there is none
the average stays as it is. -/
theorem calculated_twice :
    (perfMetricsCalculateStats doubles (perfMetricsCalculateStats doubles ctx)).stats =
      (perfMetricsCalculateStats doubles ctx).stats := by
  have kept := perfMetricsCalculateStats_uncomputed doubles (perfMetricsCalculateStats doubles ctx)
  have total := congrArg PerformanceStats.totalConnections kept
  have successful := congrArg PerformanceStats.successfulConnections kept
  have failed := congrArg PerformanceStats.failedConnections kept
  have peakCpu := congrArg PerformanceStats.peakCpuUsage kept
  have peakMemory := congrArg PerformanceStats.peakMemoryUsageKb kept
  dsimp only [PerformanceStats.uncomputed] at total successful failed peakCpu peakMemory
  have latency := latency_again doubles ctx
  have negotiation := negotiation_again doubles ctx
  have throughput := throughput_again doubles ctx
  have bytes := (calculated_bytes doubles (perfMetricsCalculateStats doubles ctx)).trans
    (calculated_bytes doubles ctx).symm
  simp only [PerformanceStats.latency, PerformanceStats.negotiation, PerformanceStats.throughput,
    Prod.mk.injEq] at latency negotiation throughput
  have cpu := (calculated_system doubles (perfMetricsCalculateStats doubles ctx)).1.trans
    (calculated_system doubles ctx).1.symm
  have memory := (calculated_system doubles (perfMetricsCalculateStats doubles ctx)).2.trans
    (calculated_system doubles ctx).2.symm
  exact PerformanceStats.ext total successful failed latency.2.1 latency.1 latency.2.2
    negotiation.2.1 negotiation.1 negotiation.2.2 throughput.1 throughput.2
    (UInt64.toNat_inj.mp bytes) cpu peakCpu memory peakMemory

end Call

/-! ## Exact arithmetic -/

section Exact
variable (ctx : PerfMetricsCtx)

theorem durationSample_pos (tp : Timepoint) (x : ℚ)
    (sampled : durationSample .exact tp = some x) : 0 < x := by
  unfold durationSample at sampled
  split at sampled
  · rename_i positive
    cases sampled
    have nanoseconds : (0 : ℚ) < tp.durationNs.toNat :=
      Nat.cast_pos.mpr (UInt64.lt_iff_toNat_lt.mp positive)
    exact div_pos nanoseconds (by norm_num)
  · cases sampled

theorem latencies_pos : ∀ x ∈ ctx.latencies .exact, 0 < x := by
  intro x sampled
  obtain ⟨cm, -, sample⟩ := List.mem_filterMap.mp sampled
  exact durationSample_pos cm.connectionLatency x sample

theorem negotiations_pos : ∀ x ∈ ctx.negotiations .exact, 0 < x := by
  intro x sampled
  obtain ⟨cm, -, sample⟩ := List.mem_filterMap.mp sampled
  exact durationSample_pos cm.keyNegotiation x sample

theorem throughputs_pos : ∀ x ∈ ctx.throughputs, 0 < x := by
  intro x sampled
  obtain ⟨cm, -, sample⟩ := List.mem_filterMap.mp sampled
  unfold throughputSample at sample
  split at sample
  · rename_i positive
    cases sample
    exact positive
  · cases sample

theorem latency_measured_iff :
    Measured (ctx.latencies .exact)
        (perfMetricsCalculateStats .exact ctx).stats.minConnectionLatencyMs
        (perfMetricsCalculateStats .exact ctx).stats.avgConnectionLatencyMs
        (perfMetricsCalculateStats .exact ctx).stats.maxConnectionLatencyMs ↔
      MeasureFits (ctx.latencies .exact) ctx.stats.avgConnectionLatencyMs := by
  have result := calculated_latency .exact ctx
  simp only [PerformanceStats.latency, Doubles.measured, Prod.mk.injEq] at result
  rw [result.1, result.2.1, result.2.2,
    averageAfter_exact _ (ctx.latencies .exact) (length_samples ctx _)]
  exact measured_iff (ctx.latencies .exact) (latencies_pos ctx) ctx.stats.avgConnectionLatencyMs

theorem negotiation_measured_iff :
    Measured (ctx.negotiations .exact)
        (perfMetricsCalculateStats .exact ctx).stats.minKeyNegotiationMs
        (perfMetricsCalculateStats .exact ctx).stats.avgKeyNegotiationMs
        (perfMetricsCalculateStats .exact ctx).stats.maxKeyNegotiationMs ↔
      MeasureFits (ctx.negotiations .exact) ctx.stats.avgKeyNegotiationMs := by
  have result := calculated_negotiation .exact ctx
  simp only [PerformanceStats.negotiation, Doubles.measured, Prod.mk.injEq] at result
  rw [result.1, result.2.1, result.2.2,
    averageAfter_exact _ (ctx.negotiations .exact) (length_samples ctx _)]
  exact measured_iff (ctx.negotiations .exact) (negotiations_pos ctx)
    ctx.stats.avgKeyNegotiationMs

theorem throughput_mean_iff :
    (perfMetricsCalculateStats .exact ctx).stats.avgThroughputMbps = mean ctx.throughputs ↔
      (ctx.throughputs = [] → ctx.stats.avgThroughputMbps = 0) := by
  have result := calculated_throughput .exact ctx
  simp only [PerformanceStats.throughput, Prod.mk.injEq] at result
  rw [result.1, averageAfter_exact _ ctx.throughputs (length_samples ctx _)]
  by_cases none : ctx.throughputs = []
  · rw [if_pos none, none, mean_nil]
    exact ⟨fun zero _ => zero, fun zero => zero rfl⟩
  · rw [if_neg none]
    exact ⟨fun _ empty => absurd empty none, fun _ => rfl⟩

/-- The statistics are those of the records if and only if no average of an earlier
call is left over, and where there are durations one of them is at most the value
that the minimum starts from. -/
theorem calculateStats_exact_iff :
    StatsExact ctx ↔
      MeasureFits (ctx.latencies .exact) ctx.stats.avgConnectionLatencyMs ∧
        MeasureFits (ctx.negotiations .exact) ctx.stats.avgKeyNegotiationMs ∧
        (ctx.throughputs = [] → ctx.stats.avgThroughputMbps = 0) := by
  rw [← latency_measured_iff, ← negotiation_measured_iff, ← throughput_mean_iff]
  constructor
  · intro stats
    exact ⟨stats.latency, stats.negotiation, stats.avgThroughput⟩
  · rintro ⟨latency, negotiation, throughput⟩
    have result := calculated_throughput .exact ctx
    simp only [PerformanceStats.throughput, Prod.mk.injEq] at result
    exact
      { latency := latency
        negotiation := negotiation
        avgThroughput := throughput
        maxThroughput := result.2.trans (highest_eq_greatest ctx.throughputs (throughputs_pos ctx))
        bytes := calculated_bytes .exact ctx
        again := calculated_twice .exact ctx }

end Exact

/-- A millisecond is measured and counted; then the record is measured again, within
one reading of the clock. -/
def measuredTwice : List MetricsCall :=
  [.connectionStart 1, .latencyStart 0 ⟨1, 0⟩, .latencyEnd 0 ⟨1, 1000000⟩, .calculateStats,
    .latencyStart 0 ⟨2, 0⟩, .latencyEnd 0 ⟨2, 0⟩]

/-- The average of the first measurement is reported for no measurement at all. -/
theorem measuredTwice_stale :
    ¬ StatsExact (measuredTwice.foldl MetricsCall.perform (perfMetricsInit 1)) := by
  intro stats
  have mean := stats.latency.mean
  have stale : (perfMetricsCalculateStats .exact
      (measuredTwice.foldl MetricsCall.perform (perfMetricsInit 1))).stats.avgConnectionLatencyMs =
        1 := by
    decide +kernel
  have none :
      (measuredTwice.foldl MetricsCall.perform (perfMetricsInit 1)).latencies .exact = [] := by
    decide +kernel
  rw [stale, none, mean_nil] at mean
  exact absurd mean one_ne_zero

end TlshubEbpf.Capture
