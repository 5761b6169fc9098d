import Mathlib.Algebra.Field.Rat
import TlshubEbpf.Bench.Outcomes
import TlshubEbpf.Lib.Statistics

/-! # The latency statistics of the benchmark

`update_metrics` counts every successful connection and sums and compares those
latencies that are positive; `finalize_metrics` divides by the number of successful
connections. -/

set_option autoImplicit false

namespace TlshubEbpf.Bench

open Lib

/-- As far as the connections go: the duration of the test and the use of CPU and
memory come from the system. -/
def finalizeMetrics (metrics : GlobalMetrics) : GlobalMetrics :=
  if metrics.successfulConnections > 0 then
    { metrics with
      avgConnectionLatencyMs := metrics.avgConnectionLatencyMs / metrics.successfulConnections
      avgThroughputMbps := metrics.avgThroughputMbps / metrics.successfulConnections }
  else
    { metrics with
      avgConnectionLatencyMs := 0
      minConnectionLatencyMs := 0
      maxConnectionLatencyMs := 0
      avgThroughputMbps := 0 }

def benchMetrics (results : List ConnStats) : GlobalMetrics :=
  finalizeMetrics (results.foldl updateMetrics initMetrics)

def successful (results : List ConnStats) : List ConnStats :=
  results.filter fun stats => decide (stats.state = .closed)

def successfulLatencies (results : List ConnStats) : List ℚ :=
  (successful results).map (·.connectionLatencyMs)

def successfulThroughputs (results : List ConnStats) : List ℚ :=
  (successful results).map (·.throughputMbps)

/-- What the statistics should be: all of them 0 if no connection was successful. -/
structure LatencyExact (results : List ConnStats) : Prop where
  least : (benchMetrics results).minConnectionLatencyMs = least (successfulLatencies results)
  mean : (benchMetrics results).avgConnectionLatencyMs = mean (successfulLatencies results)
  greatest : (benchMetrics results).maxConnectionLatencyMs =
    greatest (successfulLatencies results)
  throughput : (benchMetrics results).avgThroughputMbps =
    Lib.mean (successfulThroughputs results)
  ordered :
    (benchMetrics results).minConnectionLatencyMs ≤ (benchMetrics results).avgConnectionLatencyMs ∧
      (benchMetrics results).avgConnectionLatencyMs ≤ (benchMetrics results).maxConnectionLatencyMs

structure NonNegative (stats : ConnStats) : Prop where
  latency : 0 ≤ stats.connectionLatencyMs
  throughput : 0 ≤ stats.throughputMbps

instance (stats : ConnStats) : Decidable (NonNegative stats) :=
  decidable_of_iff (0 ≤ stats.connectionLatencyMs ∧ 0 ≤ stats.throughputMbps)
    ⟨fun both => ⟨both.1, both.2⟩, fun nonneg => ⟨nonneg.latency, nonneg.throughput⟩⟩

def latencySample (stats : ConnStats) : Option ℚ :=
  if stats.state = .closed ∧ 0 < stats.connectionLatencyMs then some stats.connectionLatencyMs
  else none

def throughputSample (stats : ConnStats) : Option ℚ :=
  if stats.state = .closed ∧ 0 < stats.throughputMbps then some stats.throughputMbps else none

def GlobalMetrics.latencyTally (metrics : GlobalMetrics) : Tally ℚ :=
  { total := metrics.avgConnectionLatencyMs
    lowest := metrics.minConnectionLatencyMs
    highest := metrics.maxConnectionLatencyMs }

section Update
variable (metrics : GlobalMetrics) (stats : ConnStats)

theorem updateMetrics_other (other : stats.state ≠ .closed) :
    (updateMetrics metrics stats).latencyTally = metrics.latencyTally ∧
      (updateMetrics metrics stats).avgThroughputMbps = metrics.avgThroughputMbps ∧
      (updateMetrics metrics stats).successfulConnections = metrics.successfulConnections := by
  by_cases failed : stats.state = .failed
  · simp [updateMetrics, failed, GlobalMetrics.latencyTally]
  · by_cases timedOut : stats.state = .timeout
    · simp [updateMetrics, timedOut, GlobalMetrics.latencyTally]
    · simp [updateMetrics, other, failed, timedOut, GlobalMetrics.latencyTally]

theorem latencyTally_updateMetrics :
    (updateMetrics metrics stats).latencyTally =
      (latencySample stats).elim metrics.latencyTally metrics.latencyTally.count := by
  by_cases closed : stats.state = .closed
  case neg =>
    have skipped : latencySample stats = none := if_neg fun counted => closed counted.1
    rw [(updateMetrics_other metrics stats closed).1, skipped]
    rfl
  case pos =>
    have afterThroughput : ∀ metrics : GlobalMetrics,
        (updateThroughput stats.throughputMbps metrics).latencyTally = metrics.latencyTally := by
      intro metrics
      unfold updateThroughput
      split <;> rfl
    rw [updateMetrics, if_pos closed, afterThroughput]
    by_cases positive : stats.connectionLatencyMs > 0
    · have sampled : latencySample stats = some stats.connectionLatencyMs :=
        if_pos ⟨closed, positive⟩
      rw [updateLatency, if_pos positive, sampled]
      rfl
    · have skipped : latencySample stats = none := if_neg fun counted => positive counted.2
      rw [updateLatency, if_neg positive, skipped]
      rfl

theorem avgThroughput_updateMetrics :
    (updateMetrics metrics stats).avgThroughputMbps =
      (throughputSample stats).elim metrics.avgThroughputMbps
        (metrics.avgThroughputMbps + ·) := by
  by_cases closed : stats.state = .closed
  case neg =>
    have skipped : throughputSample stats = none := if_neg fun counted => closed counted.1
    rw [(updateMetrics_other metrics stats closed).2.1, skipped]
    rfl
  case pos =>
    have afterLatency : ∀ metrics : GlobalMetrics,
        (updateLatency stats.connectionLatencyMs metrics).avgThroughputMbps =
          metrics.avgThroughputMbps := by
      intro metrics
      unfold updateLatency
      split <;> rfl
    rw [updateMetrics, if_pos closed]
    by_cases positive : stats.throughputMbps > 0
    · have sampled : throughputSample stats = some stats.throughputMbps :=
        if_pos ⟨closed, positive⟩
      rw [updateThroughput, if_pos positive, sampled]
      exact congrArg (· + stats.throughputMbps) (afterLatency _)
    · have skipped : throughputSample stats = none := if_neg fun counted => positive counted.2
      rw [updateThroughput, if_neg positive, skipped]
      exact afterLatency _

theorem successfulConnections_updateMetrics :
    (updateMetrics metrics stats).successfulConnections =
      metrics.successfulConnections + if stats.state = .closed then 1 else 0 := by
  by_cases closed : stats.state = .closed
  · have counted := updateMetrics_closed metrics stats closed
    simp only [GlobalMetrics.counts, Prod.mk.injEq] at counted
    rw [if_pos closed, counted.2.1]
  · rw [if_neg closed, (updateMetrics_other metrics stats closed).2.2, add_zero]

end Update

section Results
variable (results : List ConnStats)

theorem filterMap_latencySample :
    results.filterMap latencySample =
      (successfulLatencies results).filter fun x => decide (0 < x) := by
  induction results with
  | nil => rfl
  | cons stats rest ih =>
      simp only [successfulLatencies, successful] at ih ⊢
      by_cases closed : stats.state = .closed
      · by_cases positive : 0 < stats.connectionLatencyMs
        · simp [latencySample, closed, positive, ih]
        · simp [latencySample, closed, positive, ih]
      · simp [latencySample, closed, ih]

theorem filterMap_throughputSample :
    results.filterMap throughputSample =
      (successfulThroughputs results).filter fun x => decide (0 < x) := by
  induction results with
  | nil => rfl
  | cons stats rest ih =>
      simp only [successfulThroughputs, successful] at ih ⊢
      by_cases closed : stats.state = .closed
      · by_cases positive : 0 < stats.throughputMbps
        · simp [throughputSample, closed, positive, ih]
        · simp [throughputSample, closed, positive, ih]
      · simp [throughputSample, closed, ih]

theorem successfulConnections_updates (metrics : GlobalMetrics) :
    (results.foldl updateMetrics metrics).successfulConnections =
      metrics.successfulConnections + (successful results).length := by
  induction results generalizing metrics with
  | nil => simp [successful]
  | cons stats rest ih =>
      rw [List.foldl_cons, ih, successfulConnections_updateMetrics]
      by_cases closed : stats.state = .closed
      · simp [successful, closed]
        omega
      · simp [successful, closed]

theorem latencyTally_updates :
    (results.foldl updateMetrics initMetrics).latencyTally =
      { total := ((successfulLatencies results).filter fun x => decide (0 < x)).sum
        lowest := lowest 999999 ((successfulLatencies results).filter fun x => decide (0 < x))
        highest := highest 0 ((successfulLatencies results).filter fun x => decide (0 < x)) } := by
  rw [view_foldl updateMetrics GlobalMetrics.latencyTally latencySample Tally.count
    latencyTally_updateMetrics, filterMap_latencySample, foldl_count]
  simp only [GlobalMetrics.latencyTally, initMetrics, zero_add]

theorem avgThroughput_updates :
    (results.foldl updateMetrics initMetrics).avgThroughputMbps =
      ((successfulThroughputs results).filter fun x => decide (0 < x)).sum := by
  rw [view_foldl updateMetrics GlobalMetrics.avgThroughputMbps throughputSample (· + ·)
    avgThroughput_updateMetrics, filterMap_throughputSample, List.sum_eq_foldl]
  rfl

theorem benchMetrics_none (none : successful results = []) :
    (benchMetrics results).latencyTally = ⟨0, 0, 0⟩ ∧
      (benchMetrics results).avgThroughputMbps = 0 := by
  have count := successfulConnections_updates results initMetrics
  rw [none] at count
  have zero : ¬ (results.foldl updateMetrics initMetrics).successfulConnections > 0 := by
    rw [count]
    exact lt_irrefl 0
  rw [benchMetrics, finalizeMetrics, if_neg zero]
  exact ⟨rfl, rfl⟩

section Some
variable (nonneg : ∀ stats ∈ results, NonNegative stats) (some : successful results ≠ [])
include nonneg some

theorem benchMetrics_some :
    (benchMetrics results).latencyTally =
        ⟨mean (successfulLatencies results),
          lowest 999999 ((successfulLatencies results).filter fun x => decide (0 < x)),
          greatest (successfulLatencies results)⟩ ∧
      (benchMetrics results).avgThroughputMbps = mean (successfulThroughputs results) := by
  have count := successfulConnections_updates results initMetrics
  have positive : (results.foldl updateMetrics initMetrics).successfulConnections > 0 := by
    have length := List.length_pos_of_ne_nil some
    rw [count]
    exact Int.add_pos_of_nonneg_of_pos le_rfl (Int.natCast_pos.mpr length)
  have divisor : ((results.foldl updateMetrics initMetrics).successfulConnections : ℚ) =
      (successful results).length := by
    rw [count, initMetrics, zero_add, Int.cast_natCast]
  have latencies : ∀ x ∈ successfulLatencies results, 0 ≤ x := by
    intro x inside
    obtain ⟨stats, success, rfl⟩ := List.mem_map.mp inside
    exact (nonneg stats (List.mem_of_mem_filter success)).latency
  have throughputs : ∀ x ∈ successfulThroughputs results, 0 ≤ x := by
    intro x inside
    obtain ⟨stats, success, rfl⟩ := List.mem_map.mp inside
    exact (nonneg stats (List.mem_of_mem_filter success)).throughput
  have tally := latencyTally_updates results
  rw [sum_filter_pos _ latencies, highest_filter_pos _ latencies] at tally
  have throughput := avgThroughput_updates results
  rw [sum_filter_pos _ throughputs] at throughput
  simp only [GlobalMetrics.latencyTally, Tally.mk.injEq] at tally
  rw [benchMetrics, finalizeMetrics, if_pos positive]
  constructor
  · simp only [GlobalMetrics.latencyTally, Tally.mk.injEq]
    refine ⟨?_, tally.2.1, tally.2.2⟩
    rw [divisor, tally.1, mean, successfulLatencies, List.length_map]
  · dsimp only
    rw [divisor, throughput, mean, successfulThroughputs, List.length_map]

end Some

/-- The statistics are right if and only if every successful connection has a
positive latency, and one of them a latency up to the value that the minimum
starts from; or none was successful. -/
theorem benchLatency_exact_iff (nonneg : ∀ stats ∈ results, NonNegative stats) :
    LatencyExact results ↔
      (successful results ≠ [] →
        (∀ stats ∈ successful results, 0 < stats.connectionLatencyMs) ∧
          ∃ stats ∈ successful results, stats.connectionLatencyMs ≤ 999999) := by
  by_cases none : successful results = []
  case pos =>
    obtain ⟨tally, throughput⟩ := benchMetrics_none results none
    simp only [GlobalMetrics.latencyTally, Tally.mk.injEq] at tally
    have latencies : successfulLatencies results = [] := by rw [successfulLatencies, none]; rfl
    have throughputs : successfulThroughputs results = [] := by
      rw [successfulThroughputs, none]
      rfl
    constructor
    · intro _ some
      exact absurd none some
    · intro _
      exact
        { least := by rw [tally.2.1, latencies]; rfl
          mean := by rw [tally.1, latencies, mean_nil]
          greatest := by rw [tally.2.2, latencies]; rfl
          throughput := by rw [throughput, throughputs, mean_nil]
          ordered := by rw [tally.1, tally.2.1, tally.2.2]; exact ⟨le_rfl, le_rfl⟩ }
  case neg =>
    obtain ⟨tally, throughput⟩ := benchMetrics_some results nonneg none
    simp only [GlobalMetrics.latencyTally, Tally.mk.injEq] at tally
    have some : successfulLatencies results ≠ [] := fun empty => none (List.map_eq_nil_iff.mp empty)
    have least_iff := lowest_filter_pos_iff (successfulLatencies results) 999999 (by norm_num) some
    simp only [successfulLatencies, List.mem_map, exists_exists_and_eq_and,
      forall_exists_index, and_imp, forall_apply_eq_imp_iff₂] at least_iff
    constructor
    · intro exactly _
      exact least_iff.mp (tally.2.1.symm.trans exactly.least)
    · intro fits
      have least := tally.2.1.trans (least_iff.mpr (fits none))
      exact
        { least := least
          mean := tally.1
          greatest := tally.2.2
          throughput := throughput
          ordered := by
            rw [least, tally.1, tally.2.2]
            exact ⟨least_le_mean _, mean_le_greatest _⟩ }

end Results

def successOf (latency : ℚ) : ConnStats :=
  { ConnStats.zeroed with state := .closed, connectionLatencyMs := latency }

/-- Three connections are successful, one of them after the value that the minimum starts
from; between them one fails after its connect, and one times out. -/
def variedResults : List ConnStats :=
  [{ successOf 1000000 with throughputMbps := 8 },
    { ConnStats.zeroed with state := .failed, connectionLatencyMs := 1 / 4 },
    successOf (1 / 2),
    { ConnStats.zeroed with state := .timeout },
    { successOf 3 with throughputMbps := 2 }]

theorem variedResults_exact : LatencyExact variedResults := by
  refine (benchLatency_exact_iff variedResults ?_).mpr fun _ => ⟨?_, ?_⟩
  · decide +kernel
  · decide +kernel
  · decide +kernel

/-- The latency 0 is counted and not compared: the minimum stays at 999999. -/
theorem zeroLatency_sentinel :
    (∀ stats ∈ [successOf 0], NonNegative stats) ∧ ¬ LatencyExact [successOf 0] := by
  refine ⟨by decide +kernel, fun exactly => ?_⟩
  have minimum : (benchMetrics [successOf 0]).minConnectionLatencyMs = 999999 := by
    decide +kernel
  have average : (benchMetrics [successOf 0]).avgConnectionLatencyMs = 0 := by
    decide +kernel
  have ordered := exactly.ordered.1
  rw [minimum, average] at ordered
  exact absurd ordered (by decide +kernel)

end TlshubEbpf.Bench
