import TlshubEbpf.Capture.PerformanceMetrics
import TlshubEbpf.Lib.Transitions

/-! # What every sequence of metrics calls keeps

Beside the context a run records the indices that `perf_metrics_connection_start`
has returned and those on which `perf_metrics_connection_end` has been called
since. -/

set_option autoImplicit false

namespace TlshubEbpf.Capture

open Lib

inductive MetricsCall where
  | connectionStart (connectionId : UInt64)
  | latencyStart (connIndex : Int) (now : Timespec)
  | latencyEnd (connIndex : Int) (now : Timespec)
  | keyNegotiationStart (connIndex : Int) (now : Timespec)
  | keyNegotiationEnd (connIndex : Int) (now : Timespec)
  | recordDataTransfer (connIndex : Int) (bytesSent bytesReceived : UInt64)
      (first last : Timespec)
  | connectionEnd (connIndex success : Int)
  | setEnabled (enabled : Int)
  | calculateStats

def MetricsCall.perform (ctx : PerfMetricsCtx) : MetricsCall → PerfMetricsCtx
  | .connectionStart connectionId => (perfMetricsConnectionStart connectionId ctx).2
  | .latencyStart connIndex now => perfMetricsConnectionLatencyStart now connIndex ctx
  | .latencyEnd connIndex now => perfMetricsConnectionLatencyEnd now connIndex ctx
  | .keyNegotiationStart connIndex now => perfMetricsKeyNegotiationStart now connIndex ctx
  | .keyNegotiationEnd connIndex now => perfMetricsKeyNegotiationEnd now connIndex ctx
  | .recordDataTransfer connIndex bytesSent bytesReceived first last =>
      perfMetricsRecordDataTransfer bytesSent bytesReceived first last connIndex ctx
  | .connectionEnd connIndex success => perfMetricsConnectionEnd connIndex success ctx
  | .setEnabled enabled => perfMetricsSetEnabled enabled ctx
  | .calculateStats => perfMetricsCalculateStats .exact ctx

/-- The index that a call is about: the one it is given, or the one it returns. -/
def MetricsCall.index (ctx : PerfMetricsCtx) : MetricsCall → Option Int
  | .connectionStart connectionId => some (perfMetricsConnectionStart connectionId ctx).1
  | .latencyStart connIndex _ => some connIndex
  | .latencyEnd connIndex _ => some connIndex
  | .keyNegotiationStart connIndex _ => some connIndex
  | .keyNegotiationEnd connIndex _ => some connIndex
  | .recordDataTransfer connIndex _ _ _ _ => some connIndex
  | .connectionEnd connIndex _ => some connIndex
  | .setEnabled _ => none
  | .calculateStats => none

structure MetricsRun where
  ctx : PerfMetricsCtx
  issued : List Int
  ended : List Int

def MetricsRun.start (maxConnections : UInt32) : MetricsRun :=
  ⟨perfMetricsInit maxConnections, [], []⟩

def noteIssued (index : Int) (issued : List Int) : List Int :=
  if index < 0 then issued else index :: issued

def MetricsRun.noteEnded (run : MetricsRun) (index : Int) : List Int :=
  if index ∈ run.issued then index :: run.ended else run.ended

def MetricsRun.step (run : MetricsRun) (call : MetricsCall) : Option MetricsRun :=
  some
    { ctx := call.perform run.ctx
      issued :=
        match call with
        | .connectionStart connectionId =>
            noteIssued (perfMetricsConnectionStart connectionId run.ctx).1 run.issued
        | _ => run.issued
      ended :=
        match call with
        | .connectionEnd connIndex _ => run.noteEnded connIndex
        | _ => run.ended }

def EndsOnce (run : MetricsRun) : MetricsCall → Prop
  | .connectionEnd connIndex _ => connIndex ∈ run.issued → connIndex ∉ run.ended
  | _ => True

instance (run : MetricsRun) : DecidablePred (EndsOnce run)
  | .connectionEnd _ _ => inferInstanceAs (Decidable (_ → _))
  | .connectionStart _ => inferInstanceAs (Decidable True)
  | .latencyStart _ _ => inferInstanceAs (Decidable True)
  | .latencyEnd _ _ => inferInstanceAs (Decidable True)
  | .keyNegotiationStart _ _ => inferInstanceAs (Decidable True)
  | .keyNegotiationEnd _ _ => inferInstanceAs (Decidable True)
  | .recordDataTransfer _ _ _ _ _ => inferInstanceAs (Decidable True)
  | .setEnabled _ => inferInstanceAs (Decidable True)
  | .calculateStats => inferInstanceAs (Decidable True)

structure Balanced (maxConnections : UInt32) (ctx : PerfMetricsCtx) : Prop where
  current : ctx.currentConnections.toNat = ctx.stats.totalConnections.toNat
  capacity : ctx.stats.totalConnections.toNat ≤ maxConnections.toNat
  balance : ctx.stats.totalConnections.toNat =
    ctx.stats.successfulConnections.toNat + ctx.stats.failedConnections.toNat +
      ctx.systemMetrics.activeConnections.toNat
  inArray : ∀ index ∈ ctx.accessed, 0 ≤ index ∧ index < maxConnections.toNat

def StartsFresh (before : MetricsRun) (connectionId : UInt64) : Prop :=
  let result := perfMetricsConnectionStart connectionId before.ctx
  (0 ≤ result.1 ∧ result.1 ∉ before.issued) ∨ (result.1 = -1 ∧ result.2 = before.ctx)

structure CallSound (maxConnections : UInt32) (before : MetricsRun) (call : MetricsCall)
    (after : MetricsRun) : Prop where
  balanced : Balanced maxConnections after.ctx
  fresh : ∀ connectionId, call = .connectionStart connectionId → StartsFresh before connectionId
  frame : ∀ index, call.index before.ctx ≠ some index →
    after.ctx.connMetrics index = before.ctx.connMetrics index

structure MetricsRun.Inv (maxConnections : UInt32) (run : MetricsRun) : Prop
    extends Balanced maxConnections run.ctx where
  limit : run.ctx.maxConnections = maxConnections
  issuedBelow : ∀ index, index ∈ run.issued ↔
    0 ≤ index ∧ index < run.ctx.currentConnections.toNat
  endedNodup : run.ended.Nodup
  endedIssued : ∀ index ∈ run.ended, index ∈ run.issued
  closed : run.ctx.stats.successfulConnections.toNat + run.ctx.stats.failedConnections.toNat ≤
    run.ended.length

theorem perfMetricsConnectionStart_cases (connectionId : UInt64) (ctx : PerfMetricsCtx) :
    perfMetricsConnectionStart connectionId ctx = (-1, ctx) ∨
      (ctx.monitoringEnabled ≠ 0 ∧
        ctx.currentConnections.toNat < ctx.maxConnections.toNat ∧
        perfMetricsConnectionStart connectionId ctx =
          (intOfU32 ctx.currentConnections,
            { ctx with
              connMetrics := Function.update ctx.connMetrics (intOfU32 ctx.currentConnections)
                { ConnectionMetrics.zeroed with connectionId := connectionId }
              accessed := intOfU32 ctx.currentConnections :: ctx.accessed
              currentConnections := ctx.currentConnections + 1
              stats := { ctx.stats with totalConnections := ctx.stats.totalConnections + 1 }
              systemMetrics :=
                { ctx.systemMetrics with
                  activeConnections := ctx.systemMetrics.activeConnections + 1 } })) := by
  unfold perfMetricsConnectionStart
  split
  · exact Or.inl rfl
  · rename_i enabled
    split
    · exact Or.inl rfl
    · rename_i room
      exact Or.inr ⟨enabled, by simpa [UInt32.le_iff_toNat_le] using room, rfl⟩

theorem tracks_iff (ctx : PerfMetricsCtx) (connIndex : Int)
    (small : ctx.currentConnections.toNat < 2 ^ 31) :
    ctx.Tracks connIndex ↔
      ctx.monitoringEnabled ≠ 0 ∧ 0 ≤ connIndex ∧
        connIndex < ctx.currentConnections.toNat := by
  unfold PerfMetricsCtx.Tracks
  rw [intOfU32_small _ small]
  omega

theorem onRecord_connMetrics (change : ConnectionMetrics → ConnectionMetrics)
    (connIndex index : Int) (ctx : PerfMetricsCtx) :
    (onRecord change connIndex ctx).connMetrics index =
      if connIndex = index ∧ ctx.Tracks connIndex then change (ctx.connMetrics index)
      else ctx.connMetrics index := by
  unfold onRecord
  by_cases tracked : ctx.Tracks connIndex
  · rw [if_pos tracked]
    by_cases same : connIndex = index
    · subst same
      rw [if_pos ⟨rfl, tracked⟩]
      exact Function.update_self _ _ _
    · rw [if_neg fun both => same both.1]
      exact Function.update_of_ne (Ne.symm same) _ _
  · rw [if_neg tracked, if_neg fun both => tracked both.2]

theorem onRecord_frame (change : ConnectionMetrics → ConnectionMetrics) (connIndex index : Int)
    (ctx : PerfMetricsCtx) (other : connIndex ≠ index) :
    (onRecord change connIndex ctx).connMetrics index = ctx.connMetrics index := by
  rw [onRecord_connMetrics, if_neg fun both => other both.1]

theorem perfMetricsConnectionStart_connMetrics (connectionId : UInt64) (index : Int)
    (ctx : PerfMetricsCtx) :
    (perfMetricsConnectionStart connectionId ctx).2.connMetrics index =
      if index ≠ -1 ∧ (perfMetricsConnectionStart connectionId ctx).1 = index then
        { ConnectionMetrics.zeroed with connectionId := connectionId }
      else ctx.connMetrics index := by
  rcases perfMetricsConnectionStart_cases connectionId ctx with full | ⟨-, room, started⟩
  · have refused : ¬ (index ≠ -1 ∧ (perfMetricsConnectionStart connectionId ctx).1 = index) := by
      rw [full]
      exact fun both => both.1 both.2.symm
    rw [if_neg refused, full]
  · have bound := ctx.maxConnections.toNat_lt
    have notMinusOne : intOfU32 ctx.currentConnections ≠ -1 := by
      unfold intOfU32
      split <;> omega
    rw [started]
    dsimp only
    by_cases same : intOfU32 ctx.currentConnections = index
    · subst same
      rw [if_pos ⟨notMinusOne, rfl⟩, Function.update_self]
    · rw [if_neg fun both => same both.2, Function.update_of_ne (Ne.symm same)]

theorem perfMetricsConnectionStart_frame (connectionId : UInt64) (index : Int)
    (ctx : PerfMetricsCtx) (other : (perfMetricsConnectionStart connectionId ctx).1 ≠ index) :
    (perfMetricsConnectionStart connectionId ctx).2.connMetrics index =
      ctx.connMetrics index := by
  rw [perfMetricsConnectionStart_connMetrics, if_neg fun both => other both.2]

theorem activeConnections_pos (active : UInt32) (some : 0 < active.toNat) : active > 0 :=
  UInt32.lt_iff_toNat_lt.mpr some

theorem perfMetricsConnectionEnd_untracked (connIndex success : Int) (ctx : PerfMetricsCtx)
    (untracked : ¬ ctx.Tracks connIndex) :
    perfMetricsConnectionEnd connIndex success ctx = ctx :=
  if_neg untracked

theorem perfMetricsConnectionEnd_success (connIndex success : Int) (ctx : PerfMetricsCtx)
    (tracked : ctx.Tracks connIndex) (active : 0 < ctx.systemMetrics.activeConnections.toNat)
    (succeeded : success ≠ 0) :
    perfMetricsConnectionEnd connIndex success ctx =
      { ctx with
        stats :=
          { ctx.stats with successfulConnections := ctx.stats.successfulConnections + 1 }
        systemMetrics :=
          { ctx.systemMetrics with
            activeConnections := ctx.systemMetrics.activeConnections - 1 } } := by
  simp only [perfMetricsConnectionEnd, if_pos tracked, if_pos succeeded,
    if_pos (activeConnections_pos _ active)]

theorem perfMetricsConnectionEnd_failure (connIndex : Int) (ctx : PerfMetricsCtx)
    (tracked : ctx.Tracks connIndex) (active : 0 < ctx.systemMetrics.activeConnections.toNat) :
    perfMetricsConnectionEnd connIndex 0 ctx =
      { ctx with
        stats := { ctx.stats with failedConnections := ctx.stats.failedConnections + 1 }
        systemMetrics :=
          { ctx.systemMetrics with
            activeConnections := ctx.systemMetrics.activeConnections - 1 } } := by
  have failed : ¬ (0 : Int) ≠ 0 := fun differs => differs rfl
  simp only [perfMetricsConnectionEnd, if_pos tracked, if_neg failed,
    if_pos (activeConnections_pos _ active)]

theorem perfMetricsConnectionEnd_connMetrics (connIndex success : Int) (ctx : PerfMetricsCtx) :
    (perfMetricsConnectionEnd connIndex success ctx).connMetrics = ctx.connMetrics := by
  unfold perfMetricsConnectionEnd
  split <;> rfl

theorem perform_frame (ctx : PerfMetricsCtx) (call : MetricsCall) (index : Int)
    (other : call.index ctx ≠ some index) :
    (call.perform ctx).connMetrics index = ctx.connMetrics index := by
  cases call with
  | connectionStart connectionId =>
      exact perfMetricsConnectionStart_frame connectionId index ctx
        fun same => other (congrArg some same)
  | latencyStart connIndex now =>
      exact onRecord_frame _ connIndex index ctx fun same => other (congrArg some same)
  | latencyEnd connIndex now =>
      exact onRecord_frame _ connIndex index ctx fun same => other (congrArg some same)
  | keyNegotiationStart connIndex now =>
      exact onRecord_frame _ connIndex index ctx fun same => other (congrArg some same)
  | keyNegotiationEnd connIndex now =>
      exact onRecord_frame _ connIndex index ctx fun same => other (congrArg some same)
  | recordDataTransfer connIndex bytesSent bytesReceived first last =>
      exact onRecord_frame _ connIndex index ctx fun same => other (congrArg some same)
  | connectionEnd connIndex success =>
      exact congrFun (perfMetricsConnectionEnd_connMetrics connIndex success ctx) index
  | setEnabled enabled => rfl
  | calculateStats => rfl

structure Bookkeeping where
  connMetrics : Int → ConnectionMetrics
  accessed : List Int
  currentConnections : UInt32
  totalConnections : UInt64
  successfulConnections : UInt64
  failedConnections : UInt64
  activeConnections : UInt32
  monitoringEnabled : Int

def PerfMetricsCtx.withBooks (ctx : PerfMetricsCtx) (books : Bookkeeping) : PerfMetricsCtx :=
  { ctx with
    connMetrics := books.connMetrics
    accessed := books.accessed
    currentConnections := books.currentConnections
    monitoringEnabled := books.monitoringEnabled
    stats :=
      { ctx.stats with
        totalConnections := books.totalConnections
        successfulConnections := books.successfulConnections
        failedConnections := books.failedConnections }
    systemMetrics :=
      { ctx.systemMetrics with activeConnections := books.activeConnections } }

def PerfMetricsCtx.books (ctx : PerfMetricsCtx) : Bookkeeping :=
  { connMetrics := ctx.connMetrics
    accessed := ctx.accessed
    currentConnections := ctx.currentConnections
    totalConnections := ctx.stats.totalConnections
    successfulConnections := ctx.stats.successfulConnections
    failedConnections := ctx.stats.failedConnections
    activeConnections := ctx.systemMetrics.activeConnections
    monitoringEnabled := ctx.monitoringEnabled }

theorem onRecord_withBooks (change : ConnectionMetrics → ConnectionMetrics) (connIndex : Int)
    (ctx : PerfMetricsCtx) :
    onRecord change connIndex ctx = ctx.withBooks (onRecord change connIndex ctx).books := by
  unfold onRecord
  split <;> rfl

theorem perfMetricsConnectionEnd_withBooks (connIndex success : Int) (ctx : PerfMetricsCtx) :
    perfMetricsConnectionEnd connIndex success ctx =
      ctx.withBooks (perfMetricsConnectionEnd connIndex success ctx).books := by
  unfold perfMetricsConnectionEnd
  split
  · by_cases succeeded : success ≠ 0
    · rw [if_pos succeeded]
      rfl
    · rw [if_neg succeeded]
      rfl
  · rfl

/-- Only `perf_metrics_calculate_stats` changes more than these. -/
theorem perform_withBooks (call : MetricsCall) (other : call ≠ .calculateStats)
    (ctx : PerfMetricsCtx) : call.perform ctx = ctx.withBooks (call.perform ctx).books := by
  cases call with
  | connectionStart connectionId =>
      simp only [MetricsCall.perform]
      rcases perfMetricsConnectionStart_cases connectionId ctx with full | ⟨-, -, started⟩
      · rw [full]
        rfl
      · rw [started]
        rfl
  | latencyStart connIndex now =>
      rw [MetricsCall.perform, perfMetricsConnectionLatencyStart]
      exact onRecord_withBooks _ connIndex ctx
  | latencyEnd connIndex now =>
      rw [MetricsCall.perform, perfMetricsConnectionLatencyEnd]
      exact onRecord_withBooks _ connIndex ctx
  | keyNegotiationStart connIndex now =>
      rw [MetricsCall.perform, perfMetricsKeyNegotiationStart]
      exact onRecord_withBooks _ connIndex ctx
  | keyNegotiationEnd connIndex now =>
      rw [MetricsCall.perform, perfMetricsKeyNegotiationEnd]
      exact onRecord_withBooks _ connIndex ctx
  | recordDataTransfer connIndex bytesSent bytesReceived first last =>
      exact onRecord_withBooks _ connIndex ctx
  | connectionEnd connIndex success => exact perfMetricsConnectionEnd_withBooks connIndex success ctx
  | setEnabled enabled => rfl
  | calculateStats => exact absurd rfl other

/-! ## The counters and the statistics -/

def PerformanceStats.counts (stats : PerformanceStats) : UInt64 × UInt64 × UInt64 :=
  (stats.totalConnections, stats.successfulConnections, stats.failedConnections)

def PerformanceStats.uncomputed (stats : PerformanceStats) : PerformanceStats :=
  { stats with
    avgConnectionLatencyMs := 0
    minConnectionLatencyMs := 0
    maxConnectionLatencyMs := 0
    avgKeyNegotiationMs := 0
    minKeyNegotiationMs := 0
    maxKeyNegotiationMs := 0
    avgThroughputMbps := 0
    maxThroughputMbps := 0
    totalBytesTransferred := 0
    avgCpuUsage := 0
    avgMemoryUsageKb := 0 }

section Uncomputed
variable (doubles : Doubles)

theorem countLatency_uncomputed (cm : ConnectionMetrics)
    (acc : StatsTotals × PerformanceStats) :
    (countLatency doubles cm acc).2.uncomputed = acc.2.uncomputed := by
  simp only [countLatency]
  split <;> rfl

theorem countNegotiation_uncomputed (cm : ConnectionMetrics)
    (acc : StatsTotals × PerformanceStats) :
    (countNegotiation doubles cm acc).2.uncomputed = acc.2.uncomputed := by
  simp only [countNegotiation]
  split <;> rfl

theorem countThroughput_uncomputed (cm : ConnectionMetrics)
    (acc : StatsTotals × PerformanceStats) :
    (countThroughput doubles cm acc).2.uncomputed = acc.2.uncomputed := by
  simp only [countThroughput]
  split <;> rfl

theorem countRecord_uncomputed (cm : ConnectionMetrics)
    (acc : StatsTotals × PerformanceStats) :
    (countRecord doubles cm acc).2.uncomputed = acc.2.uncomputed := by
  calc (countRecord doubles cm acc).2.uncomputed
      = (countThroughput doubles cm
          (countNegotiation doubles cm (countLatency doubles cm acc))).2.uncomputed := rfl
    _ = (countNegotiation doubles cm (countLatency doubles cm acc)).2.uncomputed :=
      countThroughput_uncomputed doubles cm _
    _ = (countLatency doubles cm acc).2.uncomputed := countNegotiation_uncomputed doubles cm _
    _ = acc.2.uncomputed := countLatency_uncomputed doubles cm acc

theorem foldl_countRecord_uncomputed (records : Nat → ConnectionMetrics) (indices : List Nat)
    (acc : StatsTotals × PerformanceStats) :
    (indices.foldl (fun acc i => countRecord doubles (records i) acc) acc).2.uncomputed =
      acc.2.uncomputed := by
  induction indices generalizing acc with
  | nil => rfl
  | cons i rest ih =>
      rw [List.foldl_cons, ih]
      exact countRecord_uncomputed doubles (records i) acc

theorem averageStats_uncomputed (totals : StatsTotals) (system : SystemMetrics)
    (stats : PerformanceStats) :
    (averageStats doubles totals system stats).uncomputed = stats.uncomputed := by
  simp only [averageStats, PerformanceStats.uncomputed]
  split <;> split <;> split <;> rfl

theorem perfMetricsCalculateStats_uncomputed (ctx : PerfMetricsCtx) :
    (perfMetricsCalculateStats doubles ctx).stats.uncomputed = ctx.stats.uncomputed := by
  unfold perfMetricsCalculateStats
  rw [averageStats_uncomputed]
  exact foldl_countRecord_uncomputed doubles (fun i : Nat => ctx.connMetrics i)
    (List.range ctx.currentConnections.toNat) (⟨0, 0, 0, 0, 0, 0⟩, resetStats ctx.stats)

/-- `perf_metrics_calculate_stats` recomputes times and throughput and keeps the
counts of connections. -/
theorem perfMetricsCalculateStats_counts (ctx : PerfMetricsCtx) :
    (perfMetricsCalculateStats doubles ctx).stats.counts = ctx.stats.counts := by
  calc (perfMetricsCalculateStats doubles ctx).stats.counts
      = (perfMetricsCalculateStats doubles ctx).stats.uncomputed.counts := rfl
    _ = ctx.stats.uncomputed.counts :=
      congrArg PerformanceStats.counts (perfMetricsCalculateStats_uncomputed doubles ctx)
    _ = ctx.stats.counts := rfl

end Uncomputed

theorem mem_visitedIndices (current : Nat) (index : Int) :
    index ∈ visitedIndices current ↔ 0 ≤ index ∧ index < current := by
  simp only [visitedIndices, List.mem_reverse, List.mem_map, List.mem_range]
  constructor
  · rintro ⟨i, below, rfl⟩
    exact ⟨Int.natCast_nonneg i, Int.ofNat_lt.mpr below⟩
  · rintro ⟨nonneg, below⟩
    exact ⟨index.toNat, by omega, Int.toNat_of_nonneg nonneg⟩

/-! ## The invariant -/

theorem metricsRun_start_inv (maxConnections : UInt32) :
    (MetricsRun.start maxConnections).Inv maxConnections where
  current := rfl
  capacity := Nat.zero_le _
  balance := rfl
  inArray := fun _ member => nomatch member
  limit := rfl
  issuedBelow := fun _ =>
    ⟨(fun member => nomatch member), fun below => absurd below.2 (Int.not_lt.mpr below.1)⟩
  endedNodup := List.nodup_nil
  endedIssued := fun _ member => nomatch member
  closed := Nat.le_refl 0

theorem length_le_of_nodup_below (indices : List Int) (bound : Nat) (nodup : indices.Nodup)
    (below : ∀ index ∈ indices, 0 ≤ index ∧ index < bound) : indices.length ≤ bound := by
  have included : indices ⊆ (List.range bound).map Int.ofNat := by
    intro index member
    obtain ⟨nonneg, lt⟩ := below index member
    refine List.mem_map.mpr ⟨index.toNat, List.mem_range.mpr (by omega), ?_⟩
    exact Int.toNat_of_nonneg nonneg
  have shorter := nodup.length_le_of_subset included
  rwa [List.length_map, List.length_range] at shorter

section Calls
variable {maxConnections : UInt32} {run : MetricsRun}

theorem MetricsRun.Inv.active_pos (inv : run.Inv maxConnections) (index : Int)
    (issued : index ∈ run.issued) (once : index ∉ run.ended) :
    run.ended.length < run.ctx.currentConnections.toNat := by
  have below : ∀ i ∈ index :: run.ended, 0 ≤ i ∧ i < run.ctx.currentConnections.toNat := by
    intro i member
    apply (inv.issuedBelow i).mp
    rcases List.mem_cons.mp member with rfl | member
    · exact issued
    · exact inv.endedIssued i member
  exact length_le_of_nodup_below (index :: run.ended) _
    (List.nodup_cons.mpr ⟨once, inv.endedNodup⟩) below

theorem MetricsRun.Inv.current_le (inv : run.Inv maxConnections) :
    run.ctx.currentConnections.toNat ≤ maxConnections.toNat := by
  rw [inv.current]
  exact inv.capacity

theorem MetricsRun.Inv.write (inv : run.Inv maxConnections) (index : Int)
    (record : ConnectionMetrics) (inside : 0 ≤ index ∧ index < maxConnections.toNat) :
    ({ run with ctx := run.ctx.write index record } : MetricsRun).Inv maxConnections :=
  { inv with
    inArray := fun i member => by
      rcases List.mem_cons.mp member with rfl | member
      · exact inside
      · exact inv.inArray i member }

variable (fits : maxConnections.toNat < 2 ^ 31)
include fits

theorem MetricsRun.Inv.tracks_iff (inv : run.Inv maxConnections) (connIndex : Int) :
    run.ctx.Tracks connIndex ↔ run.ctx.monitoringEnabled ≠ 0 ∧ connIndex ∈ run.issued := by
  rw [inv.issuedBelow connIndex]
  exact Capture.tracks_iff run.ctx connIndex (Nat.lt_of_le_of_lt inv.current_le fits)

theorem MetricsRun.Inv.onRecord (inv : run.Inv maxConnections)
    (change : ConnectionMetrics → ConnectionMetrics) (connIndex : Int) :
    ({ run with ctx := Capture.onRecord change connIndex run.ctx } : MetricsRun).Inv
      maxConnections := by
  unfold Capture.onRecord
  split
  · rename_i tracked
    have issued := ((inv.tracks_iff fits connIndex).mp tracked).2
    have below := (inv.issuedBelow connIndex).mp issued
    have atMost := inv.current_le
    exact inv.write connIndex _ ⟨below.1, by omega⟩
  · exact inv

theorem MetricsRun.Inv.connectionStart (inv : run.Inv maxConnections) (connectionId : UInt64) :
    ({ run with
        ctx := (perfMetricsConnectionStart connectionId run.ctx).2
        issued :=
          noteIssued (perfMetricsConnectionStart connectionId run.ctx).1 run.issued } :
        MetricsRun).Inv maxConnections := by
  rcases perfMetricsConnectionStart_cases connectionId run.ctx with full | ⟨-, room, started⟩
  · rw [full]
    exact inv
  · rw [inv.limit] at room
    have index : intOfU32 run.ctx.currentConnections = run.ctx.currentConnections.toNat :=
      intOfU32_small _ (Nat.lt_trans room fits)
    have counted := inv.current
    have balanced := inv.balance
    have nextCurrent := u32_succ run.ctx.currentConnections (by omega)
    have nextTotal := u64_succ run.ctx.stats.totalConnections (by omega)
    have nextActive := u32_succ run.ctx.systemMetrics.activeConnections (by omega)
    have nextCounted : (run.ctx.currentConnections + 1).toNat =
        (run.ctx.stats.totalConnections + 1).toNat := by omega
    have nextCapacity : (run.ctx.stats.totalConnections + 1).toNat ≤ maxConnections.toNat := by
      omega
    have nextBalanced : (run.ctx.stats.totalConnections + 1).toNat =
        run.ctx.stats.successfulConnections.toNat + run.ctx.stats.failedConnections.toNat +
          (run.ctx.systemMetrics.activeConnections + 1).toNat := by omega
    rw [started, index]
    have noted : noteIssued (run.ctx.currentConnections.toNat : Int) run.issued =
        (run.ctx.currentConnections.toNat : Int) :: run.issued :=
      if_neg (Int.not_lt.mpr (Int.natCast_nonneg _))
    rw [noted]
    exact
      { current := nextCounted
        capacity := nextCapacity
        balance := nextBalanced
        inArray := fun i member => by
          rcases List.mem_cons.mp member with rfl | member
          · exact ⟨Int.natCast_nonneg _, Int.ofNat_lt.mpr room⟩
          · exact inv.inArray i member
        limit := inv.limit
        issuedBelow := fun i => by
          rw [List.mem_cons, inv.issuedBelow i]
          show _ ↔ 0 ≤ i ∧ i < ((run.ctx.currentConnections + 1).toNat : Int)
          omega
        endedNodup := inv.endedNodup
        endedIssued := fun i member => List.mem_cons_of_mem _ (inv.endedIssued i member)
        closed := inv.closed }

theorem MetricsRun.Inv.startsFresh (inv : run.Inv maxConnections) (connectionId : UInt64) :
    StartsFresh run connectionId := by
  unfold StartsFresh
  rcases perfMetricsConnectionStart_cases connectionId run.ctx with full | ⟨-, room, started⟩
  · rw [full]
    exact Or.inr ⟨rfl, rfl⟩
  · rw [inv.limit] at room
    rw [started, intOfU32_small _ (Nat.lt_trans room fits)]
    refine Or.inl ⟨Int.natCast_nonneg _, ?_⟩
    rw [inv.issuedBelow]
    omega

omit fits in
/-- One connection at least is active before an index is ended for the first time, so
that the counter of these goes down. -/
theorem MetricsRun.Inv.activeConnections_pos (inv : run.Inv maxConnections) (connIndex : Int)
    (issued : connIndex ∈ run.issued) (once : connIndex ∉ run.ended) :
    0 < run.ctx.systemMetrics.activeConnections.toNat := by
  have opened := inv.active_pos connIndex issued once
  have counted := inv.current
  have balanced := inv.balance
  have closed := inv.closed
  omega

omit fits in
theorem MetricsRun.Inv.noteEnded (inv : run.Inv maxConnections) (connIndex : Int)
    (issued : connIndex ∈ run.issued) (once : connIndex ∉ run.ended) :
    ({ run with ended := connIndex :: run.ended } : MetricsRun).Inv maxConnections :=
  { inv with
    endedNodup := List.nodup_cons.mpr ⟨once, inv.endedNodup⟩
    endedIssued := fun i member => by
      rcases List.mem_cons.mp member with rfl | member
      · exact issued
      · exact inv.endedIssued i member
    closed := Nat.le_succ_of_le inv.closed }

omit fits in
theorem MetricsRun.Inv.closeActive (inv : run.Inv maxConnections) (connIndex : Int)
    (issued : connIndex ∈ run.issued) (once : connIndex ∉ run.ended) (stats : PerformanceStats)
    (total : stats.totalConnections = run.ctx.stats.totalConnections)
    (oneMore : stats.successfulConnections.toNat + stats.failedConnections.toNat =
      run.ctx.stats.successfulConnections.toNat + run.ctx.stats.failedConnections.toNat + 1) :
    ({ run with
        ctx :=
          { run.ctx with
            stats := stats
            systemMetrics :=
              { run.ctx.systemMetrics with
                activeConnections := run.ctx.systemMetrics.activeConnections - 1 } }
        ended := connIndex :: run.ended } : MetricsRun).Inv maxConnections := by
  have active := inv.activeConnections_pos connIndex issued once
  have lessActive : (run.ctx.systemMetrics.activeConnections - 1).toNat =
      run.ctx.systemMetrics.activeConnections.toNat - 1 :=
    UInt32.toNat_sub_of_le _ _ (UInt32.le_iff_toNat_le.mpr active)
  have sameTotal := congrArg UInt64.toNat total
  have counted := inv.current
  have balanced := inv.balance
  have closed := inv.closed
  have capacity := inv.capacity
  have nextCounted : run.ctx.currentConnections.toNat = stats.totalConnections.toNat := by
    omega
  have nextCapacity : stats.totalConnections.toNat ≤ maxConnections.toNat := by omega
  have nextBalanced : stats.totalConnections.toNat =
      stats.successfulConnections.toNat + stats.failedConnections.toNat +
        (run.ctx.systemMetrics.activeConnections - 1).toNat := by omega
  have nextClosed : stats.successfulConnections.toNat + stats.failedConnections.toNat ≤
      run.ended.length + 1 := by omega
  exact
    { inv.noteEnded connIndex issued once with
      current := nextCounted
      capacity := nextCapacity
      balance := nextBalanced
      closed := nextClosed }

theorem MetricsRun.Inv.connectionEnd (inv : run.Inv maxConnections) (connIndex success : Int)
    (once : connIndex ∈ run.issued → connIndex ∉ run.ended) :
    ({ run with
        ctx := perfMetricsConnectionEnd connIndex success run.ctx
        ended := run.noteEnded connIndex } : MetricsRun).Inv maxConnections := by
  by_cases issued : connIndex ∈ run.issued
  case neg =>
    have untracked : ¬ run.ctx.Tracks connIndex := by
      rw [inv.tracks_iff fits]
      exact fun tracked => issued tracked.2
    rw [perfMetricsConnectionEnd_untracked connIndex success run.ctx untracked,
      MetricsRun.noteEnded, if_neg issued]
    exact inv
  case pos =>
    rw [MetricsRun.noteEnded, if_pos issued]
    by_cases tracked : run.ctx.Tracks connIndex
    case neg =>
      rw [perfMetricsConnectionEnd_untracked connIndex success run.ctx tracked]
      exact inv.noteEnded connIndex issued (once issued)
    case pos =>
      have active := inv.activeConnections_pos connIndex issued (once issued)
      have balanced := inv.balance
      have capacity := inv.capacity
      rcases eq_or_ne success 0 with rfl | succeeded
      · rw [perfMetricsConnectionEnd_failure connIndex run.ctx tracked active]
        have oneMore := u64_succ run.ctx.stats.failedConnections (by omega)
        refine inv.closeActive connIndex issued (once issued)
          { run.ctx.stats with failedConnections := run.ctx.stats.failedConnections + 1 } rfl ?_
        show run.ctx.stats.successfulConnections.toNat +
          (run.ctx.stats.failedConnections + 1).toNat = _
        omega
      · rw [perfMetricsConnectionEnd_success connIndex success run.ctx tracked active succeeded]
        have oneMore := u64_succ run.ctx.stats.successfulConnections (by omega)
        refine inv.closeActive connIndex issued (once issued)
          { run.ctx.stats with successfulConnections := run.ctx.stats.successfulConnections + 1 } rfl ?_
        show (run.ctx.stats.successfulConnections + 1).toNat +
          run.ctx.stats.failedConnections.toNat = _
        omega

omit fits in
theorem MetricsRun.Inv.calculateStats (inv : run.Inv maxConnections) :
    ({ run with ctx := perfMetricsCalculateStats .exact run.ctx } : MetricsRun).Inv maxConnections := by
  have counts := perfMetricsCalculateStats_counts .exact run.ctx
  simp only [PerformanceStats.counts, Prod.mk.injEq] at counts
  obtain ⟨total, successful, failed⟩ := counts
  have atMost := inv.current_le
  exact
    { current := inv.current.trans (congrArg UInt64.toNat total.symm)
      capacity := by
        show (perfMetricsCalculateStats .exact run.ctx).stats.totalConnections.toNat ≤ _
        rw [total]
        exact inv.capacity
      balance := by
        show (perfMetricsCalculateStats .exact run.ctx).stats.totalConnections.toNat =
          (perfMetricsCalculateStats .exact run.ctx).stats.successfulConnections.toNat +
            (perfMetricsCalculateStats .exact run.ctx).stats.failedConnections.toNat + _
        rw [total, successful, failed]
        exact inv.balance
      inArray := fun index member => by
        rcases List.mem_append.mp member with visited | member
        · have below := (mem_visitedIndices _ index).mp visited
          exact ⟨below.1, by omega⟩
        · exact inv.inArray index member
      limit := inv.limit
      issuedBelow := inv.issuedBelow
      endedNodup := inv.endedNodup
      endedIssued := inv.endedIssued
      closed := by
        show (perfMetricsCalculateStats .exact run.ctx).stats.successfulConnections.toNat +
          (perfMetricsCalculateStats .exact run.ctx).stats.failedConnections.toNat ≤ _
        rw [successful, failed]
        exact inv.closed }

theorem MetricsRun.Inv.step (inv : run.Inv maxConnections) (call : MetricsCall)
    (next : MetricsRun) (once : EndsOnce run call) (taken : run.step call = some next) :
    next.Inv maxConnections := by
  cases Option.some.inj taken
  cases call with
  | connectionStart connectionId => exact inv.connectionStart fits connectionId
  | latencyStart connIndex now =>
      rw [MetricsCall.perform, perfMetricsConnectionLatencyStart]
      exact inv.onRecord fits _ connIndex
  | latencyEnd connIndex now =>
      rw [MetricsCall.perform, perfMetricsConnectionLatencyEnd]
      exact inv.onRecord fits _ connIndex
  | keyNegotiationStart connIndex now =>
      rw [MetricsCall.perform, perfMetricsKeyNegotiationStart]
      exact inv.onRecord fits _ connIndex
  | keyNegotiationEnd connIndex now =>
      rw [MetricsCall.perform, perfMetricsKeyNegotiationEnd]
      exact inv.onRecord fits _ connIndex
  | recordDataTransfer connIndex bytesSent bytesReceived first last =>
      rw [MetricsCall.perform, perfMetricsRecordDataTransfer]
      exact inv.onRecord fits _ connIndex
  | connectionEnd connIndex success => exact inv.connectionEnd fits connIndex success once
  | setEnabled enabled => exact { inv with }
  | calculateStats => exact inv.calculateStats

end Calls

/-- Every call of a run that ends no connection twice leaves the counters in balance,
the accesses inside the array, and every other connection's record as it was. -/
theorem metricsCalls_sound (maxConnections : UInt32) (fits : maxConnections.toNat < 2 ^ 31)
    (calls : List MetricsCall)
    (once : ∀ t ∈ transitions MetricsRun.step (MetricsRun.start maxConnections) calls,
      EndsOnce t.before t.event) :
    Balanced maxConnections (perfMetricsInit maxConnections) ∧
      ∀ t ∈ transitions MetricsRun.step (MetricsRun.start maxConnections) calls,
        CallSound maxConnections t.before t.event t.after := by
  have kept : ∀ t ∈ transitions MetricsRun.step (MetricsRun.start maxConnections) calls,
      t.before.Inv maxConnections ∧ t.after.Inv maxConnections :=
    transitions_inv MetricsRun.step (MetricsRun.Inv maxConnections) EndsOnce
      (fun run call next inv once taken => inv.step fits call next once taken)
      (MetricsRun.start maxConnections) (metricsRun_start_inv maxConnections) calls once
  refine ⟨(metricsRun_start_inv maxConnections).toBalanced, ?_⟩
  intro t member
  have taken := transitions_taken MetricsRun.step _ calls t member
  obtain ⟨before, after⟩ := kept t member
  exact
    { balanced := after.toBalanced
      fresh := fun connectionId _ => before.startsFresh fits connectionId
      frame := fun index other => by
        rw [← Option.some.inj taken]
        exact perform_frame t.before.ctx t.event index other }

/-- Two connections that overlap, monitoring off in between, and a call on an index
that was never returned. -/
def overlappingCalls : List MetricsCall :=
  [.connectionStart 10000, .connectionStart 10001, .connectionEnd 0 1, .setEnabled 0,
    .connectionEnd 5 1, .setEnabled 1, .connectionEnd 1 0, .calculateStats]

theorem overlappingCalls_sound :
    Balanced 2 (perfMetricsInit 2) ∧
      ∀ t ∈ transitions MetricsRun.step (MetricsRun.start 2) overlappingCalls,
        CallSound 2 t.before t.event t.after :=
  metricsCalls_sound 2 (by decide) overlappingCalls (by decide)

end TlshubEbpf.Capture
