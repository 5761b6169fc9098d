import Mathlib.Tactic.Linarith
import TlshubEbpf.Capture.MetricsInvariant
import TlshubEbpf.Lib.Statistics

/-! # CPU and memory (`perf_metrics_update_system`)

The first line of `/proc/stat` and the two sizes of `/proc/self/status` are inputs,
`none` where they cannot be read.  Beside the context a run records each CPU usage
and each resident set size that was computed, the latest last. -/

set_option autoImplicit false

namespace TlshubEbpf.Capture

open Lib

def calculateCpuUsage (prev curr : CpuStat) : ℚ :=
  let prevTotal := prev.user + prev.nice + prev.system + prev.idle + prev.iowait + prev.irq +
    prev.softirq
  let currTotal := curr.user + curr.nice + curr.system + curr.idle + curr.iowait + curr.irq +
    curr.softirq
  let prevIdle := prev.idle + prev.iowait
  let currIdle := curr.idle + curr.iowait
  let totalDiff := currTotal - prevTotal
  let idleDiff := currIdle - prevIdle
  if totalDiff = 0 then 0
  else ((totalDiff - idleDiff).toNat : ℚ) * 100 / totalDiff.toNat

structure MemoryUsage where
  rssKb : UInt64
  vmsKb : UInt64

/-- `cpu` and `memory` are what `read_cpu_stat` and `read_memory_usage` read. -/
def perfMetricsUpdateSystem (cpu : Option CpuStat) (memory : Option MemoryUsage)
    (now : Timespec) (ctx : PerfMetricsCtx) : Int × PerfMetricsCtx :=
  if ctx.monitoringEnabled = 0 then
    (-1, ctx)
  else
    match cpu with
    | none => (-1, ctx)
    | some curr =>
        let ctx :=
          if ctx.cpuFirstCall = 0 then
            let usage := calculateCpuUsage ctx.prevCpuStat curr
            { ctx with
              systemMetrics := { ctx.systemMetrics with cpuUsagePercent := usage }
              stats :=
                { ctx.stats with
                  peakCpuUsage :=
                    if usage > ctx.stats.peakCpuUsage then usage
                    else ctx.stats.peakCpuUsage } }
          else
            { ctx with
              cpuFirstCall := 0
              systemMetrics := { ctx.systemMetrics with cpuUsagePercent := 0 } }
        let ctx := { ctx with prevCpuStat := curr }
        match memory with
        | none => (-1, ctx)
        | some usage =>
            (0,
              { ctx with
                systemMetrics :=
                  { ctx.systemMetrics with
                    memoryRssKb := usage.rssKb
                    memoryVmsKb := usage.vmsKb
                    memoryUsageKb := usage.rssKb
                    measurementTime := now }
                stats :=
                  { ctx.stats with
                    peakMemoryUsageKb :=
                      if usage.rssKb > ctx.stats.peakMemoryUsageKb then usage.rssKb
                      else ctx.stats.peakMemoryUsageKb } })

inductive SystemCall where
  | updateSystem (cpu : Option CpuStat) (memory : Option MemoryUsage) (now : Timespec)
  | metrics (call : MetricsCall)

structure SystemRun where
  ctx : PerfMetricsCtx
  usages : List ℚ
  rssSizes : List ℕ

def SystemRun.start (maxConnections : UInt32) : SystemRun :=
  ⟨perfMetricsInit maxConnections, [], []⟩

/-- The usage that an update computes: none on the first one. -/
def usageComputed (ctx : PerfMetricsCtx) (cpu : Option CpuStat) : List ℚ :=
  if ctx.monitoringEnabled ≠ 0 ∧ ctx.cpuFirstCall = 0 then
    (cpu.map (calculateCpuUsage ctx.prevCpuStat)).toList
  else
    []

def rssComputed (ctx : PerfMetricsCtx) (cpu : Option CpuStat) (memory : Option MemoryUsage) :
    List ℕ :=
  if ctx.monitoringEnabled ≠ 0 ∧ cpu ≠ none then
    (memory.map fun usage => usage.rssKb.toNat).toList
  else
    []

def SystemRun.step (run : SystemRun) : SystemCall → Option SystemRun
  | .updateSystem cpu memory now =>
      some
        { ctx := (perfMetricsUpdateSystem cpu memory now run.ctx).2
          usages := run.usages ++ usageComputed run.ctx cpu
          rssSizes := run.rssSizes ++ rssComputed run.ctx cpu memory }
  | .metrics call => some { run with ctx := call.perform run.ctx }

/-- A percentage, and the peaks as the greatest values so far. -/
structure UsageSound (run : SystemRun) : Prop where
  nonneg : 0 ≤ run.ctx.systemMetrics.cpuUsagePercent
  percent : run.ctx.systemMetrics.cpuUsagePercent ≤ 100
  peakCpu : run.ctx.stats.peakCpuUsage = greatest run.usages
  peakMemory : run.ctx.stats.peakMemoryUsageKb.toNat = greatest run.rssSizes

/-! ## The usage between two readings -/

def CpuStat.busyTime (stat : CpuStat) : ℤ :=
  stat.user.toNat + stat.nice.toNat + stat.system.toNat + stat.irq.toNat + stat.softirq.toNat

def CpuStat.idleTime (stat : CpuStat) : ℤ :=
  stat.idle.toNat + stat.iowait.toNat

/-- The two times have passed together, on a counter of 64 bits. -/
def UsageFits (prev curr : CpuStat) : Prop :=
  (curr.busyTime - prev.busyTime) % 2 ^ 64 + (curr.idleTime - prev.idleTime) % 2 ^ 64 ≤ 2 ^ 64

instance (prev curr : CpuStat) : Decidable (UsageFits prev curr) :=
  inferInstanceAs (Decidable (_ ≤ _))

def CpuStat.busyWord (stat : CpuStat) : UInt64 :=
  stat.user + stat.nice + stat.system + stat.irq + stat.softirq

def CpuStat.idleWord (stat : CpuStat) : UInt64 :=
  stat.idle + stat.iowait

theorem busyWord_sub_toNat (prev curr : CpuStat) :
    ((curr.busyWord - prev.busyWord).toNat : ℤ) = (curr.busyTime - prev.busyTime) % 2 ^ 64 := by
  rw [u64_sub_toNat]
  simp only [CpuStat.busyWord, CpuStat.busyTime, UInt64.toNat_add]
  omega

theorem idleWord_sub_toNat (prev curr : CpuStat) :
    ((curr.idleWord - prev.idleWord).toNat : ℤ) = (curr.idleTime - prev.idleTime) % 2 ^ 64 := by
  rw [u64_sub_toNat]
  simp only [CpuStat.idleWord, CpuStat.idleTime, UInt64.toNat_add]
  omega

def share (busy idle : UInt64) : ℚ :=
  if busy + idle = 0 then 0 else (busy.toNat : ℚ) * 100 / (busy + idle).toNat

theorem calculateCpuUsage_eq_share (prev curr : CpuStat) :
    calculateCpuUsage prev curr =
      share (curr.busyWord - prev.busyWord) (curr.idleWord - prev.idleWord) := by
  have total : curr.user + curr.nice + curr.system + curr.idle + curr.iowait + curr.irq +
      curr.softirq - (prev.user + prev.nice + prev.system + prev.idle + prev.iowait + prev.irq +
      prev.softirq) = (curr.busyWord - prev.busyWord) + (curr.idleWord - prev.idleWord) := by
    unfold CpuStat.busyWord CpuStat.idleWord
    grind
  have busy : (curr.busyWord - prev.busyWord) + (curr.idleWord - prev.idleWord) -
      (curr.idle + curr.iowait - (prev.idle + prev.iowait)) =
        curr.busyWord - prev.busyWord := by
    unfold CpuStat.idleWord
    grind
  rw [calculateCpuUsage, share]
  simp only [total, busy]

theorem share_nonneg (busy idle : UInt64) : 0 ≤ share busy idle := by
  unfold share
  split
  · exact le_rfl
  · positivity

theorem share_le_iff (busy idle : UInt64) :
    share busy idle ≤ 100 ↔ busy.toNat + idle.toNat ≤ 2 ^ 64 := by
  have busyBound := busy.toNat_lt
  have idleBound := idle.toNat_lt
  have total : (busy + idle).toNat = (busy.toNat + idle.toNat) % 2 ^ 64 := UInt64.toNat_add _ _
  unfold share
  by_cases none : busy + idle = 0
  · rw [none] at total
    rw [if_pos none]
    have zero : (0 : UInt64).toNat = 0 := rfl
    constructor
    · intro _
      omega
    · intro _
      norm_num
  · have some : (busy + idle).toNat ≠ 0 := fun zero => none (UInt64.toNat_inj.mp zero)
    have positive : (0 : ℚ) < (busy + idle).toNat := Nat.cast_pos.mpr (Nat.pos_of_ne_zero some)
    rw [if_neg none, div_le_iff₀ positive, mul_comm, mul_le_mul_iff_right₀ (by norm_num),
      Nat.cast_le]
    omega

theorem calculateCpuUsage_nonneg (prev curr : CpuStat) : 0 ≤ calculateCpuUsage prev curr := by
  rw [calculateCpuUsage_eq_share]
  exact share_nonneg _ _

theorem calculateCpuUsage_le_iff (prev curr : CpuStat) :
    calculateCpuUsage prev curr ≤ 100 ↔ UsageFits prev curr := by
  rw [calculateCpuUsage_eq_share, share_le_iff, UsageFits, ← busyWord_sub_toNat,
    ← idleWord_sub_toNat]
  omega

structure UsageView where
  cpuUsagePercent : ℚ
  peakCpuUsage : ℚ
  peakMemoryUsageKb : UInt64

def PerfMetricsCtx.usage (ctx : PerfMetricsCtx) : UsageView :=
  ⟨ctx.systemMetrics.cpuUsagePercent, ctx.stats.peakCpuUsage, ctx.stats.peakMemoryUsageKb⟩

theorem perfMetricsCalculateStats_usage (doubles : Doubles) (ctx : PerfMetricsCtx) :
    (perfMetricsCalculateStats doubles ctx).usage = ctx.usage := by
  have kept := perfMetricsCalculateStats_uncomputed doubles ctx
  have peakCpu := congrArg PerformanceStats.peakCpuUsage kept
  have peakMemory := congrArg PerformanceStats.peakMemoryUsageKb kept
  dsimp only [PerformanceStats.uncomputed] at peakCpu peakMemory
  rw [PerfMetricsCtx.usage, peakCpu, peakMemory]
  rfl

theorem perform_usage (call : MetricsCall) (ctx : PerfMetricsCtx) :
    (call.perform ctx).usage = ctx.usage := by
  by_cases calculates : call = .calculateStats
  · rw [calculates]
    exact perfMetricsCalculateStats_usage .exact ctx
  · rw [perform_withBooks call calculates ctx]
    rfl

def raiseRss (memory : Option MemoryUsage) (peak : UInt64) : UInt64 :=
  match memory with
  | none => peak
  | some usage => if usage.rssKb > peak then usage.rssKb else peak

theorem raiseRss_toNat (memory : Option MemoryUsage) (peak : UInt64) (rssSizes : List ℕ)
    (soFar : peak.toNat = greatest rssSizes) :
    (raiseRss memory peak).toNat =
      greatest (rssSizes ++ (memory.map fun usage => usage.rssKb.toNat).toList) := by
  cases memory with
  | none => simpa [raiseRss] using soFar
  | some usage =>
      show (if usage.rssKb > peak then usage.rssKb else peak).toNat =
        greatest (rssSizes ++ [usage.rssKb.toNat])
      rw [greatest_concat _ _ (Nat.zero_le _), ← soFar]
      simp only [gt_iff_lt, UInt64.lt_iff_toNat_lt]
      split <;> rfl

theorem perfMetricsUpdateSystem_unread (cpu : Option CpuStat) (memory : Option MemoryUsage)
    (now : Timespec) (ctx : PerfMetricsCtx) (unread : ctx.monitoringEnabled = 0 ∨ cpu = none) :
    (perfMetricsUpdateSystem cpu memory now ctx).2 = ctx := by
  unfold perfMetricsUpdateSystem
  rcases unread with disabled | rfl
  · rw [if_pos disabled]
  · split <;> rfl

section Read
variable (curr : CpuStat) (memory : Option MemoryUsage) (now : Timespec) (ctx : PerfMetricsCtx)
  (enabled : ctx.monitoringEnabled ≠ 0)
include enabled

theorem perfMetricsUpdateSystem_first (first : ctx.cpuFirstCall ≠ 0) :
    (perfMetricsUpdateSystem (some curr) memory now ctx).2.usage =
      { ctx.usage with
        cpuUsagePercent := 0
        peakMemoryUsageKb := raiseRss memory ctx.stats.peakMemoryUsageKb } := by
  rw [perfMetricsUpdateSystem, if_neg enabled]
  simp only [if_neg first]
  cases memory <;> rfl

theorem perfMetricsUpdateSystem_later (later : ctx.cpuFirstCall = 0) :
    (perfMetricsUpdateSystem (some curr) memory now ctx).2.usage =
      { cpuUsagePercent := calculateCpuUsage ctx.prevCpuStat curr
        peakCpuUsage :=
          if calculateCpuUsage ctx.prevCpuStat curr > ctx.stats.peakCpuUsage then
            calculateCpuUsage ctx.prevCpuStat curr
          else ctx.stats.peakCpuUsage
        peakMemoryUsageKb := raiseRss memory ctx.stats.peakMemoryUsageKb } := by
  rw [perfMetricsUpdateSystem, if_neg enabled]
  simp only [if_pos later]
  cases memory <;> rfl

end Read

/-- What an update must read for the usage to be a percentage. -/
def ReadingFits (run : SystemRun) : SystemCall → Prop
  | .updateSystem cpu _ _ =>
      run.ctx.monitoringEnabled ≠ 0 → run.ctx.cpuFirstCall = 0 →
        ∀ curr, cpu = some curr → UsageFits run.ctx.prevCpuStat curr
  | .metrics _ => True

theorem UsageSound.keep (run : SystemRun) (sound : UsageSound run) (ctx : PerfMetricsCtx)
    (kept : ctx.usage = run.ctx.usage) : UsageSound { run with ctx := ctx } where
  nonneg := sound.nonneg.trans (congrArg UsageView.cpuUsagePercent kept).ge
  percent := (congrArg UsageView.cpuUsagePercent kept).le.trans sound.percent
  peakCpu := (congrArg UsageView.peakCpuUsage kept).trans sound.peakCpu
  peakMemory := (congrArg (fun view => view.peakMemoryUsageKb.toNat) kept).trans sound.peakMemory

section Step
variable (run : SystemRun) (sound : UsageSound run) (curr : CpuStat)
  (memory : Option MemoryUsage) (now : Timespec) (enabled : run.ctx.monitoringEnabled ≠ 0)
include sound enabled

theorem usageSound_first (first : run.ctx.cpuFirstCall ≠ 0) :
    UsageSound
      { ctx := (perfMetricsUpdateSystem (some curr) memory now run.ctx).2
        usages := run.usages ++ usageComputed run.ctx (some curr)
        rssSizes := run.rssSizes ++ rssComputed run.ctx (some curr) memory } := by
  have updated := perfMetricsUpdateSystem_first curr memory now run.ctx enabled first
  have usages : usageComputed run.ctx (some curr) = [] := if_neg fun later => first later.2
  have rssSizes : rssComputed run.ctx (some curr) memory =
      (memory.map fun usage => usage.rssKb.toNat).toList :=
    if_pos ⟨enabled, Option.some_ne_none curr⟩
  have cpu := congrArg UsageView.cpuUsagePercent updated
  have peakCpu := congrArg UsageView.peakCpuUsage updated
  have peakMemory := congrArg (fun view => view.peakMemoryUsageKb.toNat) updated
  dsimp only [PerfMetricsCtx.usage] at cpu peakCpu peakMemory
  rw [usages, List.append_nil, rssSizes]
  exact
    { nonneg := cpu.ge
      percent := cpu.le.trans (by norm_num)
      peakCpu := peakCpu.trans sound.peakCpu
      peakMemory := peakMemory.trans (raiseRss_toNat memory _ _ sound.peakMemory) }

theorem usageSound_later_iff (later : run.ctx.cpuFirstCall = 0) :
    UsageSound
        { ctx := (perfMetricsUpdateSystem (some curr) memory now run.ctx).2
          usages := run.usages ++ usageComputed run.ctx (some curr)
          rssSizes := run.rssSizes ++ rssComputed run.ctx (some curr) memory } ↔
      UsageFits run.ctx.prevCpuStat curr := by
  have updated := perfMetricsUpdateSystem_later curr memory now run.ctx enabled later
  have usages : usageComputed run.ctx (some curr) =
      [calculateCpuUsage run.ctx.prevCpuStat curr] := if_pos ⟨enabled, later⟩
  have rssSizes : rssComputed run.ctx (some curr) memory =
      (memory.map fun usage => usage.rssKb.toNat).toList :=
    if_pos ⟨enabled, Option.some_ne_none curr⟩
  have cpu := congrArg UsageView.cpuUsagePercent updated
  have peakCpu := congrArg UsageView.peakCpuUsage updated
  have peakMemory := congrArg (fun view => view.peakMemoryUsageKb.toNat) updated
  dsimp only [PerfMetricsCtx.usage] at cpu peakCpu peakMemory
  rw [usages, rssSizes, ← calculateCpuUsage_le_iff]
  constructor
  · intro next
    exact cpu.ge.trans next.percent
  · intro percent
    have nonneg := calculateCpuUsage_nonneg run.ctx.prevCpuStat curr
    exact
      { nonneg := nonneg.trans cpu.ge
        percent := cpu.le.trans percent
        peakCpu := by
          rw [greatest_concat _ _ nonneg, ← sound.peakCpu]
          exact peakCpu
        peakMemory := peakMemory.trans (raiseRss_toNat memory _ _ sound.peakMemory) }

end Step

theorem step_usageSound_iff (run next : SystemRun) (call : SystemCall) (sound : UsageSound run)
    (taken : run.step call = some next) : UsageSound next ↔ ReadingFits run call := by
  cases call with
  | metrics call =>
      cases Option.some.inj taken
      have kept := sound.keep run (call.perform run.ctx) (perform_usage call run.ctx)
      exact ⟨fun _ => trivial, fun _ => kept⟩
  | updateSystem cpu memory now =>
      cases Option.some.inj taken
      by_cases unread : run.ctx.monitoringEnabled = 0 ∨ cpu = none
      case pos =>
        have usages : usageComputed run.ctx cpu = [] := by
          rcases unread with disabled | rfl
          · exact if_neg fun measured => measured.1 disabled
          · exact ite_self _
        have rssSizes : rssComputed run.ctx cpu memory = [] :=
          if_neg fun measured => unread.elim measured.1 measured.2
        rw [perfMetricsUpdateSystem_unread cpu memory now run.ctx unread, usages, rssSizes,
          List.append_nil, List.append_nil]
        constructor
        · intro _ enabled _ curr isRead
          rcases unread with disabled | rfl
          · exact absurd disabled enabled
          · cases isRead
        · intro _
          exact sound
      case neg =>
        obtain ⟨enabled, isRead⟩ := not_or.mp unread
        obtain ⟨curr, rfl⟩ := Option.ne_none_iff_exists'.mp isRead
        by_cases later : run.ctx.cpuFirstCall = 0
        · rw [usageSound_later_iff run sound curr memory now enabled later]
          constructor
          · intro fits _ _ other same
            cases same
            exact fits
          · intro fits
            exact fits enabled later curr rfl
        · have next := usageSound_first run sound curr memory now enabled later
          exact ⟨fun _ _ first => absurd first later, fun _ => next⟩

theorem usageSound_start (maxConnections : UInt32) : UsageSound (SystemRun.start maxConnections) where
  nonneg := le_rfl
  percent := by norm_num [SystemRun.start, perfMetricsInit]
  peakCpu := rfl
  peakMemory := rfl

/-- CPU usage is a percentage, and the peaks are right, throughout a run if and only if
the times between any two readings fit together. -/
theorem systemCalls_sound_iff (maxConnections : UInt32) (calls : List SystemCall) :
    (∀ t ∈ transitions SystemRun.step (SystemRun.start maxConnections) calls,
        UsageSound t.after) ↔
      ∀ t ∈ transitions SystemRun.step (SystemRun.start maxConnections) calls,
        ReadingFits t.before t.event :=
  transitions_good_iff SystemRun.step UsageSound ReadingFits (fun _ _ next => UsageSound next)
    (fun run call next sound taken => step_usageSound_iff run next call sound taken)
    (fun run call next sound fits taken =>
      (step_usageSound_iff run next call sound taken).mpr fits)
    (SystemRun.start maxConnections) (usageSound_start maxConnections) calls

def CpuStat.GrowsTo (prev curr : CpuStat) : Prop :=
  prev.user ≤ curr.user ∧ prev.nice ≤ curr.nice ∧ prev.system ≤ curr.system ∧
    prev.irq ≤ curr.irq ∧ prev.softirq ≤ curr.softirq

def iowaitBefore : CpuStat := ⟨100, 0, 0, 1000, 50, 0, 0⟩

/-- Ten ticks busy, and five ticks of waiting taken back. -/
def iowaitAfter : CpuStat := ⟨110, 0, 0, 1000, 45, 0, 0⟩

def iowaitFalls : List SystemCall :=
  [.updateSystem (some iowaitBefore) none zeroTime, .updateSystem (some iowaitAfter) none zeroTime]

theorem iowaitFalls_unsound :
    iowaitBefore.GrowsTo iowaitAfter ∧
      ¬ ∀ t ∈ transitions SystemRun.step (SystemRun.start 1) iowaitFalls, UsageSound t.after := by
  refine ⟨by unfold CpuStat.GrowsTo; decide, fun sound => ?_⟩
  have last := sound _ (List.mem_cons_of_mem _ (List.mem_singleton_self _))
  have percent : calculateCpuUsage iowaitBefore iowaitAfter ≤ 100 := last.percent
  rw [calculateCpuUsage_le_iff] at percent
  exact absurd percent (by decide)

end TlshubEbpf.Capture
