import TlshubEbpf.Capture.AnalyzePerf
import TlshubEbpf.Capture.Durations
import TlshubEbpf.Capture.ExportRoundTrip
import TlshubEbpf.Lib.Binary64
import TlshubEbpf.Lib.Ranking

/-! # The best mode

A file without a measurement exports an average all the same: the one of an earlier
calculation, and 0 if there was none.  Its entry stands in the ranking beside the
entries of the files that have measurements.  The averages are those of the arithmetic
that the exporter uses, whatever that is. -/

set_option autoImplicit false

namespace TlshubEbpf.Capture

open Lib Json

def PerfMetricsCtx.samples (ctx : PerfMetricsCtx) (doubles : Doubles) (kind : Measurement) :
    List ℚ :=
  ctx.records.filterMap fun cm => durationSample doubles (cm.timepoint kind)

def PerfMetricsCtx.average (ctx : PerfMetricsCtx) : Measurement → ℚ
  | .connectionLatency => ctx.stats.avgConnectionLatencyMs
  | .keyNegotiation => ctx.stats.avgKeyNegotiationMs

def Measurement.averageKey : Measurement → String
  | .connectionLatency => "avg_connection_latency_ms"
  | .keyNegotiation => "avg_key_negotiation_ms"

def Comparison.best (comparison : Comparison) : Measurement → RankingEntry
  | .connectionLatency => comparison.bestLatency
  | .keyNegotiation => comparison.bestNegotiation

structure MetricsExport where
  doubles : Doubles
  time : ℤ
  ctx : PerfMetricsCtx

namespace MetricsExport

def file (exported : MetricsExport) : Option (List Char) :=
  (perfMetricsExportJson exported.doubles true exported.time exported.ctx).file

def stats (exported : MetricsExport) : PerformanceStats :=
  (perfMetricsCalculateStats exported.doubles exported.ctx).stats

def average (exported : MetricsExport) (kind : Measurement) : ℚ :=
  roundTo 3 ((perfMetricsCalculateStats exported.doubles exported.ctx).average kind)

def HasMeasured (exported : MetricsExport) (kind : Measurement) : Prop :=
  ∃ cm ∈ exported.ctx.records, (cm.timepoint kind).durationNs > 0

instance (exported : MetricsExport) (kind : Measurement) :
    Decidable (exported.HasMeasured kind) :=
  inferInstanceAs (Decidable (∃ cm ∈ exported.ctx.records, _))

/-- What the additions and the division of the exporter make of the measurements. -/
def measuredAverage (exported : MetricsExport) (kind : Measurement) : ℚ :=
  exported.doubles.average (exported.ctx.samples exported.doubles kind)

end MetricsExport

/-- The best mode is that of a file with a measurement, and its average is the least
of those files. -/
def CrownsMeasured (kind : Measurement) (exports : List MetricsExport) (modeNames : List String)
    (comparison : Comparison) : Prop :=
  ∃ (i : ℕ) (exported : MetricsExport), exports[i]? = some exported ∧
    exported.HasMeasured kind ∧
    comparison.best kind = toLex ((exported.average kind : WithTop ℚ), modeName modeNames i) ∧
    ∀ other ∈ exports, other.HasMeasured kind → exported.average kind ≤ other.average kind

/-- Each file without a measurement comes after one that has some, by average and by
name.  Its own average is the one that the context had before the export. -/
def UnmeasuredBehind (kind : Measurement) (exports : List MetricsExport)
    (modeNames : List String) : Prop :=
  ∀ (j : ℕ) (unmeasured : MetricsExport), exports[j]? = some unmeasured →
    ¬ unmeasured.HasMeasured kind →
    ∃ (i : ℕ) (measured : MetricsExport), exports[i]? = some measured ∧
      measured.HasMeasured kind ∧
      toLex (roundTo 3 (measured.measuredAverage kind), modeName modeNames i) ≤
        toLex (roundTo 3 (unmeasured.ctx.average kind), modeName modeNames j)

def MetricsExport.document (exported : MetricsExport) : Json :=
  exportedJson exported.doubles exported.time
    (perfMetricsCalculateStats exported.doubles exported.ctx)

theorem loadJsonFile_export (exported : MetricsExport) :
    loadJsonFile exported.file = some exported.document :=
  parse_exportJson exported.doubles exported.time exported.ctx

theorem loadModes_exports (exports : List MetricsExport) (modeNames : List String) :
    loadModes (exports.map MetricsExport.file) modeNames =
      exports.zipIdx.map fun (exported, i) => (exported.document, modeName modeNames i) := by
  have valid : ∀ exported : MetricsExport, truthy exported.document = true := fun _ => rfl
  rw [loadModes, List.zipIdx_map, List.filterMap_map, ← List.filterMap_eq_map]
  refine List.filterMap_congr fun (exported, i) _ => ?_
  show (loadJsonFile exported.file).bind _ = _
  rw [loadJsonFile_export, Option.bind_some, if_pos (valid exported)]
  rfl

def summaryNames : List (List Char) :=
  (summaryMembers (perfMetricsInit 0).systemMetrics (perfMetricsInit 0).stats).map
    NumberMember.chars

theorem summaryMembers_distinct (system : SystemMetrics) (stats : PerformanceStats) :
    ((summaryMembers system stats).map NumberMember.name).Nodup := by
  have distinct : summaryNames.Nodup := by decide
  exact nodup_names _ distinct

theorem summaryGet_document (default : WithTop ℚ) (exported : MetricsExport) :
    ∀ member ∈ summaryMembers exported.ctx.systemMetrics exported.stats,
      summaryGet member.name default exported.document = some (member.value : WithTop ℚ) := by
  intro number among
  have summary : member "summary" exported.document =
      some (summaryJson exported.ctx.systemMetrics exported.stats) := by
    rw [MetricsExport.document, exportedJson, member]
    rfl
  have found := member_obj _ (summaryMembers_distinct _ _) number among
  rw [summaryGet, summary, summaryJson]
  dsimp only
  rw [found]
  rfl

/-! ## The rankings of exports -/

section Rankings
variable (exports : List MetricsExport) (modeNames : List String)

def entriesBy (value : MetricsExport → ℚ) : Set RankingEntry :=
  {entry | ∃ (i : ℕ) (exported : MetricsExport), exports[i]? = some exported ∧
    entry = toLex ((value exported : WithTop ℚ), modeName modeNames i)}

def Reads (key : String) (value : MetricsExport → ℚ) : Prop :=
  ∀ default exported, summaryGet key default exported.document = some (value exported : WithTop ℚ)

theorem reads_average (kind : Measurement) :
    Reads kind.averageKey fun exported => exported.average kind := by
  intro default exported
  cases kind with
  | connectionLatency =>
      exact summaryGet_document default exported _ (List.mem_of_getElem? (i := 4) rfl)
  | keyNegotiation =>
      exact summaryGet_document default exported _ (List.mem_of_getElem? (i := 7) rfl)

theorem reads_throughput :
    Reads "avg_throughput_mbps" fun exported => roundTo 2 exported.stats.avgThroughputMbps :=
  fun default exported =>
    summaryGet_document default exported _ (List.mem_of_getElem? (i := 10) rfl)

theorem reads_cpu : Reads "cpu_usage_percent" fun exported => roundTo 2 exported.stats.avgCpuUsage :=
  fun default exported =>
    summaryGet_document default exported _ (List.mem_of_getElem? (i := 13) rfl)

theorem reads_memory :
    Reads "memory_usage_kb" fun exported => exported.stats.avgMemoryUsageKb.toNat :=
  fun default exported =>
    summaryGet_document default exported _ (List.mem_of_getElem? (i := 14) rfl)

theorem validModes_exports :
    (loadModes (exports.map MetricsExport.file) modeNames).map Prod.snd =
      (List.range exports.length).map (modeName modeNames) := by
  rw [loadModes_exports, List.map_map, List.range_eq_range', ← List.zipIdx_map_snd 0 exports,
    List.map_map]
  rfl

section Reads
variable {key : String} {value : MetricsExport → ℚ} (reads : Reads key value)
include reads

theorem tableRow_exports :
    tableRow key ((loadModes (exports.map MetricsExport.file) modeNames).map Prod.fst) =
      some (exports.map fun exported => (value exported : WithTop ℚ)) := by
  have datasets : (loadModes (exports.map MetricsExport.file) modeNames).map Prod.fst =
      exports.map MetricsExport.document := by
    rw [loadModes_exports, List.map_map]
    conv_rhs => rw [← List.zipIdx_map_fst 0 exports, List.map_map]
    rfl
  rw [tableRow, datasets, List.mapM_map]
  simp only [Function.comp_def, reads 0]
  exact List.mapM_pure

variable (filled : exports ≠ [])
include filled

theorem rankingEntries_exports (default : WithTop ℚ) :
    ∃ entries, rankingEntries key default
        (loadModes (exports.map MetricsExport.file) modeNames) = some entries ∧
      entries ≠ [] ∧ {entry | entry ∈ entries} = entriesBy exports modeNames value := by
  refine ⟨exports.zipIdx.map fun (exported, i) =>
    toLex ((value exported : WithTop ℚ), modeName modeNames i), ?_, ?_, ?_⟩
  · rw [rankingEntries, loadModes_exports, List.mapM_map]
    simp only [Function.comp_def, reads default, Option.map_some]
    exact List.mapM_pure
  · simpa using filled
  · ext entry
    rw [Set.mem_ofPred_eq, List.mem_map]
    constructor
    · rintro ⟨⟨exported, i⟩, among, rfl⟩
      exact ⟨i, exported, List.mem_zipIdx_iff_getElem?.mp among, rfl⟩
    · rintro ⟨i, exported, found, rfl⟩
      exact ⟨(exported, i), List.mem_zipIdx_iff_getElem?.mpr found, rfl⟩

theorem bestLowest_exports :
    ∃ best, bestLowest key (loadModes (exports.map MetricsExport.file) modeNames) = some best ∧
      IsLeast (entriesBy exports modeNames value) best := by
  obtain ⟨entries, ranked, nonempty, members⟩ :=
    rankingEntries_exports exports modeNames reads filled ⊤
  obtain ⟨best, first⟩ := head_insertionSort_isSome (· ≤ ·) entries nonempty
  refine ⟨best, ?_, members ▸ isLeast_head_insertionSort entries best first⟩
  rw [bestLowest, ranked]
  exact first

theorem bestHighest_exports :
    ∃ best, bestHighest key (loadModes (exports.map MetricsExport.file) modeNames) = some best ∧
      IsGreatest (entriesBy exports modeNames value) best := by
  obtain ⟨entries, ranked, nonempty, members⟩ :=
    rankingEntries_exports exports modeNames reads filled 0
  obtain ⟨best, first⟩ := head_insertionSort_isSome (· ≥ ·) entries nonempty
  refine ⟨best, ?_, members ▸ isGreatest_head_insertionSort entries best first⟩
  rw [bestHighest, ranked]
  exact first

end Reads

structure RanksExports (comparison : Comparison) : Prop where
  validModes : comparison.validModes = (List.range exports.length).map (modeName modeNames)
  averages : ∀ kind, IsLeast (entriesBy exports modeNames fun exported => exported.average kind)
    (comparison.best kind)
  throughput : IsGreatest
    (entriesBy exports modeNames fun exported => roundTo 2 exported.stats.avgThroughputMbps)
    comparison.bestThroughput
  cpu : IsLeast (entriesBy exports modeNames fun exported => roundTo 2 exported.stats.avgCpuUsage)
    comparison.bestCpu

theorem compareModes_exports (filled : exports ≠ []) :
    ∃ comparison, compareModes (exports.map MetricsExport.file) modeNames = some comparison ∧
      RanksExports exports modeNames comparison := by
  have latencyReads := reads_average .connectionLatency
  have negotiationReads := reads_average .keyNegotiation
  obtain ⟨bestLatency, latency, latencyLeast⟩ :=
    bestLowest_exports exports modeNames latencyReads filled
  obtain ⟨bestNegotiation, negotiation, negotiationLeast⟩ :=
    bestLowest_exports exports modeNames negotiationReads filled
  obtain ⟨bestThroughput, throughput, throughputGreatest⟩ :=
    bestHighest_exports exports modeNames reads_throughput filled
  obtain ⟨bestCpu, cpu, cpuLeast⟩ := bestLowest_exports exports modeNames reads_cpu filled
  have latencies := tableRow_exports exports modeNames latencyReads
  have negotiations := tableRow_exports exports modeNames negotiationReads
  have throughputs := tableRow_exports exports modeNames reads_throughput
  have cpus := tableRow_exports exports modeNames reads_cpu
  have memories := tableRow_exports exports modeNames reads_memory
  simp only [Measurement.averageKey] at latency negotiation latencies negotiations
  simp only [compareModes, latencies, negotiations, throughputs, cpus, memories, latency,
    negotiation, throughput, cpu, Option.bind_eq_bind, Option.bind_some]
  refine ⟨_, rfl, ?_⟩
  exact
    { validModes := validModes_exports exports modeNames
      averages := fun kind => by
        cases kind with
        | connectionLatency => exact latencyLeast
        | keyNegotiation => exact negotiationLeast
      throughput := throughputGreatest
      cpu := cpuLeast }

section Kind
variable (kind : Measurement)

theorem hasMeasured_iff (exported : MetricsExport) :
    exported.HasMeasured kind ↔ exported.ctx.samples exported.doubles kind ≠ [] := by
  rw [MetricsExport.HasMeasured, PerfMetricsCtx.samples, ne_eq, List.filterMap_eq_nil_iff]
  push Not
  refine exists_congr fun cm => and_congr_right fun _ => ?_
  unfold durationSample
  split
  · rename_i positive
    exact iff_of_true positive (Option.some_ne_none _)
  · rename_i zero
    exact iff_of_false zero (not_not.mpr rfl)

theorem calculated_average (exported : MetricsExport) :
    (perfMetricsCalculateStats exported.doubles exported.ctx).average kind =
      if exported.HasMeasured kind then exported.measuredAverage kind
      else exported.ctx.average kind := by
  have after : (perfMetricsCalculateStats exported.doubles exported.ctx).average kind =
      exported.doubles.averageAfter (exported.ctx.average kind)
        (exported.ctx.samples exported.doubles kind) := by
    cases kind with
    | connectionLatency =>
        exact congrArg (·.2.1) (calculated_latency exported.doubles exported.ctx)
    | keyNegotiation =>
        exact congrArg (·.2.1) (calculated_negotiation exported.doubles exported.ctx)
  rw [after, Doubles.averageAfter, MetricsExport.measuredAverage]
  by_cases measured : exported.HasMeasured kind
  · rw [if_pos measured, if_neg ((hasMeasured_iff kind exported).mp measured)]
  · rw [if_neg measured, if_pos (not_not.mp (mt (hasMeasured_iff kind exported).mpr measured))]

theorem average_measured (exported : MetricsExport) (measured : exported.HasMeasured kind) :
    exported.average kind = roundTo 3 (exported.measuredAverage kind) := by
  rw [MetricsExport.average, calculated_average, if_pos measured]

theorem average_unmeasured (exported : MetricsExport) (unmeasured : ¬ exported.HasMeasured kind) :
    exported.average kind = roundTo 3 (exported.ctx.average kind) := by
  rw [MetricsExport.average, calculated_average, if_neg unmeasured]

/-- Half a microsecond is a double above 0.0005. -/
example : roundTo 3 ((Doubles.rounded binary64).nsToMs 500) = 1 / 1000 := by decide +kernel

/-- The exporter adds and divides doubles, and the average that it has held is one. -/
def MetricsExport.InDoubles (exported : MetricsExport) : Prop :=
  exported.doubles = .rounded binary64 ∧ IsDouble (exported.ctx.average kind)

/-- The script reads an average as the nearest double, which keeps the order. -/
theorem read_average_lt_iff (first second : MetricsExport) (inDoubles : first.InDoubles kind)
    (inDoubles' : second.InDoubles kind) :
    binary64 (first.average kind) < binary64 (second.average kind) ↔
      first.average kind < second.average kind := by
  have isDouble : ∀ exported : MetricsExport, exported.InDoubles kind →
      IsDouble ((perfMetricsCalculateStats exported.doubles exported.ctx).average kind) := by
    rintro exported ⟨rounded, held⟩
    rw [calculated_average]
    split
    · rw [MetricsExport.measuredAverage, rounded]
      exact isDouble_binary64 _
    · exact held
  exact binary64_roundTo_lt_iff (isDouble first inDoubles) (isDouble second inDoubles') 3
    (by decide)

def entriesOf (among : MetricsExport → Prop) : Set RankingEntry :=
  {entry | ∃ (i : ℕ) (exported : MetricsExport), exports[i]? = some exported ∧ among exported ∧
    entry = toLex ((exported.average kind : WithTop ℚ), modeName modeNames i)}

theorem entriesBy_average :
    (entriesBy exports modeNames fun exported => exported.average kind) =
      entriesOf exports modeNames kind (fun exported => exported.HasMeasured kind) ∪
        entriesOf exports modeNames kind (fun exported => ¬ exported.HasMeasured kind) := by
  ext entry
  constructor
  · rintro ⟨i, exported, found, rfl⟩
    by_cases measured : exported.HasMeasured kind
    · exact Or.inl ⟨i, exported, found, measured, rfl⟩
    · exact Or.inr ⟨i, exported, found, measured, rfl⟩
  · rintro (⟨i, exported, found, -, rfl⟩ | ⟨i, exported, found, -, rfl⟩)
    · exact ⟨i, exported, found, rfl⟩
    · exact ⟨i, exported, found, rfl⟩

theorem toLex_coe_le (a b : ℚ) (s t : String) :
    (toLex ((a : WithTop ℚ), s) : RankingEntry) ≤ toLex ((b : WithTop ℚ), t) ↔
      toLex (a, s) ≤ toLex (b, t) := by
  rw [Prod.Lex.toLex_le_toLex, Prod.Lex.toLex_le_toLex, WithTop.coe_lt_coe, WithTop.coe_inj]

theorem unmeasuredBehind_iff :
    UnmeasuredBehind kind exports modeNames ↔
      ∀ entry ∈ entriesOf exports modeNames kind (fun exported => ¬ exported.HasMeasured kind),
        ∃ before ∈ entriesOf exports modeNames kind (fun exported => exported.HasMeasured kind),
          before ≤ entry := by
  constructor
  · rintro behind entry ⟨j, unmeasured, found, none, rfl⟩
    obtain ⟨i, measured, before, some, le⟩ := behind j unmeasured found none
    refine ⟨_, ⟨i, measured, before, some, rfl⟩, ?_⟩
    rw [toLex_coe_le, average_measured kind measured some, average_unmeasured kind unmeasured none]
    exact le
  · intro behind j unmeasured found none
    obtain ⟨_, ⟨i, measured, before, some, rfl⟩, le⟩ :=
      behind _ ⟨j, unmeasured, found, none, rfl⟩
    rw [toLex_coe_le, average_measured kind measured some,
      average_unmeasured kind unmeasured none] at le
    exact ⟨i, measured, before, some, le⟩

end Kind

section Ranked
variable {exports modeNames} {comparison : Comparison}
  (ranks : RanksExports exports modeNames comparison) (kind : Measurement)
include ranks

theorem crownsMeasured_iff_mem :
    CrownsMeasured kind exports modeNames comparison ↔
      comparison.best kind ∈
        entriesOf exports modeNames kind fun exported => exported.HasMeasured kind := by
  constructor
  · rintro ⟨i, exported, found, measured, best, -⟩
    exact ⟨i, exported, found, measured, best⟩
  · rintro ⟨i, exported, found, measured, best⟩
    refine ⟨i, exported, found, measured, best, fun other among otherMeasured => ?_⟩
    obtain ⟨j, found⟩ := List.mem_iff_getElem?.mp among
    have least := (ranks.averages kind).2 ⟨j, other, found, rfl⟩
    rw [best, toLex_coe_le] at least
    exact Prod.Lex.monotone_fst _ _ least

theorem crownsMeasured_iff_behind :
    CrownsMeasured kind exports modeNames comparison ↔
      UnmeasuredBehind kind exports modeNames := by
  have least := ranks.averages kind
  rw [entriesBy_average] at least
  rw [crownsMeasured_iff_mem ranks, unmeasuredBehind_iff]
  exact isLeast_union_mem_iff _ _ _ least

end Ranked

end Rankings

theorem perform_average (call : MetricsCall) (ctx : PerfMetricsCtx) (kind : Measurement)
    (other : call ≠ .calculateStats) : (call.perform ctx).average kind = ctx.average kind := by
  rw [perform_withBooks call other ctx]
  cases kind <;> rfl

theorem foldl_average (calls : List MetricsCall) (ctx : PerfMetricsCtx) (kind : Measurement)
    (uncalculated : MetricsCall.calculateStats ∉ calls) :
    (calls.foldl MetricsCall.perform ctx).average kind = ctx.average kind := by
  induction calls generalizing ctx with
  | nil => rfl
  | cons call rest ih =>
      rw [List.mem_cons, not_or] at uncalculated
      rw [List.foldl_cons, ih (call.perform ctx) uncalculated.2]
      exact perform_average call ctx kind (Ne.symm uncalculated.1)

theorem average_uncalculated (exported : MetricsExport) (kind : Measurement)
    (maxConnections : UInt32) (calls : List MetricsCall)
    (run : exported.ctx = calls.foldl MetricsCall.perform (perfMetricsInit maxConnections))
    (uncalculated : MetricsCall.calculateStats ∉ calls)
    (unmeasured : ¬ exported.HasMeasured kind) : exported.average kind = 0 := by
  have initially : (perfMetricsInit maxConnections).average kind = 0 := by
    cases kind <;> rfl
  have rounded : roundTo 3 0 = 0 := by decide +kernel
  rw [average_unmeasured kind exported unmeasured, run, foldl_average calls _ kind uncalculated,
    initially, rounded]

/-- A run that measures nothing stands before all files with a measurement. -/
theorem unmeasured_mode_first {exports : List MetricsExport} {modeNames : List String}
    {comparison : Comparison} (ranks : RanksExports exports modeNames comparison)
    (kind : Measurement) (failed : MetricsExport) (among : failed ∈ exports)
    (maxConnections : UInt32) (calls : List MetricsCall)
    (run : failed.ctx = calls.foldl MetricsCall.perform (perfMetricsInit maxConnections))
    (uncalculated : MetricsCall.calculateStats ∉ calls) (unmeasured : ¬ failed.HasMeasured kind)
    (positive : ∀ exported ∈ exports, exported.HasMeasured kind → 0 < exported.average kind) :
    ¬ CrownsMeasured kind exports modeNames comparison := by
  rintro ⟨i, exported, found, measured, best, -⟩
  obtain ⟨j, failedFound⟩ := List.mem_iff_getElem?.mp among
  have zero := average_uncalculated failed kind maxConnections calls run uncalculated unmeasured
  have least := (ranks.averages kind).2 ⟨j, failed, failedFound, rfl⟩
  rw [best, toLex_coe_le] at least
  have below : exported.average kind ≤ failed.average kind := Prod.Lex.monotone_fst _ _ least
  rw [zero] at below
  exact absurd (positive exported (List.mem_of_getElem? found) measured) (not_lt.mpr below)

def exportOf (calls : List MetricsCall) : MetricsExport :=
  ⟨.rounded binary64, 0, calls.foldl MetricsCall.perform (perfMetricsInit 1)⟩

def madeCalls : List MetricsCall :=
  [.connectionStart 1, .latencyStart 0 ⟨1, 0⟩, .latencyEnd 0 ⟨1, 1000000⟩, .connectionEnd 0 1]

def quickCalls : List MetricsCall :=
  [.connectionStart 1, .latencyStart 0 ⟨1, 0⟩, .latencyEnd 0 ⟨1, 500⟩, .connectionEnd 0 1]

def failedCalls : List MetricsCall :=
  [.connectionStart 1, .latencyStart 0 ⟨1, 0⟩, .connectionEnd 0 0]

theorem madeCalls_measured : (exportOf madeCalls).HasMeasured .connectionLatency := by
  rw [MetricsExport.HasMeasured]
  decide +kernel

theorem quickCalls_measured : (exportOf quickCalls).HasMeasured .connectionLatency := by
  rw [MetricsExport.HasMeasured]
  decide +kernel

theorem failedCalls_unmeasured : ¬ (exportOf failedCalls).HasMeasured .connectionLatency := by
  rw [MetricsExport.HasMeasured]
  decide +kernel

theorem crownsMeasured_iff_unmeasuredBehind (kind : Measurement) (exports : List MetricsExport)
    (modeNames : List String) (measured : ∃ exported ∈ exports, exported.HasMeasured kind) :
    (∃ comparison, compareModes (exports.map MetricsExport.file) modeNames = some comparison ∧
        CrownsMeasured kind exports modeNames comparison) ↔
      UnmeasuredBehind kind exports modeNames := by
  obtain ⟨exported, among, -⟩ := measured
  obtain ⟨comparison, compared, ranks⟩ :=
    compareModes_exports exports modeNames (List.ne_nil_of_mem among)
  rw [← crownsMeasured_iff_behind ranks]
  constructor
  · rintro ⟨other, same, crowns⟩
    cases compared.symm.trans same
    exact crowns
  · intro crowns
    exact ⟨comparison, compared, crowns⟩

/-- The mode that is crowned has measurements, and the least average of those, if and
only if no file without a measurement stands before all of them.  Reading the averages
as doubles does not change their order. -/
theorem crownsMeasured_iff (kind : Measurement) (exports : List MetricsExport)
    (modeNames : List String) (measured : ∃ exported ∈ exports, exported.HasMeasured kind) :
    ((∃ comparison, compareModes (exports.map MetricsExport.file) modeNames = some comparison ∧
        CrownsMeasured kind exports modeNames comparison) ↔
      UnmeasuredBehind kind exports modeNames) ∧
    ∀ first second : MetricsExport, first.InDoubles kind → second.InDoubles kind →
      (binary64 (first.average kind) < binary64 (second.average kind) ↔
        first.average kind < second.average kind) :=
  ⟨crownsMeasured_iff_unmeasuredBehind kind exports modeNames measured,
    read_average_lt_iff kind⟩

/-- One mode connects within half a microsecond, one within a millisecond, and one has
only an average of an earlier calculation. -/
def variedExports : List MetricsExport :=
  [exportOf quickCalls, exportOf madeCalls, exportOf measuredTwice]

def variedNames : List String := ["TLShub", "OpenSSL", "BoringSSL"]

theorem measured_modes_crowned :
    (∃ exported ∈ variedExports, exported.HasMeasured .connectionLatency) ∧
      (∃ comparison,
        compareModes (variedExports.map MetricsExport.file) variedNames = some comparison ∧
          CrownsMeasured .connectionLatency variedExports variedNames comparison) ∧
      binary64 ((exportOf quickCalls).average .connectionLatency) <
        binary64 ((exportOf madeCalls).average .connectionLatency) := by
  have measured : ∃ exported ∈ variedExports, exported.HasMeasured .connectionLatency :=
    ⟨_, List.mem_cons_self, quickCalls_measured⟩
  have crowned := crownsMeasured_iff .connectionLatency variedExports variedNames measured
  have inDoubles : (exportOf quickCalls).InDoubles .connectionLatency ∧
      (exportOf madeCalls).InDoubles .connectionLatency :=
    ⟨⟨rfl, 0, 0, by decide, by decide +kernel⟩, rfl, 0, 0, by decide, by decide +kernel⟩
  refine ⟨measured, crowned.1.mpr ?_,
    (crowned.2 _ _ inDoubles.1 inDoubles.2).mpr (by decide +kernel)⟩
  intro j exported found unmeasured
  refine ⟨0, exportOf quickCalls, rfl, quickCalls_measured, ?_⟩
  rcases j with _ | _ | _ | j
  · cases Option.some.inj found
    exact absurd quickCalls_measured unmeasured
  · cases Option.some.inj found
    exact absurd madeCalls_measured unmeasured
  · cases Option.some.inj found
    exact Prod.Lex.toLex_le_toLex.mpr (Or.inl (by decide +kernel))
  · cases found

/-- The mode that makes no connection is printed as the best, with 0.000 ms. -/
theorem failed_mode_crowned :
    (∃ exported ∈ [exportOf madeCalls, exportOf failedCalls],
        exported.HasMeasured .connectionLatency) ∧
      ¬ ∃ comparison,
        compareModes ([exportOf madeCalls, exportOf failedCalls].map MetricsExport.file)
            ["TLShub", "OpenSSL"] = some comparison ∧
          CrownsMeasured .connectionLatency [exportOf madeCalls, exportOf failedCalls]
            ["TLShub", "OpenSSL"] comparison := by
  refine ⟨⟨_, List.mem_cons_self, madeCalls_measured⟩, ?_⟩
  rintro ⟨comparison, compared, crowns⟩
  obtain ⟨other, same, ranks⟩ :=
    compareModes_exports [exportOf madeCalls, exportOf failedCalls] ["TLShub", "OpenSSL"]
      (List.cons_ne_nil _ _)
  cases same.symm.trans compared
  refine unmeasured_mode_first ranks .connectionLatency (exportOf failedCalls) (by simp) 1
    failedCalls rfl (by simp [failedCalls]) failedCalls_unmeasured ?_ crowns
  intro exported among measured
  have made : exported = exportOf madeCalls := by
    rcases List.mem_pair.mp among with made | failed
    · exact made
    · exact absurd (failed ▸ measured) failedCalls_unmeasured
  rw [made]
  decide +kernel

end TlshubEbpf.Capture
