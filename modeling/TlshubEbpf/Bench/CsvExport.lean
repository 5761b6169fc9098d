import TlshubEbpf.Bench.ExportValidity

/-! # The table of the benchmark (`bench_common.c`)

`export_metrics_csv` writes the summary and the connections one under the other, with
comments before and between them.  The target goes into a comment as it is in the
configuration. -/

set_option autoImplicit false

namespace TlshubEbpf.Bench

open Lib Json

def exportComments (config : BenchConfig) : List Char :=
  List.flatten
    [fprintf "# TLShub Benchmark Summary\n" [],
      fprintf "# Mode,%s\n" [.s config.mode.name],
      fprintf "# Target,%s:%u\n" [.s (latin1 config.targetIp.string), .u config.targetPort.toUInt32],
      fprintf "# Data Size,%zu\n" [.zu config.dataSize.bytes],
      fprintf "# Concurrency,%d\n" [.d config.concurrency],
      fprintf "# Total Connections,%d\n\n" [.d config.totalConnections]]

def exportSummaryTable (metrics : FinalMetrics) : List Char :=
  List.flatten
    [fprintf "Metric,Value\n" [],
      fprintf "Total Connections,%d\n" [.d metrics.totalConnections],
      fprintf "Successful Connections,%d\n" [.d metrics.successfulConnections],
      fprintf "Failed Connections,%d\n" [.d metrics.failedConnections],
      fprintf "Timeout Connections,%d\n" [.d metrics.timeoutConnections],
      fprintf "Total Bytes Sent,%lu\n" [.lu metrics.totalBytesSent],
      fprintf "Total Bytes Received,%lu\n" [.lu metrics.totalBytesReceived],
      fprintf "Avg Connection Latency (ms),%.3f\n" [.f metrics.avgConnectionLatencyMs],
      fprintf "Min Connection Latency (ms),%.3f\n" [.f metrics.minConnectionLatencyMs],
      fprintf "Max Connection Latency (ms),%.3f\n" [.f metrics.maxConnectionLatencyMs],
      fprintf "Avg Throughput (Mbps),%.3f\n" [.f metrics.avgThroughputMbps],
      fprintf "Total Test Duration (sec),%.3f\n" [.f metrics.totalTestDurationSec],
      fprintf "CPU Usage (%%),%.2f\n" [.f metrics.cpuUsagePercent],
      fprintf "Memory Usage (MB),%.2f\n\n" [.f metrics.memoryUsageMb]]

def exportDetailRow (stats : ConnStats) : List Char :=
  fprintf "%d,%d,%lu,%lu,%.3f,%.3f,%.3f\n"
    [.d stats.connId, .d stats.state.code, .lu stats.bytesSent, .lu stats.bytesReceived,
      .f stats.connectionLatencyMs, .f stats.dataTransferTimeMs, .f stats.throughputMbps]

def exportDetailTable (connStatsArray : ℕ → ConnStats) (numConnections : Int) : List Char :=
  List.flatten
    [fprintf "# Connection Details\n" [],
      fprintf "Connection ID,State,Bytes Sent,Bytes Received," [],
      fprintf "Connection Latency (ms),Data Transfer Time (ms),Throughput (Mbps)\n" [],
      (List.range numConnections.toNat).flatMap fun i => exportDetailRow (connStatsArray i)]

def exportMetricsCsv (opened : Bool) (config : BenchConfig) (metrics : FinalMetrics)
    (connStatsArray : ℕ → ConnStats) (numConnections : Int) : Int × Option (List UInt8) :=
  if opened then
    (0, some ((exportComments config ++ (exportSummaryTable metrics ++
      exportDetailTable connStatsArray numConnections)).map Char.toUInt8))
  else
    (-1, none)

/-! ## What is read -/

structure SummaryReport where
  totalConnections : ℚ
  successfulConnections : ℚ
  failedConnections : ℚ
  timeoutConnections : ℚ
  totalBytesSent : ℚ
  totalBytesReceived : ℚ
  avgConnectionLatencyMs : ℚ
  minConnectionLatencyMs : ℚ
  maxConnectionLatencyMs : ℚ
  avgThroughputMbps : ℚ
  totalTestDurationSec : ℚ
  cpuUsagePercent : ℚ
  memoryUsageMb : ℚ
  deriving DecidableEq

structure DetailReport where
  connId : ℚ
  state : ℚ
  bytesSent : ℚ
  bytesReceived : ℚ
  connectionLatencyMs : ℚ
  dataTransferTimeMs : ℚ
  throughputMbps : ℚ
  deriving DecidableEq

structure BenchReport where
  summary : SummaryReport
  details : List DetailReport
  deriving DecidableEq

def SummaryReport.ofNumbers : List ℚ → Option SummaryReport
  | [total, successful, failed, timeout, sent, received, avgLatency, minLatency, maxLatency,
      throughput, duration, cpu, memory] =>
      some ⟨total, successful, failed, timeout, sent, received, avgLatency, minLatency, maxLatency,
        throughput, duration, cpu, memory⟩
  | _ => none

def DetailReport.ofNumbers : List ℚ → Option DetailReport
  | [connId, state, sent, received, latency, transfer, throughput] =>
      some ⟨connId, state, sent, received, latency, transfer, throughput⟩
  | _ => none

def summaryReport (metrics : FinalMetrics) : SummaryReport :=
  { totalConnections := metrics.totalConnections
    successfulConnections := metrics.successfulConnections
    failedConnections := metrics.failedConnections
    timeoutConnections := metrics.timeoutConnections
    totalBytesSent := metrics.totalBytesSent.toNat
    totalBytesReceived := metrics.totalBytesReceived.toNat
    avgConnectionLatencyMs := roundTo 3 metrics.avgConnectionLatencyMs
    minConnectionLatencyMs := roundTo 3 metrics.minConnectionLatencyMs
    maxConnectionLatencyMs := roundTo 3 metrics.maxConnectionLatencyMs
    avgThroughputMbps := roundTo 3 metrics.avgThroughputMbps
    totalTestDurationSec := roundTo 3 metrics.totalTestDurationSec
    cpuUsagePercent := roundTo 2 metrics.cpuUsagePercent
    memoryUsageMb := roundTo 2 metrics.memoryUsageMb }

def detailReport (stats : ConnStats) : DetailReport :=
  { connId := stats.connId
    state := stats.state.code
    bytesSent := stats.bytesSent.toNat
    bytesReceived := stats.bytesReceived.toNat
    connectionLatencyMs := roundTo 3 stats.connectionLatencyMs
    dataTransferTimeMs := roundTo 3 stats.dataTransferTimeMs
    throughputMbps := roundTo 3 stats.throughputMbps }

def benchReport (metrics : FinalMetrics) (stats : List ConnStats) : BenchReport :=
  ⟨summaryReport metrics, stats.map detailReport⟩

def summaryNames : List String := (summaryMembers FinalMetrics.idle).map NumberMember.name

def detailNames : List String := (detailMembers ConnStats.zeroed).map NumberMember.name

def numbersOf (names : List String) (value : Json) : Option (List ℚ) :=
  names.mapM fun name => numberMember name value

def decodeDetails : Json → Option (List DetailReport)
  | .arr items => items.mapM fun item => (numbersOf detailNames item).bind DetailReport.ofNumbers
  | _ => none

def decodeDocument (document : Json) : Option BenchReport := do
  let numbers ← (member "summary_metrics" document).bind (numbersOf summaryNames)
  let summary ← SummaryReport.ofNumbers numbers
  let details ← (member "connection_details" document).bind decodeDetails
  some ⟨summary, details⟩

def summaryRows (metrics : FinalMetrics) : List NumberMember :=
  [.signed "Total Connections" rfl (.refl true) metrics.totalConnections,
    .signed "Successful Connections" rfl (.refl true) metrics.successfulConnections,
    .signed "Failed Connections" rfl (.refl true) metrics.failedConnections,
    .signed "Timeout Connections" rfl (.refl true) metrics.timeoutConnections,
    .natural "Total Bytes Sent" rfl (.refl true) metrics.totalBytesSent.toNat,
    .natural "Total Bytes Received" rfl (.refl true) metrics.totalBytesReceived.toNat,
    .fixed "Avg Connection Latency (ms)" rfl (.refl true) 3 three_digits
      metrics.avgConnectionLatencyMs,
    .fixed "Min Connection Latency (ms)" rfl (.refl true) 3 three_digits
      metrics.minConnectionLatencyMs,
    .fixed "Max Connection Latency (ms)" rfl (.refl true) 3 three_digits
      metrics.maxConnectionLatencyMs,
    .fixed "Avg Throughput (Mbps)" rfl (.refl true) 3 three_digits metrics.avgThroughputMbps,
    .fixed "Total Test Duration (sec)" rfl (.refl true) 3 three_digits metrics.totalTestDurationSec,
    .fixed "CPU Usage (%)" rfl (.refl true) 2 Nat.two_pos metrics.cpuUsagePercent,
    .fixed "Memory Usage (MB)" rfl (.refl true) 2 Nat.two_pos metrics.memoryUsageMb]

def detailColumns (stats : ConnStats) : List NumberMember :=
  [.signed "Connection ID" rfl (.refl true) stats.connId,
    .signed "State" rfl (.refl true) stats.state.code,
    .natural "Bytes Sent" rfl (.refl true) stats.bytesSent.toNat,
    .natural "Bytes Received" rfl (.refl true) stats.bytesReceived.toNat,
    .fixed "Connection Latency (ms)" rfl (.refl true) 3 three_digits stats.connectionLatencyMs,
    .fixed "Data Transfer Time (ms)" rfl (.refl true) 3 three_digits stats.dataTransferTimeMs,
    .fixed "Throughput (Mbps)" rfl (.refl true) 3 three_digits stats.throughputMbps]

def summaryHeader : List (List Char) := [['M', 'e', 't', 'r', 'i', 'c'], ['V', 'a', 'l', 'u', 'e']]

def summaryLabels : List (List Char) := (summaryRows FinalMetrics.idle).map NumberMember.chars

def detailLabels : List (List Char) := (detailColumns ConnStats.zeroed).map NumberMember.chars

def numbersUnder (labels : List (List Char)) (pairs : List (List Char × List Char)) :
    Option (List ℚ) :=
  labels.mapM fun label => (pairs.lookup label).bind readNumber

def readPair : List (List Char) → Option (List Char × List Char)
  | [label, text] => some (label, text)
  | _ => none

def decodeSummaryTable : List (List (List Char)) → Option SummaryReport
  | [] => none
  | header :: rows =>
      if header = summaryHeader then
        (rows.mapM readPair).bind fun pairs =>
          (numbersUnder summaryLabels pairs).bind SummaryReport.ofNumbers
      else
        none

def decodeDetailRow (labels row : List (List Char)) : Option DetailReport :=
  if row.length = labels.length then
    (numbersUnder detailLabels (labels.zip row)).bind DetailReport.ofNumbers
  else
    none

def decodeDetailTable : List (List (List Char)) → Option (List DetailReport)
  | [] => none
  | labels :: rows => rows.mapM (decodeDetailRow labels)

/-- The summary is a header and a row for each of its metrics. -/
def decodeTable (text : List Char) : Option BenchReport := do
  let summary ← decodeSummaryTable ((tableRecords text).take (summaryLabels.length + 1))
  let details ← decodeDetailTable ((tableRecords text).drop (summaryLabels.length + 1))
  some ⟨summary, details⟩

def targetComment (config : BenchConfig) : List Char :=
  ['#', ' ', 'T', 'a', 'r', 'g', 'e', 't', ','] ++
    (latin1 config.targetIp.string ++ ':' :: decimal config.targetPort.toUInt32.toNat)

/-- None of the lines that the target is written in is a record. -/
def CommentTarget (config : BenchConfig) : Prop :=
  ∀ line ∈ (targetComment config).splitOn '\n', isRecord line = false

instance (config : BenchConfig) : Decidable (CommentTarget config) :=
  inferInstanceAs (Decidable (∀ line ∈ _, _))

theorem summaryRows_distinct (metrics : FinalMetrics) :
    ((summaryRows metrics).map NumberMember.chars).Nodup := by
  have distinct : summaryLabels.Nodup := by decide
  exact distinct

theorem detailColumns_distinct (stats : ConnStats) :
    ((detailColumns stats).map NumberMember.chars).Nodup := by
  have distinct : detailLabels.Nodup := by decide
  exact distinct

theorem numbersUnder_labels (members : List NumberMember)
    (distinct : (members.map NumberMember.chars).Nodup) :
    numbersUnder (members.map NumberMember.chars)
        (members.map fun member => (member.chars, member.text)) =
      some (members.map NumberMember.value) := by
  rw [numbersUnder, List.mapM_map]
  refine mapM_eq_some_map _ _ _ fun member among => ?_
  show (List.lookup member.chars _).bind readNumber = _
  rw [lookup_map_of_mem NumberMember.chars NumberMember.text members distinct member among,
    Option.bind_some]
  exact member.reads.reads

def summaryTable (metrics : FinalMetrics) : List (List (List Char)) :=
  summaryHeader :: (summaryRows metrics).map fun metric => [metric.chars, metric.text]

def detailTable (stats : List ConnStats) : List (List (List Char)) :=
  detailLabels :: stats.map fun stats => (detailColumns stats).map NumberMember.text

theorem decodeSummaryTable_summaryTable (metrics : FinalMetrics) :
    decodeSummaryTable (summaryTable metrics) = some (summaryReport metrics) := by
  have pairs : ((summaryRows metrics).map fun metric => [metric.chars, metric.text]).mapM readPair =
      some ((summaryRows metrics).map fun metric => (metric.chars, metric.text)) := by
    rw [List.mapM_map]
    exact mapM_eq_some_map _ _ _ fun metric _ => rfl
  rw [summaryTable, decodeSummaryTable, if_pos rfl, pairs, Option.bind_some,
    show summaryLabels = (summaryRows metrics).map NumberMember.chars from rfl,
    numbersUnder_labels _ (summaryRows_distinct metrics)]
  rfl

theorem decodeDetailRow_columns (stats : ConnStats) :
    decodeDetailRow detailLabels ((detailColumns stats).map NumberMember.text) =
      some (detailReport stats) := by
  have labels : detailLabels = (detailColumns stats).map NumberMember.chars := rfl
  have full : ((detailColumns stats).map NumberMember.text).length = detailLabels.length := rfl
  rw [decodeDetailRow, if_pos full, labels, List.zip_map',
    numbersUnder_labels _ (detailColumns_distinct stats)]
  rfl

theorem decodeDetailTable_detailTable (stats : List ConnStats) :
    decodeDetailTable (detailTable stats) = some (stats.map detailReport) := by
  rw [detailTable, decodeDetailTable, List.mapM_map]
  exact mapM_eq_some_map _ _ _ fun stats _ => decodeDetailRow_columns stats

theorem length_decodeDetailTable (rows : List (List (List Char))) (details : List DetailReport)
    (decoded : decodeDetailTable rows = some details) : rows.length = details.length + 1 := by
  cases rows with
  | nil => cases decoded
  | cons labels rows => rw [List.length_cons, length_of_mapM _ rows details decoded]

theorem recordsOf_eq_nil_iff (lines : List (List Char)) :
    recordsOf lines = [] ↔ ∀ line ∈ lines, isRecord line = false := by
  simp only [recordsOf, List.map_eq_nil_iff, List.filter_eq_nil_iff, Bool.not_eq_true]

def pairRow (metric : NumberMember) : TableLine := .row [metric.chars, metric.text]

def connectionRow (stats : ConnStats) : TableLine :=
  .row ((detailColumns stats).map NumberMember.text)

def commentsBefore (mode : BenchMode) : List TableLine :=
  [.note (fprintf "# TLShub Benchmark Summary" []), .note (fprintf "# Mode," [] ++ mode.name)]

def commentsAfter (config : BenchConfig) : List TableLine :=
  [.note (fprintf "# Data Size," [] ++ decimal config.dataSize.bytes),
    .note (fprintf "# Concurrency," [] ++ signedDecimal config.concurrency),
    .note (fprintf "# Total Connections," [] ++ signedDecimal config.totalConnections), .note []]

def summaryLines (metrics : FinalMetrics) : List TableLine :=
  .row summaryHeader :: ((summaryRows metrics).map pairRow ++ [.note []])

def detailLines (stats : List ConnStats) : List TableLine :=
  .note (fprintf "# Connection Details" []) :: .row detailLabels :: stats.map connectionRow

def pairText (metric : NumberMember) : List Char :=
  metric.chars ++ ',' :: (metric.text ++ ['\n'])

theorem pairRow_text (metric : NumberMember) : (pairRow metric).text = pairText metric := by
  simp only [TableLine.text, TableLine.line, pairRow, pairText, List.intercalate_cons_cons,
    List.intercalate_singleton, List.append_assoc, List.cons_append, List.nil_append]

theorem exportSummaryTable_texts (metrics : FinalMetrics) :
    exportSummaryTable metrics =
      (fprintf "Metric,Value\n" [] :: (summaryRows metrics).map pairText ++ [['\n']]).flatten := by
  have last : fprintf "Memory Usage (MB),%.2f\n\n" [.f metrics.memoryUsageMb] =
      pairText (.fixed "Memory Usage (MB)" rfl (.refl true) 2 Nat.two_pos metrics.memoryUsageMb) ++
        ['\n'] := by
    rw [pairText, fprintf_ofList, List.append_assoc, List.cons_append, List.append_assoc]
    rfl
  rw [exportSummaryTable, last]
  simp only [summaryRows, List.map_cons, List.map_nil, List.cons_append, List.nil_append,
    List.flatten_cons, List.flatten_nil, List.append_nil]
  repeat rw [fprintf_ofList]
  rfl

theorem exportSummaryTable_lines (metrics : FinalMetrics) :
    exportSummaryTable metrics = (summaryLines metrics).flatMap TableLine.text := by
  have pairs : ((summaryRows metrics).map pairRow).flatMap TableLine.text =
      ((summaryRows metrics).map pairText).flatten := by
    rw [List.flatMap_map]
    exact congrArg List.flatten (List.map_congr_left fun metric _ => pairRow_text metric)
  have header : fprintf "Metric,Value\n" [] = (TableLine.row summaryHeader).text := by
    rw [fprintf_ofList]
    rfl
  rw [exportSummaryTable_texts, summaryLines, List.flatMap_cons, List.flatMap_append, pairs,
    List.cons_append, List.flatten_cons, List.flatten_append, header]
  rfl

theorem exportComments_lines (config : BenchConfig) :
    exportComments config =
      (commentsBefore config.mode).flatMap TableLine.text ++
        (targetComment config ++ '\n' :: (commentsAfter config).flatMap TableLine.text) := by
  have title : fprintf "# TLShub Benchmark Summary\n" [] =
      fprintf "# TLShub Benchmark Summary" [] ++ ['\n'] := by
    rw [fprintf_ofList, fprintf_ofList]
    rfl
  have mode : fprintf "# Mode,%s\n" [.s config.mode.name] =
      fprintf "# Mode," [] ++ (config.mode.name ++ ['\n']) := by
    rw [fprintf_ofList, fprintf_ofList]
    rfl
  have target : fprintf "# Target,%s:%u\n"
      [.s (latin1 config.targetIp.string), .u config.targetPort.toUInt32] =
        targetComment config ++ ['\n'] := by
    rw [fprintf_ofList, targetComment, List.append_assoc, List.append_assoc, List.cons_append]
    rfl
  have dataSize : fprintf "# Data Size,%zu\n" [.zu config.dataSize.bytes] =
      fprintf "# Data Size," [] ++ (decimal config.dataSize.bytes ++ ['\n']) := by
    rw [fprintf_ofList, fprintf_ofList]
    rfl
  have concurrency : fprintf "# Concurrency,%d\n" [.d config.concurrency] =
      fprintf "# Concurrency," [] ++ (signedDecimal config.concurrency ++ ['\n']) := by
    rw [fprintf_ofList, fprintf_ofList]
    rfl
  have total : fprintf "# Total Connections,%d\n\n" [.d config.totalConnections] =
      fprintf "# Total Connections," [] ++
        (signedDecimal config.totalConnections ++ (['\n'] ++ ['\n'])) := by
    rw [fprintf_ofList, fprintf_ofList]
    rfl
  rw [exportComments, title, mode, target, dataSize, concurrency, total]
  simp only [commentsBefore, commentsAfter, TableLine.text, TableLine.line, List.flatten_cons,
    List.flatten_nil, List.flatMap_cons, List.flatMap_nil, List.append_assoc, List.append_nil,
    List.nil_append, List.cons_append]

theorem exportDetailRow_line (stats : ConnStats) :
    exportDetailRow stats = (connectionRow stats).text := by
  rw [exportDetailRow, fprintf_ofList]
  simp only [connectionRow, TableLine.text, TableLine.line, detailColumns, NumberMember.natural,
    NumberMember.signed, NumberMember.fixed, List.map_cons, List.map_nil,
    List.intercalate_cons_cons, List.intercalate_singleton, List.append_assoc, List.cons_append,
    List.nil_append]
  rfl

theorem exportDetailTable_lines (connStatsArray : ℕ → ConnStats) (numConnections : Int) :
    exportDetailTable connStatsArray numConnections =
      (detailLines (exportedStats connStatsArray numConnections)).flatMap TableLine.text := by
  have rows : ((List.range numConnections.toNat).flatMap fun i =>
      exportDetailRow (connStatsArray i)) =
      ((exportedStats connStatsArray numConnections).map connectionRow).flatMap TableLine.text := by
    rw [List.flatMap_map, exportedStats, List.flatMap_map]
    exact congrArg List.flatten
      (List.map_congr_left fun i _ => exportDetailRow_line (connStatsArray i))
  have title : fprintf "# Connection Details\n" [] =
      (TableLine.note (fprintf "# Connection Details" [])).text := by
    rw [fprintf_ofList, fprintf_ofList]
    rfl
  have labels : fprintf "Connection ID,State,Bytes Sent,Bytes Received," [] ++
      fprintf "Connection Latency (ms),Data Transfer Time (ms),Throughput (Mbps)\n" [] =
        (TableLine.row detailLabels).text := by
    rw [fprintf_ofList, fprintf_ofList]
    rfl
  rw [exportDetailTable, rows, detailLines, List.flatMap_cons, List.flatMap_cons, ← labels, ← title]
  simp only [List.flatten_cons, List.flatten_nil, List.append_nil, List.append_assoc]

theorem notBreak_number (text : List Char) (value : ℚ) (number : NumberText text value) :
    ',' ∉ text ∧ '\n' ∉ text :=
  ⟨fun comma => absurd (number.chars _ comma) (by decide),
    fun lineBreak => absurd (number.chars _ lineBreak) (by decide)⟩

theorem note_wellFormed (label text : List Char) (comment : (format label []).head? = some '#')
    (unbroken : '\n' ∉ format label []) (free : '\n' ∉ text) :
    (TableLine.note (fprintf (String.ofList label) [] ++ text)).WellFormed := by
  rw [fprintf_ofList]
  refine ⟨fun among => (List.mem_append.mp among).elim unbroken free, ?_⟩
  cases printed : format label [] with
  | nil =>
      rw [printed] at comment
      cases comment
  | cons c rest =>
      rw [printed] at comment
      cases comment
      rfl

theorem commentsBefore_wellFormed (mode : BenchMode) :
    ∀ line ∈ commentsBefore mode, line.WellFormed := by
  have title : (TableLine.note (fprintf "# TLShub Benchmark Summary" [] ++ [])).WellFormed :=
    note_wellFormed _ _ rfl (by decide) List.not_mem_nil
  have name : '\n' ∉ mode.name := by
    cases mode with
    | client => decide
    | server => decide
  rw [List.append_nil] at title
  exact List.forall_mem_cons.mpr ⟨title, List.forall_mem_singleton.mpr
    (note_wellFormed _ _ rfl (by decide) name)⟩

theorem commentsAfter_wellFormed (config : BenchConfig) :
    ∀ line ∈ commentsAfter config, line.WellFormed := by
  have dataSize := (notBreak_number _ _ (decimal_number config.dataSize.bytes)).2
  have concurrency := (notBreak_number _ _ (signedDecimal_number config.concurrency)).2
  have total := (notBreak_number _ _ (signedDecimal_number config.totalConnections)).2
  simp only [commentsAfter, List.forall_mem_cons]
  exact ⟨note_wellFormed _ _ rfl (by decide) dataSize, note_wellFormed _ _ rfl (by decide) concurrency,
    note_wellFormed _ _ rfl (by decide) total, ⟨List.not_mem_nil, rfl⟩,
    fun _ none => (List.not_mem_nil none).elim⟩

theorem summaryLines_wellFormed (metrics : FinalMetrics) :
    ∀ line ∈ summaryLines metrics, line.WellFormed := by
  have labels : ∀ label ∈ summaryLabels, (',' ∉ label ∧ '\n' ∉ label) ∧ isRecord label = true := by
    decide
  have printed : (summaryRows metrics).map NumberMember.chars = summaryLabels := rfl
  intro line among
  rcases List.mem_cons.mp among with rfl | among
  · exact ⟨by decide, ['M', 'e', 't', 'r', 'i', 'c'], _, rfl, rfl⟩
  rcases List.mem_append.mp among with among | among
  · obtain ⟨metric, inRows, rfl⟩ := List.mem_map.mp among
    have label := labels metric.chars (printed ▸ List.mem_map_of_mem inRows)
    refine ⟨?_, metric.chars, [metric.text], rfl, label.2⟩
    exact List.forall_mem_cons.mpr
      ⟨label.1, List.forall_mem_singleton.mpr (notBreak_number _ _ metric.reads)⟩
  · cases List.mem_singleton.mp among
    exact ⟨List.not_mem_nil, rfl⟩

theorem detailLines_wellFormed (stats : List ConnStats) :
    ∀ line ∈ detailLines stats, line.WellFormed := by
  have title : (TableLine.note (fprintf "# Connection Details" [] ++ [])).WellFormed :=
    note_wellFormed _ _ rfl (by decide) List.not_mem_nil
  rw [List.append_nil] at title
  intro line among
  rcases List.mem_cons.mp among with rfl | among
  · exact title
  rcases List.mem_cons.mp among with rfl | among
  · exact ⟨by decide, _, _, rfl, rfl⟩
  · obtain ⟨connection, -, rfl⟩ := List.mem_map.mp among
    refine ⟨?_, signedDecimal connection.connId, _, rfl, ?_⟩
    · intro field inRow
      obtain ⟨column, -, rfl⟩ := List.mem_map.mp inRow
      exact notBreak_number _ _ column.reads
    · have number := signedDecimal_number connection.connId
      obtain ⟨c, rest, printed⟩ := List.exists_cons_of_ne_nil number.ne_nil
      have first := number.chars c (printed ▸ List.mem_cons_self)
      have other : c ≠ '#' := by
        rintro rfl
        exact absurd first (by decide)
      rw [printed]
      simpa [isRecord] using other

theorem number_byte (c : Char) (number : isNumberChar c = true) : c.toNat < 256 := by
  rw [isNumberChar, Bool.or_eq_true, Bool.or_eq_true, Char.isDigit, Bool.and_eq_true,
    decide_eq_true_eq, decide_eq_true_eq, beq_iff_eq, beq_iff_eq] at number
  rcases number with (digit | rfl) | rfl
  · have last := UInt32.le_iff_toNat_le.mp digit.2
    exact Nat.lt_of_le_of_lt last (by decide)
  · decide
  · decide

theorem forall_byte (text : List Char) (bytes : (text.all fun c => c.toNat < 256) = true) :
    ∀ c ∈ text, c.toNat < 256 :=
  fun c among => of_decide_eq_true (List.all_eq_true.mp bytes c among)

theorem fprintf_bytes (template : List Char) (args : List PrintfArg)
    (plain : (template.all fun c => c.toNat < 256) = true)
    (texts : ∀ text, .s text ∈ args → ∀ c ∈ text, c.toNat < 256) :
    ∀ c ∈ fprintf (String.ofList template) args, c.toNat < 256 := by
  rw [fprintf_ofList]
  exact format_forall _ number_byte template args (forall_byte template plain) texts

theorem exportComments_bytes (config : BenchConfig) :
    ∀ c ∈ exportComments config, c.toNat < 256 := by
  have name : ∀ c ∈ config.mode.name, c.toNat < 256 := by
    cases config.mode with
    | client => exact forall_byte _ rfl
    | server => exact forall_byte _ rfl
  have target := latin1_bytes config.targetIp.string
  simp only [exportComments, List.flatten_cons, List.flatten_nil, List.append_nil,
    List.forall_mem_append]
  refine ⟨?_, fprintf_bytes _ _ (by decide) (by simpa using name),
    fprintf_bytes _ _ (by decide) (by simpa using target), ?_, ?_, ?_⟩
  all_goals exact fprintf_bytes _ _ (by decide) (by simp)

theorem exportSummaryTable_bytes (metrics : FinalMetrics) :
    ∀ c ∈ exportSummaryTable metrics, c.toNat < 256 := by
  simp only [exportSummaryTable, List.flatten_cons, List.flatten_nil, List.append_nil,
    List.forall_mem_append]
  and_intros
  all_goals exact fprintf_bytes _ _ (by decide) (by simp)

theorem exportDetailTable_bytes (connStatsArray : ℕ → ConnStats) (numConnections : Int) :
    ∀ c ∈ exportDetailTable connStatsArray numConnections, c.toNat < 256 := by
  simp only [exportDetailTable, List.flatten_cons, List.flatten_nil, List.append_nil,
    List.forall_mem_append, List.mem_flatMap]
  refine ⟨?_, ?_, ?_, ?_⟩
  · exact fprintf_bytes _ _ (by decide) (by simp)
  · exact fprintf_bytes _ _ (by decide) (by simp)
  · exact fprintf_bytes _ _ (by decide) (by simp)
  · rintro c ⟨i, -, printed⟩
    exact fprintf_bytes _ _ (by decide) (by simp) c printed

/-! ## The records of the table -/

section Exported
variable (config : BenchConfig) (metrics : FinalMetrics) (connStatsArray : ℕ → ConnStats)
  (numConnections : Int)

def tableText : List Char :=
  exportComments config ++ (exportSummaryTable metrics ++
    exportDetailTable connStatsArray numConnections)

theorem tableRecords_tableText :
    tableRecords (tableText config metrics connStatsArray numConnections) =
      recordsOf ((targetComment config).splitOn '\n') ++
        (summaryTable metrics ++ detailTable (exportedStats connStatsArray numConnections)) := by
  have before : (commentsBefore config.mode).filterMap TableLine.fields = [] := rfl
  have after : (commentsAfter config).filterMap TableLine.fields = [] := rfl
  have summary : (summaryLines metrics).filterMap TableLine.fields = summaryTable metrics := rfl
  have rows : ((exportedStats connStatsArray numConnections).map connectionRow).filterMap
      TableLine.fields = (exportedStats connStatsArray numConnections).map fun stats =>
        (detailColumns stats).map NumberMember.text := by
    rw [List.filterMap_map]
    exact congrFun List.filterMap_eq_map _
  have details : (detailLines (exportedStats connStatsArray numConnections)).filterMap
      TableLine.fields = detailTable (exportedStats connStatsArray numConnections) :=
    congrArg (detailLabels :: ·) rows
  rw [tableText, exportComments_lines, exportSummaryTable_lines, exportDetailTable_lines,
    List.append_assoc, tableRecords_lines _ (commentsBefore_wellFormed config.mode), before,
    List.nil_append, List.append_assoc, List.cons_append, tableRecords_append,
    tableRecords_lines _ (commentsAfter_wellFormed config), after, List.nil_append,
    tableRecords_lines _ (summaryLines_wellFormed metrics), summary]
  have last := tableRecords_lines _
    (detailLines_wellFormed (exportedStats connStatsArray numConnections)) []
  rw [List.append_nil] at last
  rw [last, details, show tableRecords [] = [] from rfl, List.append_nil]

theorem latin1_tableText :
    latin1 ((tableText config metrics connStatsArray numConnections).map Char.toUInt8) =
      tableText config metrics connStatsArray numConnections := by
  refine latin1_map_toUInt8 _ ?_
  simp only [tableText, List.forall_mem_append]
  exact ⟨exportComments_bytes config, exportSummaryTable_bytes metrics,
    exportDetailTable_bytes connStatsArray numConnections⟩

theorem decodeTable_tableText :
    decodeTable (tableText config metrics connStatsArray numConnections) =
        some (benchReport metrics (exportedStats connStatsArray numConnections)) ↔
      CommentTarget config := by
  have rows : (summaryTable metrics).length = summaryLabels.length + 1 := rfl
  rw [decodeTable, tableRecords_tableText]
  constructor
  · intro decoded
    obtain ⟨summary, -, decoded⟩ := Option.bind_eq_some_iff.mp decoded
    obtain ⟨details, read, decoded⟩ := Option.bind_eq_some_iff.mp decoded
    cases decoded
    -- a record more than those of the report would be one detail too many
    have length := length_decodeDetailTable _ _ read
    simp only [List.length_drop, List.length_append, List.length_map, rows, detailTable,
      List.length_cons] at length
    exact (recordsOf_eq_nil_iff _).mp (List.length_eq_zero_iff.mp (by omega))
  · intro comments
    rw [(recordsOf_eq_nil_iff _).mpr comments, List.nil_append, ← rows, List.take_left,
      List.drop_left, decodeSummaryTable_summaryTable, decodeDetailTable_detailTable]
    rfl

theorem commentTarget_of_plain (plain : PlainTarget config.targetIp.string) :
    CommentTarget config := by
  obtain ⟨text, encoded, plain⟩ := plain
  have target : '\n' ∉ latin1 config.targetIp.string := by
    intro among
    obtain ⟨byte, inTarget, lineBreak⟩ := List.mem_map.mp among
    have code : byte = 10 := by
      rw [← UInt8.toUInt8_toUInt32 byte]
      exact congrArg Char.toUInt8 lineBreak
    rw [← encoded, code] at inTarget
    obtain ⟨c, inText, stored, ascii⟩ := mem_utf8_ascii text 10 (by decide) inTarget
    have visible := List.all_eq_true.mp plain c inText
    have small : c.toNat % 256 = 10 := congrArg UInt8.toNat stored
    simp only [isPlain, Bool.and_eq_true, decide_eq_true_eq] at visible
    omega
  have port := (notBreak_number _ _ (decimal_number config.targetPort.toUInt32.toNat)).2
  have unbroken : '\n' ∉ targetComment config := by
    simp only [targetComment, List.mem_append, List.mem_cons, not_or]
    exact ⟨by decide, target, by decide, port⟩
  intro line among
  rw [List.splitOn_eq_singleton unbroken, List.mem_singleton] at among
  rw [among]
  rfl

theorem numbersOf_members (members : List NumberMember)
    (distinct : (members.map NumberMember.name).Nodup) :
    numbersOf (members.map NumberMember.name) (.obj (members.map NumberMember.json)) =
      some (members.map NumberMember.value) := by
  rw [numbersOf, List.mapM_map]
  exact mapM_eq_some_map _ _ _ (numberMember_obj members distinct)

theorem decodeDetails_detailJson (stats : List ConnStats) :
    decodeDetails (.arr (stats.map detailJson)) = some (stats.map detailReport) := by
  rw [decodeDetails, List.mapM_map]
  refine mapM_eq_some_map _ _ _ fun stats _ => ?_
  have numbers : numbersOf detailNames (detailJson stats) =
      some ((detailMembers stats).map NumberMember.value) :=
    numbersOf_members (detailMembers stats) (detailMembers_distinct stats)
  show (numbersOf detailNames (detailJson stats)).bind DetailReport.ofNumbers = _
  rw [numbers]
  rfl

theorem decodeDocument_exportedJson (target : List Char) (stats : List ConnStats) :
    decodeDocument (exportedJson config target metrics stats) =
      some (benchReport metrics stats) := by
  have distinct : ((summaryMembers metrics).map NumberMember.name).Nodup := by
    have spelled : ((summaryMembers FinalMetrics.idle).map NumberMember.chars).Nodup := by decide
    exact nodup_names _ spelled
  have summary : member "summary_metrics" (exportedJson config target metrics stats) =
      some (.obj ((summaryMembers metrics).map NumberMember.json)) := by
    simp [member, exportedJson, List.lookup_cons]
  have details : member "connection_details" (exportedJson config target metrics stats) =
      some (.arr (stats.map detailJson)) := by
    simp [member, exportedJson]
  have numbers : numbersOf summaryNames (.obj ((summaryMembers metrics).map NumberMember.json)) =
      some ((summaryMembers metrics).map NumberMember.value) :=
    numbersOf_members (summaryMembers metrics) distinct
  rw [decodeDocument, summary, details, Option.bind_some, Option.bind_some, numbers,
    decodeDetails_detailJson]
  rfl

theorem readDocument_plain (plain : PlainTarget config.targetIp.string) :
    ∃ text, (exportMetricsJson true config metrics connStatsArray numConnections).2.bind
        readDocument =
      some (exportedJson config text metrics (exportedStats connStatsArray numConnections)) := by
  obtain ⟨text, encoded, plain⟩ := plain
  obtain ⟨file, written, parses⟩ := readDocument_exported config metrics connStatsArray
    numConnections text encoded
  have lexes := (lexes_headText config.mode).append ((lexes_target text plain).append
    (lexes_tailText config metrics connStatsArray numConnections))
  refine ⟨text, ?_⟩
  rw [written, Option.bind_some, parses]
  refine parse_of_lexes _ _ ?_
  rw [tokens_exportedJson]
  simpa only [List.append_assoc, List.cons_append, List.nil_append] using lexes

/-- The table says what the connections and the metrics are exactly if the target stays
within comments, and where the document can be read it says the same. -/
theorem exports_report :
    ((exportMetricsCsv true config metrics connStatsArray numConnections).2.bind
          (fun file => decodeTable (latin1 file)) =
        some (benchReport metrics (exportedStats connStatsArray numConnections)) ↔
      CommentTarget config) ∧
    (PlainTarget config.targetIp.string →
      CommentTarget config ∧
        ((exportMetricsJson true config metrics connStatsArray numConnections).2.bind
            readDocument).bind decodeDocument =
          some (benchReport metrics (exportedStats connStatsArray numConnections))) := by
  constructor
  · have file : (exportMetricsCsv true config metrics connStatsArray numConnections).2 =
        some ((tableText config metrics connStatsArray numConnections).map Char.toUInt8) := rfl
    rw [file, Option.bind_some, latin1_tableText]
    exact decodeTable_tableText config metrics connStatsArray numConnections
  · intro plain
    obtain ⟨text, read⟩ := readDocument_plain config metrics connStatsArray numConnections plain
    rw [read, Option.bind_some, decodeDocument_exportedJson]
    exact ⟨commentTarget_of_plain config plain, rfl⟩

end Exported

theorem named_target_reported :
    ∃ config, parseOptions (initConfig 0 0 1) namedOptions = .ok config ∧
      (exportMetricsCsv true config unlikeMetrics unlikeStats 2).2.bind
          (fun file => decodeTable (latin1 file)) =
        some (benchReport unlikeMetrics [unlikeStats 0, unlikeStats 1]) ∧
      ((exportMetricsJson true config unlikeMetrics unlikeStats 2).2.bind readDocument).bind
          decodeDocument =
        some (benchReport unlikeMetrics [unlikeStats 0, unlikeStats 1]) := by
  obtain ⟨config, accepted⟩ :
      ∃ config, parseOptions (initConfig 0 0 1) namedOptions = .ok config := ⟨_, rfl⟩
  have target : utf8 ['b', 'ü', 'r', 'o'] = config.targetIp.string := by
    rw [targetIp_parseOptions _ config namedOptions accepted (ascii "127.0.0.1")
      (StringArray.string_holding _)]
    decide
  refine ⟨config, accepted, ?_⟩
  obtain ⟨table, document⟩ := exports_report config unlikeMetrics unlikeStats 2
  obtain ⟨comment, read⟩ := document ⟨['b', 'ü', 'r', 'o'], target, by decide⟩
  exact ⟨table.mpr comment, read⟩

end TlshubEbpf.Bench
