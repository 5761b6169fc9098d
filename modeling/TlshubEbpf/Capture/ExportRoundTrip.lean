import TlshubEbpf.Capture.Export
import TlshubEbpf.Capture.Statistics
import TlshubEbpf.Lib.Json

/-! # What the exported texts say

A document and a table give the fields of a connection by their names.  Both texts
are read into the same tuples, one for each record, in the order of the records. -/

set_option autoImplicit false

namespace TlshubEbpf.Capture

open Lib Json

structure ExportedConnection where
  connectionId : UInt64
  connectionLatencyMs : ℚ
  keyNegotiationMs : ℚ
  bytesSent : UInt64
  bytesReceived : UInt64
  throughputMbps : ℚ
  deriving DecidableEq

def wordOf (value : ℚ) : Option UInt64 :=
  if value.den = 1 ∧ 0 ≤ value.num ∧ value.num < 2 ^ 64 then
    some (UInt64.ofNat value.num.toNat)
  else
    none

def decodeConnection (field : String → Option ℚ) : Option ExportedConnection := do
  let connectionId ← (field "connection_id").bind wordOf
  let connectionLatencyMs ← field "connection_latency_ms"
  let keyNegotiationMs ← field "key_negotiation_ms"
  let bytesSent ← (field "bytes_sent").bind wordOf
  let bytesReceived ← (field "bytes_received").bind wordOf
  let throughputMbps ← field "throughput_mbps"
  some ⟨connectionId, connectionLatencyMs, keyNegotiationMs, bytesSent, bytesReceived,
    throughputMbps⟩

def decodeDocument (document : Json) : Option (List ExportedConnection) :=
  match member "connections" document with
  | some (.arr items) => items.mapM fun item => decodeConnection fun name => numberMember name item
  | _ => none

/-- The fields by the names in the first row. -/
def decodeRow (header row : List (List Char)) : Option ExportedConnection :=
  if row.length = header.length then
    decodeConnection fun name =>
      (((header.map String.ofList).zip row).lookup name).bind readNumber
  else
    none

def decodeTable (text : List Char) : Option (List ExportedConnection) :=
  match tableRows text with
  | [] => none
  | header :: rows => rows.mapM (decodeRow header)

theorem wordOf_toNat (word : UInt64) : wordOf (word.toNat : ℚ) = some word := by
  have bound := word.toNat_lt
  rw [wordOf, Rat.den_natCast, Rat.num_natCast, if_pos ⟨rfl, by omega, by omega⟩,
    Int.toNat_natCast, UInt64.ofNat_toNat]

theorem bind_wordOf (field : Option ℚ) (word : UInt64) (found : field = some (word.toNat : ℚ)) :
    field.bind wordOf = some word := by
  rw [found, Option.bind_some, wordOf_toNat]

def summaryMembers (system : SystemMetrics) (stats : PerformanceStats) : List NumberMember :=
  [.natural "total_connections" rfl rfl stats.totalConnections.toNat,
    .natural "successful_connections" rfl rfl stats.successfulConnections.toNat,
    .natural "failed_connections" rfl rfl stats.failedConnections.toNat,
    .natural "active_connections" rfl rfl system.activeConnections.toNat,
    .fixed "avg_connection_latency_ms" rfl rfl 3 (by decide) stats.avgConnectionLatencyMs,
    .fixed "min_connection_latency_ms" rfl rfl 3 (by decide) stats.minConnectionLatencyMs,
    .fixed "max_connection_latency_ms" rfl rfl 3 (by decide) stats.maxConnectionLatencyMs,
    .fixed "avg_key_negotiation_ms" rfl rfl 3 (by decide) stats.avgKeyNegotiationMs,
    .fixed "min_key_negotiation_ms" rfl rfl 3 (by decide) stats.minKeyNegotiationMs,
    .fixed "max_key_negotiation_ms" rfl rfl 3 (by decide) stats.maxKeyNegotiationMs,
    .fixed "avg_throughput_mbps" rfl rfl 2 (by decide) stats.avgThroughputMbps,
    .fixed "max_throughput_mbps" rfl rfl 2 (by decide) stats.maxThroughputMbps,
    .natural "total_bytes_transferred" rfl rfl stats.totalBytesTransferred.toNat,
    .fixed "cpu_usage_percent" rfl rfl 2 (by decide) stats.avgCpuUsage,
    .natural "memory_usage_kb" rfl rfl stats.avgMemoryUsageKb.toNat]

section RoundTrip
variable (doubles : Doubles)

def exportedConnection (cm : ConnectionMetrics) : ExportedConnection :=
  { connectionId := cm.connectionId
    connectionLatencyMs := roundTo 3 (doubles.nsToMs cm.connectionLatency.durationNs)
    keyNegotiationMs := roundTo 3 (doubles.nsToMs cm.keyNegotiation.durationNs)
    bytesSent := cm.bytesSent
    bytesReceived := cm.bytesReceived
    throughputMbps := roundTo 2 cm.throughputMbps }

def connectionMembers (cm : ConnectionMetrics) : List NumberMember :=
  [.natural "connection_id" rfl rfl cm.connectionId.toNat,
    .fixed "connection_latency_ms" rfl rfl 3 (by decide)
      (doubles.nsToMs cm.connectionLatency.durationNs),
    .fixed "key_negotiation_ms" rfl rfl 3 (by decide)
      (doubles.nsToMs cm.keyNegotiation.durationNs),
    .natural "bytes_sent" rfl rfl cm.bytesSent.toNat,
    .natural "bytes_received" rfl rfl cm.bytesReceived.toNat,
    .fixed "throughput_mbps" rfl rfl 2 (by decide) cm.throughputMbps]

def connectionNames : List (List Char) :=
  (connectionMembers .exact ConnectionMetrics.zeroed).map NumberMember.chars

theorem connectionMembers_chars (cm : ConnectionMetrics) :
    (connectionMembers doubles cm).map NumberMember.chars = connectionNames := rfl

theorem connectionMembers_names (cm : ConnectionMetrics) :
    (connectionMembers doubles cm).map NumberMember.name = connectionNames.map String.ofList := by
  rw [← connectionMembers_chars doubles cm, List.map_map]
  exact List.map_congr_left fun member _ => member.spelled

theorem connectionMembers_distinct (cm : ConnectionMetrics) :
    ((connectionMembers doubles cm).map NumberMember.name).Nodup := by
  have distinct : connectionNames.Nodup := by decide
  exact nodup_names _ distinct

/-- Whoever finds each member under its name decodes the record. -/
theorem decodeConnection_members (cm : ConnectionMetrics) (field : String → Option ℚ)
    (finds : ∀ member ∈ connectionMembers doubles cm, field member.name = some member.value) :
    decodeConnection field = some (exportedConnection doubles cm) := by
  simp only [connectionMembers, List.forall_mem_cons] at finds
  simp only [NumberMember.natural, NumberMember.fixed] at finds
  obtain ⟨connectionId, latency, negotiation, sent, received, throughput, -⟩ := finds
  simp only [decodeConnection, bind_wordOf _ _ connectionId, latency, negotiation,
    bind_wordOf _ _ sent, bind_wordOf _ _ received, throughput, Option.bind_some,
    Option.bind_eq_bind]
  rfl

def connectionJson (cm : ConnectionMetrics) : Json :=
  .obj ((connectionMembers doubles cm).map NumberMember.json)

def summaryJson (system : SystemMetrics) (stats : PerformanceStats) : Json :=
  .obj ((summaryMembers system stats).map NumberMember.json)

def exportedJson (time : ℤ) (ctx : PerfMetricsCtx) : Json :=
  .obj
    [("timestamp", .num time), ("summary", summaryJson ctx.systemMetrics ctx.stats),
      ("connections", .arr (ctx.records.map (connectionJson doubles)))]

theorem decodeConnection_json (cm : ConnectionMetrics) :
    (decodeConnection fun name => numberMember name (connectionJson doubles cm)) =
      some (exportedConnection doubles cm) :=
  decodeConnection_members doubles cm _
    (numberMember_obj (connectionMembers doubles cm) (connectionMembers_distinct doubles cm))

theorem decodeDocument_exportedJson (time : ℤ) (ctx : PerfMetricsCtx) :
    decodeDocument (exportedJson doubles time ctx) =
      some (ctx.records.map (exportedConnection doubles)) := by
  have connections : member "connections" (exportedJson doubles time ctx) =
      some (.arr (ctx.records.map (connectionJson doubles))) := by
    simp [member, exportedJson]
  rw [decodeDocument, connections]
  show (ctx.records.map (connectionJson doubles)).mapM
    (fun item => decodeConnection fun name => numberMember name item) = _
  rw [List.mapM_map]
  simp only [Function.comp_def, decodeConnection_json]
  exact List.mapM_pure

/-! ## The text of the document -/

theorem exportSummary_lines (time : ℤ) (system : SystemMetrics) (stats : PerformanceStats) :
    exportSummary time system stats =
      fprintf "\x7b\n" [] ++ (memberLine 2 (.signed "timestamp" rfl rfl time) [',', '\n'] ++
        (fprintf "  \"summary\": \x7b\n" [] ++
          (memberLines 4 (summaryMembers system stats) ++ [fprintf "  \x7d,\n" []]).flatten)) := by
  rw [exportSummary]
  repeat rw [fprintf_ofList]
  rfl

theorem exportConnection_lines (cm : ConnectionMetrics) (more : Bool) :
    exportConnection doubles cm more =
      fprintf "    \x7b\n" [] ++ (memberLines 6 (connectionMembers doubles cm) ++
        [fprintf "    \x7d%s\n" [.s (if more then [','] else [])]]).flatten := by
  rw [exportConnection]
  repeat rw [fprintf_ofList]
  rfl

theorem lexes_exportSummary (time : ℤ) (system : SystemMetrics) (stats : PerformanceStats) :
    Lexes (exportSummary time system stats)
      (.openBrace :: .str "timestamp" :: .colon :: .num time :: .comma :: .str "summary" ::
        .colon :: ((summaryJson system stats).tokens ++ [.comma])) := by
  have start : Lexes (fprintf "\x7b\n" []) [.openBrace] :=
    lexes_fprintf _ _ _ fun _ => rfl
  have timestamp := lexes_separatedMember 2 (.signed "timestamp" rfl rfl time)
  have opening : Lexes (fprintf "  \"summary\": \x7b\n" [])
      [.str "summary", .colon, .openBrace] :=
    lexes_fprintf _ _ _ fun _ => rfl
  have members := lexes_memberLines 4 (summaryMembers system stats)
  have closing : Lexes (fprintf "  \x7d,\n" []) [.closeBrace, .comma] :=
    lexes_fprintf _ _ _ fun _ => rfl
  have all := start.append (timestamp.append (opening.append (members.append closing)))
  rw [exportSummary_lines, List.flatten_append, List.flatten_singleton, summaryJson, tokens,
    List.cons_append, List.append_assoc]
  exact all

theorem lexes_exportConnection (cm : ConnectionMetrics) (more : Bool) :
    Lexes (exportConnection doubles cm more)
      ((connectionJson doubles cm).tokens ++ if more then [.comma] else []) := by
  have opening : Lexes (fprintf "    \x7b\n" []) [.openBrace] :=
    lexes_fprintf _ _ _ fun _ => rfl
  have members := lexes_memberLines 6 (connectionMembers doubles cm)
  have closing : Lexes (fprintf "    \x7d%s\n" [.s (if more then [','] else [])])
      ([.closeBrace] ++ if more then [.comma] else []) := by
    refine lexes_fprintf _ _ _ ?_
    cases more with
    | true => exact fun _ => rfl
    | false => exact fun _ => rfl
  rw [exportConnection_lines, List.flatten_append, List.flatten_singleton, connectionJson, tokens,
    List.cons_append, List.append_assoc]
  exact opening.append (members.append closing)

/-- The comma follows each element but the last, also where `current - 1` wraps around. -/
theorem lexes_exportConnections (ctx : PerfMetricsCtx) :
    Lexes
      ((List.range ctx.currentConnections.toNat).flatMap fun (i : ℕ) =>
        exportConnection doubles (ctx.connMetrics i)
          (UInt32.ofNat i < ctx.currentConnections - 1))
      (itemTokens (ctx.records.map (connectionJson doubles))) := by
  have bound := ctx.currentConnections.toNat_lt
  have more_iff : ∀ i < ctx.currentConnections.toNat,
      (UInt32.ofNat i < ctx.currentConnections - 1 ↔ i + 1 < ctx.currentConnections.toNat) := by
    intro i among
    have last : (ctx.currentConnections - 1).toNat = ctx.currentConnections.toNat - 1 := by
      rw [UInt32.toNat_sub_of_le _ _ (by rw [UInt32.le_iff_toNat_le]; simp; omega)]
      rfl
    rw [UInt32.lt_iff_toNat_lt, last, UInt32.toNat_ofNat_of_lt' (show i < 2 ^ 32 by omega)]
    omega
  rw [PerfMetricsCtx.records, List.map_map]
  exact lexes_separated ctx.currentConnections.toNat
    (fun i => exportConnection doubles (ctx.connMetrics i)) _
    (fun i => decide (UInt32.ofNat i < ctx.currentConnections - 1))
    (fun i => lexes_exportConnection doubles (ctx.connMetrics i))
    fun i among => decide_eq_decide.mpr (more_iff i among)

theorem parse_exportJson (time : ℤ) (ctx : PerfMetricsCtx) :
    (perfMetricsExportJson doubles true time ctx).file.bind parse =
      some (exportedJson doubles time (perfMetricsCalculateStats doubles ctx)) := by
  have opening : Lexes (fprintf "  \"connections\": [\n" [])
      [.str "connections", .colon, .openBracket] :=
    lexes_fprintf _ _ _ fun _ => rfl
  have bracket : Lexes (fprintf "  ]\n" []) [.closeBracket] := lexes_fprintf _ _ _ fun _ => rfl
  have brace : Lexes (fprintf "\x7d\n" []) [.closeBrace] := lexes_fprintf _ _ _ fun _ => rfl
  have summary := lexes_exportSummary time (perfMetricsCalculateStats doubles ctx).systemMetrics
    (perfMetricsCalculateStats doubles ctx).stats
  have connections := lexes_exportConnections doubles (perfMetricsCalculateStats doubles ctx)
  have all := summary.append (opening.append (connections.append (bracket.append brace)))
  refine parse_of_lexes _ (exportedJson doubles time (perfMetricsCalculateStats doubles ctx)) ?_
  simpa [exportedJson, tokens, memberTokens, moreMemberTokens] using all

theorem exportRow_text (cm : ConnectionMetrics) :
    exportRow doubles cm = rowText ((connectionMembers doubles cm).map NumberMember.text) := by
  rw [exportRow, fprintf_ofList]
  simp only [connectionMembers, NumberMember.natural, NumberMember.fixed, rowText, List.map_cons,
    List.map_nil, List.intercalate_cons_cons, List.intercalate_singleton, List.append_assoc,
    List.cons_append, List.nil_append]
  rfl

theorem exportHeader_text :
    fprintf
        "connection_id,connection_latency_ms,key_negotiation_ms,bytes_sent,bytes_received,throughput_mbps\n"
        [] =
      rowText connectionNames := by
  rw [fprintf_ofList]
  rfl

def tableOf (ctx : PerfMetricsCtx) : List (List (List Char)) :=
  connectionNames ::
    ctx.records.map fun cm => (connectionMembers doubles cm).map NumberMember.text

theorem exportCsv_text (ctx : PerfMetricsCtx) :
    (perfMetricsExportCsv doubles true ctx).file =
      some ((tableOf doubles ctx).flatMap rowText) := by
  simp only [perfMetricsExportCsv, if_pos, exportHeader_text, exportRow_text, tableOf,
    List.flatMap_cons, PerfMetricsCtx.records, List.flatMap_map]

theorem tableOf_fields (ctx : PerfMetricsCtx) :
    ∀ row ∈ tableOf doubles ctx, row ≠ [] ∧ ∀ field ∈ row, ',' ∉ field ∧ '\n' ∉ field := by
  have names : connectionNames ≠ [] ∧
      ∀ field ∈ connectionNames, ',' ∉ field ∧ '\n' ∉ field := by decide
  intro row among
  rcases List.mem_cons.mp among with rfl | later
  · exact names
  · obtain ⟨cm, -, rfl⟩ := List.mem_map.mp later
    refine ⟨List.cons_ne_nil _ _, fun field inRow => ?_⟩
    obtain ⟨member, -, rfl⟩ := List.mem_map.mp inRow
    have chars := member.reads.chars
    exact ⟨fun comma => absurd (chars _ comma) (by decide),
      fun lineBreak => absurd (chars _ lineBreak) (by decide)⟩

theorem decodeRow_members (cm : ConnectionMetrics) :
    decodeRow connectionNames ((connectionMembers doubles cm).map NumberMember.text) =
      some (exportedConnection doubles cm) := by
  have length : ((connectionMembers doubles cm).map NumberMember.text).length =
      connectionNames.length := rfl
  rw [decodeRow, if_pos length, ← connectionMembers_names doubles cm, List.zip_map']
  refine decodeConnection_members doubles cm _ fun member among => ?_
  rw [lookup_map_of_mem NumberMember.name NumberMember.text _
    (connectionMembers_distinct doubles cm) member among, Option.bind_some]
  exact member.reads.reads

theorem decode_exportCsv (ctx : PerfMetricsCtx) :
    (perfMetricsExportCsv doubles true ctx).file.bind decodeTable =
      some (ctx.records.map (exportedConnection doubles)) := by
  have fields := tableOf_fields doubles ctx
  have rows : tableRows ((tableOf doubles ctx).flatMap rowText) = tableOf doubles ctx :=
    tableRows_rowText _ (fun row among => (fields row among).1) fun row among => (fields row among).2
  rw [exportCsv_text, Option.bind_some, decodeTable, rows, tableOf]
  show List.mapM _ _ = _
  rw [List.mapM_map]
  simp only [Function.comp_def, decodeRow_members]
  exact List.mapM_pure

structure ExportsAgree (time : ℤ) (ctx : PerfMetricsCtx) (exported : List ExportedConnection) :
    Prop where
  count : exported.length = ctx.currentConnections.toNat
  record : ∀ i : ℕ, i < ctx.currentConnections.toNat →
    exported[i]? = some (exportedConnection doubles (ctx.connMetrics i))
  document : ∃ document,
    (perfMetricsExportJson doubles true time ctx).file.bind parse = some document ∧
      decodeDocument document = some exported
  table : (perfMetricsExportCsv doubles true ctx).file.bind decodeTable = some exported
  tableNext : (perfMetricsExportCsv doubles true
    (perfMetricsExportJson doubles true time ctx).ctx).file.bind decodeTable = some exported

/-- What is printed of a number is nearest to it. -/
def ExportedConnection.Near (exported : ExportedConnection) (cm : ConnectionMetrics) : Prop :=
  |exported.connectionLatencyMs - doubles.nsToMs cm.connectionLatency.durationNs| ≤
      1 / 2 / 10 ^ 3 ∧
    |exported.keyNegotiationMs - doubles.nsToMs cm.keyNegotiation.durationNs| ≤ 1 / 2 / 10 ^ 3 ∧
      |exported.throughputMbps - cm.throughputMbps| ≤ 1 / 2 / 10 ^ 2

theorem exports_agree (time : ℤ) (ctx : PerfMetricsCtx) :
    ExportsAgree doubles time ctx (ctx.records.map (exportedConnection doubles)) ∧
      ∀ cm ∈ ctx.records, (exportedConnection doubles cm).Near doubles cm := by
  refine ⟨?_, fun cm _ => ⟨roundTo_near 3 _, roundTo_near 3 _, roundTo_near 2 _⟩⟩
  exact
    { count := by simp [PerfMetricsCtx.records]
      record := by
        intro i among
        simp [PerfMetricsCtx.records, among]
      document :=
        ⟨_, parse_exportJson doubles time ctx, decodeDocument_exportedJson doubles time _⟩
      table := decode_exportCsv doubles ctx
      tableNext := decode_exportCsv doubles _ }

end RoundTrip

end TlshubEbpf.Capture
