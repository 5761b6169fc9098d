import TlshubEbpf.Bench.Export
import TlshubEbpf.Lib.JsonStrings
import TlshubEbpf.Lib.Utf8

/-! # What the exported document says

The numbers of the document come back whatever they are.  The target stands between
quotes as it was given, so that it comes back only if it is plain UTF-8. -/

set_option autoImplicit false

namespace TlshubEbpf.Bench

open Lib Json

/-! ## Reading -/

def readDocument (file : List UInt8) : Option Json := (decodeUtf8 file).bind parse

structure DetailOf (item : Json) (stats : ConnStats) : Prop where
  connId : numberMember "conn_id" item = some (stats.connId : ℚ)
  state : numberMember "state" item = some (stats.state.code : ℚ)
  bytesSent : numberMember "bytes_sent" item = some (stats.bytesSent.toNat : ℚ)
  bytesReceived : numberMember "bytes_received" item = some (stats.bytesReceived.toNat : ℚ)

section Describes
variable (config : BenchConfig) (metrics : FinalMetrics) (connStatsArray : ℕ → ConnStats)
  (numConnections : Int)

def exportedStats : List ConnStats := (List.range numConnections.toNat).map connStatsArray

structure Describes (document : Json) : Prop where
  targetIp : ∃ text : String,
    (member "test_configuration" document).bind (member "target_ip") = some (.str text) ∧
      utf8 text.toList = config.targetIp.string
  details : ∃ items, member "connection_details" document = some (.arr items) ∧
    List.Forall₂ DetailOf items (exportedStats connStatsArray numConnections)

def ExportsFaithfully : Prop :=
  ∃ file document,
    (exportMetricsJson true config metrics connStatsArray numConnections).2 = some file ∧
      readDocument file = some document ∧ Describes config connStatsArray numConnections document

end Describes

/-- Valid UTF-8 without quotes, backslashes and control characters. -/
def PlainTarget (target : List UInt8) : Prop :=
  ∃ text, utf8 text = target ∧ text.all isPlain = true

theorem three_digits : 0 < 3 := by decide

def configMembers (config : BenchConfig) : List NumberMember :=
  [.natural "target_port" rfl (.refl true) config.targetPort.toUInt32.toNat,
    .natural "listen_port" rfl (.refl true) config.listenPort.toUInt32.toNat,
    .natural "data_size" rfl (.refl true) config.dataSize.bytes,
    .signed "concurrency" rfl (.refl true) config.concurrency,
    .signed "total_connections" rfl (.refl true) config.totalConnections]

def summaryMembers (metrics : FinalMetrics) : List NumberMember :=
  [.signed "total_connections" rfl (.refl true) metrics.totalConnections,
    .signed "successful_connections" rfl (.refl true) metrics.successfulConnections,
    .signed "failed_connections" rfl (.refl true) metrics.failedConnections,
    .signed "timeout_connections" rfl (.refl true) metrics.timeoutConnections,
    .natural "total_bytes_sent" rfl (.refl true) metrics.totalBytesSent.toNat,
    .natural "total_bytes_received" rfl (.refl true) metrics.totalBytesReceived.toNat,
    .fixed "avg_connection_latency_ms" rfl (.refl true) 3 three_digits metrics.avgConnectionLatencyMs,
    .fixed "min_connection_latency_ms" rfl (.refl true) 3 three_digits metrics.minConnectionLatencyMs,
    .fixed "max_connection_latency_ms" rfl (.refl true) 3 three_digits metrics.maxConnectionLatencyMs,
    .fixed "avg_throughput_mbps" rfl (.refl true) 3 three_digits metrics.avgThroughputMbps,
    .fixed "total_test_duration_sec" rfl (.refl true) 3 three_digits metrics.totalTestDurationSec,
    .fixed "cpu_usage_percent" rfl (.refl true) 2 Nat.two_pos metrics.cpuUsagePercent,
    .fixed "memory_usage_mb" rfl (.refl true) 2 Nat.two_pos metrics.memoryUsageMb]

def detailMembers (stats : ConnStats) : List NumberMember :=
  [.signed "conn_id" rfl (.refl true) stats.connId,
    .signed "state" rfl (.refl true) stats.state.code,
    .natural "bytes_sent" rfl (.refl true) stats.bytesSent.toNat,
    .natural "bytes_received" rfl (.refl true) stats.bytesReceived.toNat,
    .fixed "connection_latency_ms" rfl (.refl true) 3 three_digits stats.connectionLatencyMs,
    .fixed "data_transfer_time_ms" rfl (.refl true) 3 three_digits stats.dataTransferTimeMs,
    .fixed "throughput_mbps" rfl (.refl true) 3 three_digits stats.throughputMbps]

def configJson (config : BenchConfig) (target : List Char) : Json :=
  .obj (("mode", .str (String.ofList config.mode.name)) ::
    ("target_ip", .str (String.ofList target)) :: (configMembers config).map NumberMember.json)

def detailJson (stats : ConnStats) : Json := .obj ((detailMembers stats).map NumberMember.json)

def exportedJson (config : BenchConfig) (target : List Char) (metrics : FinalMetrics)
    (stats : List ConnStats) : Json :=
  .obj
    [("test_configuration", configJson config target),
      ("summary_metrics", .obj ((summaryMembers metrics).map NumberMember.json)),
      ("connection_details", .arr (stats.map detailJson))]

theorem detailMembers_distinct (stats : ConnStats) :
    ((detailMembers stats).map NumberMember.name).Nodup := by
  have distinct : ((detailMembers ConnStats.zeroed).map NumberMember.chars).Nodup := by decide
  exact nodup_names _ distinct

theorem detailOf_detailJson (stats : ConnStats) : DetailOf (detailJson stats) stats := by
  have finds := numberMember_obj (detailMembers stats) (detailMembers_distinct stats)
  simp only [detailMembers, List.forall_mem_cons] at finds
  obtain ⟨connId, state, sent, received, -⟩ := finds
  exact ⟨connId, state, sent, received⟩

theorem target_configJson (config : BenchConfig) (target : List Char) :
    member "target_ip" (configJson config target) = some (.str (String.ofList target)) := by
  simp [member, configJson, configMembers, NumberMember.json, NumberMember.natural,
    NumberMember.signed, List.lookup_cons]

theorem describes_exportedJson (config : BenchConfig) (target : List Char)
    (metrics : FinalMetrics) (connStatsArray : ℕ → ConnStats) (numConnections : Int)
    (encoded : utf8 target = config.targetIp.string) :
    Describes config connStatsArray numConnections
      (exportedJson config target metrics (exportedStats connStatsArray numConnections)) := by
  constructor
  · have configuration : member "test_configuration" (exportedJson config target metrics
        (exportedStats connStatsArray numConnections)) = some (configJson config target) := by
      simp [member, exportedJson, List.lookup_cons]
    refine ⟨String.ofList target, ?_, ?_⟩
    · rw [configuration, Option.bind_some, target_configJson]
    · rw [String.toList_ofList, encoded]
  · refine ⟨(exportedStats connStatsArray numConnections).map detailJson, ?_, ?_⟩
    · simp [member, exportedJson]
    · rw [List.forall₂_map_left_iff, List.forall₂_same]
      exact fun stats _ => detailOf_detailJson stats

def headText (mode : BenchMode) : List Char :=
  fprintf "\x7b\n" [] ++ (fprintf "  \"test_configuration\": \x7b\n" [] ++
    fprintf "    \"mode\": \"%s\",\n" [.s mode.name])

def targetPrefix : List Char :=
  [' ', ' ', ' ', ' ', '"', 't', 'a', 'r', 'g', 'e', 't', '_', 'i', 'p', '"', ':', ' ', '"']

theorem targetLine (text : List Char) :
    fprintf "    \"target_ip\": \"%s\",\n" [.s text] =
      targetPrefix ++ (text ++ ['"', ',', '\n']) := by
  rw [fprintf_ofList]
  rfl

def tailText (config : BenchConfig) (metrics : FinalMetrics) (connStatsArray : ℕ → ConnStats)
    (numConnections : Int) : List Char :=
  (memberLines 4 (configMembers config)).flatten ++ (fprintf "  \x7d,\n" [] ++
    (exportSummary metrics ++ exportDetails connStatsArray numConnections))

theorem memberLines_config (config : BenchConfig) :
    memberLines 4 (configMembers config) =
      [fprintf "    \"target_port\": %u,\n" [.u config.targetPort.toUInt32],
        fprintf "    \"listen_port\": %u,\n" [.u config.listenPort.toUInt32],
        fprintf "    \"data_size\": %zu,\n" [.zu config.dataSize.bytes],
        fprintf "    \"concurrency\": %d,\n" [.d config.concurrency],
        fprintf "    \"total_connections\": %d\n" [.d config.totalConnections]] := by
  repeat rw [fprintf_ofList]
  rfl

theorem exportConfiguration_lines (config : BenchConfig) :
    exportConfiguration config =
      headText config.mode ++ (fprintf "    \"target_ip\": \"%s\",\n"
        [.s (latin1 config.targetIp.string)] ++
          ((memberLines 4 (configMembers config)).flatten ++ fprintf "  \x7d,\n" [])) := by
  rw [memberLines_config, exportConfiguration, headText]
  simp only [List.flatten_cons, List.flatten_nil, List.append_nil, List.append_assoc]

theorem exportSummary_lines (metrics : FinalMetrics) :
    exportSummary metrics =
      fprintf "  \"summary_metrics\": \x7b\n" [] ++
        (memberLines 4 (summaryMembers metrics) ++ [fprintf "  \x7d,\n" []]).flatten := by
  rw [exportSummary]
  repeat rw [fprintf_ofList]
  rfl

theorem exportConnection_lines (stats : ConnStats) (more : Bool) :
    exportConnection stats more =
      fprintf "    \x7b\n" [] ++ (memberLines 6 (detailMembers stats) ++
        [fprintf "    \x7d%s\n" [.s (if more then [','] else [])]]).flatten := by
  rw [exportConnection]
  repeat rw [fprintf_ofList]
  rfl

theorem exportMetricsJson_bytes (config : BenchConfig) (metrics : FinalMetrics)
    (connStatsArray : ℕ → ConnStats) (numConnections : Int) :
    (exportMetricsJson true config metrics connStatsArray numConnections).2 =
      some ((headText config.mode ++ (targetPrefix ++ (latin1 config.targetIp.string ++
        '"' :: ',' :: '\n' :: tailText config metrics connStatsArray numConnections))).map
          Char.toUInt8) := by
  rw [exportMetricsJson, if_pos rfl, exportConfiguration_lines, targetLine, tailText]
  simp only [List.append_assoc, List.cons_append, List.nil_append]

/-! ## Its tokens -/

def headTokens (mode : BenchMode) : List Token :=
  [.openBrace, .str "test_configuration", .colon, .openBrace, .str "mode", .colon,
    .str (String.ofList mode.name), .comma]

def tailTokens (config : BenchConfig) (metrics : FinalMetrics) (stats : List ConnStats) :
    List Token :=
  memberTokens ((configMembers config).map NumberMember.json) ++
    (.closeBrace :: .comma :: .str "summary_metrics" :: .colon ::
      ((Json.obj ((summaryMembers metrics).map NumberMember.json)).tokens ++
        (.comma :: .str "connection_details" :: .colon ::
          ((Json.arr (stats.map detailJson)).tokens ++ [.closeBrace]))))

theorem tokens_exportedJson (config : BenchConfig) (target : List Char) (metrics : FinalMetrics)
    (stats : List ConnStats) :
    (exportedJson config target metrics stats).tokens =
      headTokens config.mode ++ (.str "target_ip" :: .colon :: .str (String.ofList target) ::
        .comma :: tailTokens config metrics stats) := by
  simp only [exportedJson, configJson, headTokens, tailTokens, configMembers, tokens, memberTokens,
    moreMemberTokens, List.map_cons, List.cons_append, List.nil_append, List.append_assoc,
    List.append_nil]

theorem lexes_headText (mode : BenchMode) : Lexes (headText mode) (headTokens mode) := by
  have start : Lexes (fprintf "\x7b\n" []) [.openBrace] := lexes_fprintf _ _ _ fun _ => rfl
  have opening : Lexes (fprintf "  \"test_configuration\": \x7b\n" [])
      [.str "test_configuration", .colon, .openBrace] := lexes_fprintf _ _ _ fun _ => rfl
  have line : Lexes (fprintf "    \"mode\": \"%s\",\n" [.s mode.name])
      [.str "mode", .colon, .str (String.ofList mode.name), .comma] := by
    refine lexes_fprintf _ _ _ ?_
    cases mode with
    | client => exact fun _ => rfl
    | server => exact fun _ => rfl
  exact start.append (opening.append line)

theorem foldl_targetPrefix (before : List Token) :
    targetPrefix.foldl readChar (before, .idle) =
      (.colon :: .str "target_ip" :: before, .string []) := rfl

theorem lexes_target (text : List Char) (plain : text.all isPlain = true) :
    Lexes (targetPrefix ++ (text ++ ['"', ',', '\n']))
      [.str "target_ip", .colon, .str (String.ofList text), .comma] := by
  intro before
  rw [List.foldl_append, foldl_targetPrefix, List.foldl_append, foldl_string text [] _ plain,
    List.append_nil]
  show (_, Mode.idle) = _
  rw [List.reverse_reverse]
  rfl

theorem lexes_exportSummary (metrics : FinalMetrics) :
    Lexes (exportSummary metrics)
      (.str "summary_metrics" :: .colon ::
        ((Json.obj ((summaryMembers metrics).map NumberMember.json)).tokens ++ [.comma])) := by
  have opening : Lexes (fprintf "  \"summary_metrics\": \x7b\n" [])
      [.str "summary_metrics", .colon, .openBrace] := lexes_fprintf _ _ _ fun _ => rfl
  have members := lexes_memberLines 4 (summaryMembers metrics)
  have closing : Lexes (fprintf "  \x7d,\n" []) [.closeBrace, .comma] :=
    lexes_fprintf _ _ _ fun _ => rfl
  have all := opening.append (members.append closing)
  rw [exportSummary_lines, List.flatten_append, List.flatten_singleton, tokens, List.cons_append,
    List.append_assoc]
  exact all

theorem lexes_exportConnection (stats : ConnStats) (more : Bool) :
    Lexes (exportConnection stats more)
      ((detailJson stats).tokens ++ if more then [.comma] else []) := by
  have opening : Lexes (fprintf "    \x7b\n" []) [.openBrace] := lexes_fprintf _ _ _ fun _ => rfl
  have members := lexes_memberLines 6 (detailMembers stats)
  have closing : Lexes (fprintf "    \x7d%s\n" [.s (if more then [','] else [])])
      ([.closeBrace] ++ if more then [.comma] else []) := by
    refine lexes_fprintf _ _ _ ?_
    cases more with
    | true => exact fun _ => rfl
    | false => exact fun _ => rfl
  rw [exportConnection_lines, List.flatten_append, List.flatten_singleton, detailJson, tokens,
    List.cons_append, List.append_assoc]
  exact opening.append (members.append closing)

theorem lexes_exportConnections (connStatsArray : ℕ → ConnStats) (numConnections : Int) :
    Lexes
      ((List.range numConnections.toNat).flatMap fun (i : ℕ) =>
        exportConnection (connStatsArray i) ((i : Int) < numConnections - 1))
      (itemTokens ((exportedStats connStatsArray numConnections).map detailJson)) := by
  rw [exportedStats, List.map_map]
  exact lexes_separated numConnections.toNat (fun i => exportConnection (connStatsArray i)) _
    (fun i => decide ((i : Int) < numConnections - 1))
    (fun i => lexes_exportConnection (connStatsArray i))
    fun i among => decide_eq_decide.mpr (by omega)

theorem lexes_tailText (config : BenchConfig) (metrics : FinalMetrics)
    (connStatsArray : ℕ → ConnStats) (numConnections : Int) :
    Lexes (tailText config metrics connStatsArray numConnections)
      (tailTokens config metrics (exportedStats connStatsArray numConnections)) := by
  have members := lexes_memberLines 4 (configMembers config)
  have closing : Lexes (fprintf "  \x7d,\n" []) [.closeBrace, .comma] :=
    lexes_fprintf _ _ _ fun _ => rfl
  have opening : Lexes (fprintf "  \"connection_details\": [\n" [])
      [.str "connection_details", .colon, .openBracket] := lexes_fprintf _ _ _ fun _ => rfl
  have bracket : Lexes (fprintf "  ]\n" []) [.closeBracket] := lexes_fprintf _ _ _ fun _ => rfl
  have brace : Lexes (fprintf "\x7d\n" []) [.closeBrace] := lexes_fprintf _ _ _ fun _ => rfl
  have all := members.append (closing.append ((lexes_exportSummary metrics).append
    (opening.append ((lexes_exportConnections connStatsArray numConnections).append
      (bracket.append brace)))))
  simpa only [tailText, tailTokens, exportDetails, tokens, List.cons_append, List.nil_append,
    List.append_assoc] using all

def FinalMetrics.idle : FinalMetrics :=
  { initMetrics with totalTestDurationSec := 0, cpuUsagePercent := 0, memoryUsageMb := 0 }

theorem isAscii_fprintf (template : List Char) (args : List PrintfArg)
    (ascii : IsAscii (format template args)) : IsAscii (fprintf (String.ofList template) args) := by
  rw [fprintf_ofList]
  exact ascii

theorem isAscii_headText (mode : BenchMode) : IsAscii (headText mode) := by
  refine (isAscii_fprintf _ _ (by decide)).append
    ((isAscii_fprintf _ _ (by decide)).append (isAscii_fprintf _ _ ?_))
  cases mode with
  | client => decide
  | server => decide

theorem isAscii_exportSummary (metrics : FinalMetrics) : IsAscii (exportSummary metrics) := by
  have names : ∀ name ∈ (summaryMembers FinalMetrics.idle).map NumberMember.chars,
      IsAscii name := by decide
  rw [exportSummary_lines, List.flatten_append, List.flatten_singleton]
  exact (isAscii_fprintf _ _ (by decide)).append
    ((isAscii_memberLines 4 (summaryMembers metrics) names).append
      (isAscii_fprintf _ _ (by decide)))

theorem isAscii_exportConnection (stats : ConnStats) (more : Bool) :
    IsAscii (exportConnection stats more) := by
  have names : ∀ name ∈ (detailMembers ConnStats.zeroed).map NumberMember.chars,
      IsAscii name := by decide
  rw [exportConnection_lines, List.flatten_append, List.flatten_singleton]
  refine (isAscii_fprintf _ _ (by decide)).append
    ((isAscii_memberLines 6 (detailMembers stats) names).append (isAscii_fprintf _ _ ?_))
  cases more with
  | true => decide
  | false => decide

theorem isAscii_tailText (config : BenchConfig) (metrics : FinalMetrics)
    (connStatsArray : ℕ → ConnStats) (numConnections : Int) :
    IsAscii (tailText config metrics connStatsArray numConnections) := by
  have names : ∀ name ∈ (configMembers (initConfig 0 0 0)).map NumberMember.chars,
      IsAscii name := by decide
  have connections : IsAscii ((List.range numConnections.toNat).flatMap fun (i : ℕ) =>
      exportConnection (connStatsArray i) ((i : Int) < numConnections - 1)) := by
    refine IsAscii.flatten _ fun text among => ?_
    obtain ⟨i, -, rfl⟩ := List.mem_map.mp among
    exact isAscii_exportConnection _ _
  exact (isAscii_memberLines 4 (configMembers config) names).append
    ((isAscii_fprintf _ _ (by decide)).append ((isAscii_exportSummary metrics).append
      ((isAscii_fprintf _ _ (by decide)).append (connections.append
        ((isAscii_fprintf _ _ (by decide)).append (isAscii_fprintf _ _ (by decide)))))))

section Exported
variable (config : BenchConfig) (metrics : FinalMetrics) (connStatsArray : ℕ → ConnStats)
  (numConnections : Int)

/-- A target that is valid UTF-8 is read as its text, at its place. -/
theorem readDocument_exported (text : List Char)
    (encoded : utf8 text = config.targetIp.string) :
    ∃ file, (exportMetricsJson true config metrics connStatsArray numConnections).2 = some file ∧
      readDocument file = parse ((headText config.mode ++ targetPrefix) ++ (text ++
        '"' :: ',' :: '\n' :: tailText config metrics connStatsArray numConnections)) := by
  refine ⟨_, exportMetricsJson_bytes config metrics connStatsArray numConnections, ?_⟩
  have head := isAscii_headText config.mode
  have opening : IsAscii targetPrefix := by decide
  have quote : IsAscii ['"', ',', '\n'] := by decide
  have closing : IsAscii ('"' :: ',' :: '\n' ::
      tailText config metrics connStatsArray numConnections) :=
    quote.append (isAscii_tailText config metrics connStatsArray numConnections)
  have bytes : (headText config.mode ++ (targetPrefix ++ (latin1 config.targetIp.string ++
      '"' :: ',' :: '\n' :: tailText config metrics connStatsArray numConnections))).map
        Char.toUInt8 =
      utf8 ((headText config.mode ++ targetPrefix) ++ (text ++
        '"' :: ',' :: '\n' :: tailText config metrics connStatsArray numConnections)) := by
    rw [utf8_append, utf8_append, utf8_append, utf8_ascii _ head, utf8_ascii _ opening,
      utf8_ascii _ closing, encoded]
    simp only [List.map_append, map_toUInt8_latin1, List.append_assoc]
  rw [bytes, readDocument, decodeUtf8_utf8, Option.bind_some]

theorem isPlain_tailTokens (stats : List ConnStats) (text : String)
    (among : .str text ∈ tailTokens config metrics stats) : text.toList.all isPlain = true := by
  simp only [tailTokens, tokens, List.mem_append, List.mem_cons, reduceCtorEq, false_or,
    Token.str.injEq, List.not_mem_nil, or_false] at among
  rcases among with inConfig | rfl | inSummary | rfl | inDetails
  · exact isPlain_numberMembers _ text inConfig
  · decide
  · exact isPlain_numberMembers _ text inSummary
  · decide
  · obtain ⟨value, inStats, inside⟩ := str_mem_itemTokens text _ inDetails
    obtain ⟨detail, -, rfl⟩ := List.mem_map.mp inStats
    simp only [detailJson, tokens, List.mem_append, List.mem_cons, reduceCtorEq, false_or,
      List.not_mem_nil, or_false] at inside
    exact isPlain_numberMembers _ text inside

theorem isPlain_headTokens (mode : BenchMode) (text : String)
    (among : .str text ∈ headTokens mode) : text.toList.all isPlain = true := by
  simp only [headTokens, List.mem_cons, reduceCtorEq, false_or, Token.str.injEq,
    List.not_mem_nil, or_false] at among
  rcases among with rfl | rfl | rfl
  · decide
  · decide
  · rw [String.toList_ofList]
    cases mode with
    | client => decide
    | server => decide

theorem exportsFaithfully_iff_plain :
    ExportsFaithfully config metrics connStatsArray numConnections ↔
      PlainTarget config.targetIp.string := by
  constructor
  · rintro ⟨file, document, written, read, describes⟩
    obtain ⟨text, found, encoded⟩ := describes.targetIp
    obtain ⟨_, written', parses⟩ := readDocument_exported config metrics connStatsArray
      numConnections text.toList encoded
    cases written.symm.trans written'
    obtain ⟨configuration, inDocument, inConfiguration⟩ := Option.bind_eq_some_iff.mp found
    have inside : configuration.HasString text :=
      hasString_of_member text "target_ip" _ configuration inConfiguration .str
    have contains : document.HasString text :=
      hasString_of_member text "test_configuration" configuration document inDocument inside
    have opens : (headText config.mode ++ targetPrefix).foldl readChar ([], .idle) =
        (.colon :: .str "target_ip" :: (headTokens config.mode).reverse, .string []) := by
      rw [List.foldl_append, lexes_headText, foldl_targetPrefix, List.append_nil]
    refine ⟨text.toList, encoded, isPlain_of_hasString _ _ _ _ _ opens
      (lexes_tailText config metrics connStatsArray numConnections) ?_ document
      (parses.symm.trans read) (String.ofList_toList.symm ▸ contains)⟩
    intro other among
    simp only [List.cons_append, List.mem_cons, reduceCtorEq, false_or, Token.str.injEq,
      List.mem_append, List.mem_reverse] at among
    rcases among with rfl | inHead | inTail
    · decide
    · exact isPlain_headTokens config.mode other inHead
    · exact isPlain_tailTokens config metrics _ other inTail
  · rintro ⟨text, encoded, plain⟩
    obtain ⟨file, written, parses⟩ := readDocument_exported config metrics connStatsArray
      numConnections text encoded
    have lexes := (lexes_headText config.mode).append ((lexes_target text plain).append
      (lexes_tailText config metrics connStatsArray numConnections))
    have parsed : parse ((headText config.mode ++ targetPrefix) ++ (text ++
        '"' :: ',' :: '\n' :: tailText config metrics connStatsArray numConnections)) =
      some (exportedJson config text metrics
        (exportedStats connStatsArray numConnections)) := by
      refine parse_of_lexes _ _ ?_
      rw [tokens_exportedJson]
      simpa only [List.append_assoc, List.cons_append, List.nil_append] using lexes
    exact ⟨file, _, written, parses.trans parsed,
      describes_exportedJson config text metrics connStatsArray numConnections encoded⟩

end Exported

/-- Whatever the options are, the export is faithful exactly if the target that they
configure is plain. -/
theorem exportsFaithfully_iff (jsonTime csvTime pid : ℤ) (options : List CommandOption)
    (config : BenchConfig)
    (accepted : parseOptions (initConfig jsonTime csvTime pid) options = .ok config)
    (metrics : FinalMetrics) (connStatsArray : ℕ → ConnStats) (numConnections : Int) :
    ExportsFaithfully config metrics connStatsArray numConnections ↔
      PlainTarget (configuredTarget options) := by
  have target := targetIp_parseOptions _ config options accepted (ascii "127.0.0.1")
    (StringArray.string_holding _)
  rw [exportsFaithfully_iff_plain, target, configuredTarget]

def namedOptions : List CommandOption :=
  [.targetIp (ascii "gate"), .totalConnections (ascii "2"), .targetIp (utf8 ['b', 'ü', 'r', 'o'])]

def unlikeStats : ℕ → ConnStats
  | 0 =>
      { ConnStats.zeroed with
        connId := 1
        state := .closed
        bytesSent := 7
        bytesReceived := 9
        connectionLatencyMs := 3 / 2
        throughputMbps := 1 / 3 }
  | _ => { ConnStats.zeroed with connId := 2, state := .failed }

def unlikeMetrics : FinalMetrics :=
  { FinalMetrics.idle with
    avgConnectionLatencyMs := 3 / 2
    maxConnectionLatencyMs := 3 / 2
    memoryUsageMb := 5 / 4 }

theorem named_target_exported :
    ∃ config, parseOptions (initConfig 0 0 1) namedOptions = .ok config ∧
      ExportsFaithfully config unlikeMetrics unlikeStats 2 :=
  ⟨_, rfl, (exportsFaithfully_iff 0 0 1 namedOptions _ rfl unlikeMetrics unlikeStats 2).mpr
    ⟨['b', 'ü', 'r', 'o'], by decide, by decide⟩⟩

theorem quoted_target_not_exported :
    ∃ config, parseOptions (initConfig 0 0 1) [.targetIp (ascii "a\"b")] = .ok config ∧
      ¬ ExportsFaithfully config FinalMetrics.idle (fun _ => ConnStats.zeroed) 1 := by
  refine ⟨_, rfl, fun faithful => ?_⟩
  obtain ⟨text, encoded, plain⟩ := (exportsFaithfully_iff_plain _ _ _ _).mp faithful
  have quoted : utf8 ['a', '"', 'b'] = ascii "a\"b" := by decide
  rw [StringArray.string_strncpy] at encoded
  have text_eq : text = ['a', '"', 'b'] := utf8_injective (encoded.trans quoted.symm)
  rw [text_eq] at plain
  exact absurd plain (by decide)

end TlshubEbpf.Bench
