import Mathlib.Algebra.BigOperators.Ring.Finset
import TlshubEbpf.Bench.CompleteEcho
import TlshubEbpf.Bench.Main
import TlshubEbpf.Bench.OptionOrder

/-! # What a run of the benchmark reports

The summary counts and sums what the details list.  No sum wraps around, since there are
at most 10000 connections of at most 10 MiB each. -/

set_option autoImplicit false

namespace TlshubEbpf.Bench

open Lib

/-- What the system calls promise: `send` takes and `recv` stores no more than was asked for. -/
structure ConnectionScript.Fits (size : DataSize) (script : ConnectionScript) : Prop where
  sends : sendsFit size.bytes 0 script.sends
  recvs : ∀ turn ∈ script.turns, turn.2.count ≤ bufferSize

/-- The statistics of connection number `i` as they are exported. -/
structure Settled (size : DataSize) (i : ℕ) (stats : ConnStats) : Prop where
  connId : stats.connId = i + 1
  state : stats.state = .closed ∨ stats.state = .failed
  bytesSent : stats.state = .closed → stats.bytesSent.toNat = size.bytes
  bytesReceived : stats.state = .closed → stats.bytesReceived.toNat ≤ size.bytes + bufferSize

section Connection
variable (size : DataSize) (script : ConnectionScript)

theorem tcpClientConnect_connId (answers : ConnectAnswers) (stats : ConnStats) :
    (tcpClientConnect answers stats).2.connId = stats.connId := by
  unfold tcpClientConnect
  dsimp only
  split
  · rfl
  · split
    · rfl
    · split
      · rfl
      · rfl

theorem tcpClientSendData_connId (stats final : ConnStats) (ret : Int)
    (ran : tcpClientSendData size script stats = some (ret, final)) :
    final.connId = stats.connId := by
  unfold tcpClientSendData at ran
  dsimp only at ran
  split at ran
  · cases ran
    rfl
  · split at ran
    · cases ran
    · cases ran
      rfl
    · cases ran
      unfold finishSend
      dsimp only
      split
      · rfl
      · rfl

/-- The loop goes on as long as less has come back than was sent, so that the last
`recv` exceeds it by less than the buffer. -/
theorem receiveLoop_keeps (turns : List (PollResult × IoResult)) (stats final : ConnStats)
    (ret : Int) (fits : ∀ turn ∈ turns, turn.2.count ≤ bufferSize)
    (bounded : stats.bytesSent.toNat ≤ 10485760)
    (behind : stats.bytesReceived.toNat ≤ stats.bytesSent.toNat)
    (ran : receiveLoop turns stats = some (ret, final)) :
    final.connId = stats.connId ∧ final.bytesSent = stats.bytesSent ∧
      final.bytesReceived.toNat ≤ stats.bytesSent.toNat + bufferSize := by
  have buffer : bufferSize = 65536 := rfl
  induction turns generalizing stats with
  | nil => cases ran
  | cons turn rest ih =>
      obtain ⟨here, later⟩ := List.forall_mem_cons.mp fits
      obtain ⟨polled, received⟩ := turn
      unfold receiveLoop at ran
      cases polled with
      | interrupted => exact ih stats later bounded behind ran
      | failed =>
          cases ran
          exact ⟨rfl, rfl, by dsimp only; omega⟩
      | timedOut =>
          simp only [pollTurn] at ran
          by_cases less : stats.bytesReceived < stats.bytesSent
          · rw [if_pos less] at ran
            cases ran
            exact ⟨rfl, rfl, by dsimp only; omega⟩
          · rw [if_neg less] at ran
            cases ran
            exact ⟨rfl, rfl, by omega⟩
      | ready =>
          simp only [pollTurn, Option.getD_none] at ran
          cases received with
          | interrupted => exact ih stats later bounded behind ran
          | failed =>
              cases ran
              exact ⟨rfl, rfl, by dsimp only; omega⟩
          | bytes count =>
              have small : count ≤ bufferSize := here
              have sum : (stats.bytesReceived + UInt64.ofNat count).toNat =
                  stats.bytesReceived.toNat + count := by
                rw [UInt64.toNat_add, UInt64.toNat_ofNat']
                omega
              unfold recvTurn at ran
              dsimp only at ran
              by_cases none : count = 0
              · rw [if_pos none] at ran
                cases ran
                exact ⟨rfl, rfl, by omega⟩
              · rw [if_neg none] at ran
                by_cases enough : stats.bytesReceived + UInt64.ofNat count ≥ stats.bytesSent
                · rw [if_pos enough] at ran
                  cases ran
                  exact ⟨rfl, rfl, by dsimp only; omega⟩
                · rw [if_neg enough] at ran
                  have less := UInt64.lt_iff_toNat_lt.mp (UInt64.not_le.mp enough)
                  exact ih { stats with bytesReceived := stats.bytesReceived + UInt64.ofNat count }
                    later bounded less.le ran

theorem tcpClientClose_connId (stats final : ConnStats) (ret : Int)
    (ran : tcpClientClose script stats = some (ret, final)) : final.connId = stats.connId := by
  unfold tcpClientClose at ran
  dsimp only at ran
  split at ran
  · cases ran
  · cases ran
    unfold closeStats
    dsimp only
    split
    · rfl
    · rfl

theorem runSingleConnection_keeps (stats final : ConnStats) (ret : Int)
    (fresh : stats.bytesReceived = 0) (fits : script.Fits size)
    (ran : runSingleConnection size script stats = some (ret, final)) :
    final.connId = stats.connId ∧
      (ret = 0 → final.bytesSent.toNat = size.bytes ∧
        final.bytesReceived.toNat ≤ size.bytes + bufferSize) := by
  have connId := tcpClientConnect_connId script.connect stats
  unfold runSingleConnection at ran
  dsimp only at ran
  cases connected : (tcpClientConnect script.connect stats).1 with
  | false =>
      rw [connected] at ran
      cases ran
      exact ⟨connId, fun zero => (by cases zero)⟩
  | true =>
      obtain ⟨-, -, -, none⟩ := tcpClientConnect_connects script stats connected
      rw [connected] at ran
      simp only [Bool.true_eq_false, if_false] at ran
      obtain ⟨⟨sendRet, sent⟩, sendRan, ran⟩ := Option.bind_eq_some_iff.mp ran
      have sentId := tcpClientSendData_connId size script _ sent sendRet sendRan
      dsimp only at ran
      rcases tcpClientSendData_ends size script _ sent sendRet sendRan with
        ⟨rfl, -⟩ | ⟨rfl, -, totalSent, all, bytesSent, bytesReceived⟩
      · cases ran
        exact ⟨sentId.trans connId, fun zero => (by cases zero)⟩
      · have whole := sendLoop_all size.bytes script.sends 0 totalSent (Nat.zero_le _) fits.sends all
        have bounded := size.bounded
        have sentAll : sent.bytesSent.toNat = size.bytes := by
          rw [bytesSent, whole, UInt64.toNat_ofNat_of_lt' (by unfold UInt64.size; omega)]
        rw [if_neg (Int.lt_irrefl 0)] at ran
        obtain ⟨⟨receiveRet, received⟩, receiveRan, ran⟩ := Option.bind_eq_some_iff.mp ran
        dsimp only at ran
        obtain ⟨receivedId, sameSent, within⟩ :=
          receiveLoop_keeps script.turns { sent with state := .receiving }
            received receiveRet fits.recvs (by dsimp only; omega)
            (by dsimp only; rw [bytesReceived, none, fresh]; exact Nat.zero_le _) receiveRan
        have id := receivedId.trans (sentId.trans connId)
        by_cases failed : receiveRet < 0
        · rw [if_pos failed] at ran
          cases ran
          exact ⟨id, fun zero => (by cases zero)⟩
        · rw [if_neg failed] at ran
          obtain ⟨⟨closeRet, closed⟩, closeRan, ran⟩ := Option.bind_eq_some_iff.mp ran
          have closedId := tcpClientClose_connId script received closed closeRet closeRan
          obtain ⟨keptSent, keptReceived⟩ := tcpClientClose_keeps script received closed closeRet closeRan
          obtain ⟨rfl, -⟩ := tcpClientClose_closes script received closed closeRet closeRan
          dsimp only at ran within sameSent
          rw [if_neg (Int.lt_irrefl 0)] at ran
          cases ran
          refine ⟨closedId.trans id, fun _ => ⟨?_, ?_⟩⟩
          · rw [keptSent, sameSent, sentAll]
          · rw [keptReceived]
            omega

theorem settled_connection (i : ℕ) (final : ConnStats) (ret : Int) (fits : script.Fits size)
    (ran : runSingleConnection size script (freshStats i) = some (ret, final)) :
    Settled size i (settledStats ret final) := by
  obtain ⟨connId, sentAll⟩ := runSingleConnection_keeps size script (freshStats i) final ret rfl fits
    ran
  have ends := runSingleConnection_ends size script (freshStats i) final ret rfl ran
  unfold settledStats
  rcases ends with ⟨rfl, closed, -⟩ | ⟨rfl, -, -⟩ | ⟨rfl, -, -⟩
  · exact ⟨connId, Or.inl closed, fun _ => (sentAll rfl).1, fun _ => (sentAll rfl).2⟩
  · exact ⟨connId, Or.inr rfl, fun closed => (by cases closed), fun closed => (by cases closed)⟩
  · exact ⟨connId, Or.inr rfl, fun closed => (by cases closed), fun closed => (by cases closed)⟩

end Connection

section Runs
variable (size : DataSize)

theorem runConnections_foldl (scripts : List ConnectionScript) (i : ℕ)
    (start metrics : GlobalMetrics) (exported : List ConnStats)
    (ran : runConnections size i scripts start = some (metrics, exported)) :
    metrics = exported.foldl updateMetrics start ∧ exported.length = scripts.length := by
  induction scripts generalizing i start exported with
  | nil =>
      cases ran
      exact ⟨rfl, rfl⟩
  | cons script rest ih =>
      obtain ⟨ret, stats, later, -, -, rfl, others⟩ :=
        runConnections_cons size i script rest start metrics exported ran
      obtain ⟨folded, length⟩ := ih (i + 1) _ later others
      exact ⟨folded, congrArg (· + 1) length⟩

theorem runConnections_settled (scripts : List ConnectionScript) (i : ℕ)
    (start metrics : GlobalMetrics) (exported : List ConnStats)
    (fits : ∀ script ∈ scripts, script.Fits size)
    (ran : runConnections size i scripts start = some (metrics, exported)) :
    List.Forall₂ (Settled size) (List.range' i scripts.length) exported := by
  induction scripts generalizing i start exported with
  | nil =>
      cases ran
      exact .nil
  | cons script rest ih =>
      obtain ⟨here, laterFits⟩ := List.forall_mem_cons.mp fits
      unfold runConnections at ran
      obtain ⟨⟨ret, stats⟩, first, ran⟩ := Option.bind_eq_some_iff.mp ran
      dsimp only at ran
      obtain ⟨⟨metrics', later⟩, others, ran⟩ := Option.bind_eq_some_iff.mp ran
      cases ran
      exact .cons (settled_connection size script i stats ret here first)
        (ih (i + 1) _ later laterFits others)

end Runs

/-! ## The counters and the sums -/

section Results
variable (results : List ConnStats)

def unsuccessful : List ConnStats := results.filter fun stats => decide (stats.state = .failed)

theorem counts_updates (known : ∀ stats ∈ results, stats.state = .closed ∨ stats.state = .failed)
    (metrics : GlobalMetrics) :
    (results.foldl updateMetrics metrics).counts =
      (metrics.totalConnections + results.length,
        metrics.successfulConnections + (successful results).length,
        metrics.failedConnections + (unsuccessful results).length, metrics.timeoutConnections) := by
  induction results generalizing metrics with
  | nil => simp [successful, unsuccessful, GlobalMetrics.counts]
  | cons stats rest ih =>
      obtain ⟨here, later⟩ := List.forall_mem_cons.mp known
      rw [List.foldl_cons, ih later]
      rcases here with closed | failed
      · have counted := updateMetrics_closed metrics stats closed
        simp only [GlobalMetrics.counts, Prod.mk.injEq] at counted
        simp [counted, successful, unsuccessful, closed]
        omega
      · have counted := updateMetrics_failed metrics stats failed
        simp only [GlobalMetrics.counts, Prod.mk.injEq] at counted
        simp [counted, successful, unsuccessful, failed]
        omega

def wordSample (field : ConnStats → UInt64) (stats : ConnStats) : Option UInt64 :=
  if stats.state = .closed then some (field stats) else none

theorem filterMap_wordSample (field : ConnStats → UInt64) :
    results.filterMap (wordSample field) = (successful results).map field := by
  induction results with
  | nil => rfl
  | cons stats rest ih =>
      rw [successful] at ih ⊢
      by_cases closed : stats.state = .closed
      · simp [wordSample, closed, ih]
      · simp [wordSample, closed, ih]

theorem totalBytes_updateMetrics (metrics : GlobalMetrics) (stats : ConnStats) :
    (updateMetrics metrics stats).totalBytesSent =
        (wordSample (·.bytesSent) stats).elim metrics.totalBytesSent (metrics.totalBytesSent + ·) ∧
      (updateMetrics metrics stats).totalBytesReceived =
        (wordSample (·.bytesReceived) stats).elim metrics.totalBytesReceived
          (metrics.totalBytesReceived + ·) := by
  unfold updateMetrics wordSample
  dsimp only
  by_cases closed : stats.state = .closed
  · rw [if_pos closed, if_pos closed, if_pos closed]
    unfold updateThroughput updateLatency
    split <;> split <;> exact ⟨rfl, rfl⟩
  · rw [if_neg closed, if_neg closed, if_neg closed]
    split
    · exact ⟨rfl, rfl⟩
    · split <;> exact ⟨rfl, rfl⟩

theorem totalBytes_updates :
    (results.foldl updateMetrics initMetrics).totalBytesSent =
        ((successful results).map (·.bytesSent)).foldl (· + ·) 0 ∧
      (results.foldl updateMetrics initMetrics).totalBytesReceived =
        ((successful results).map (·.bytesReceived)).foldl (· + ·) 0 := by
  constructor
  · rw [view_foldl updateMetrics GlobalMetrics.totalBytesSent (wordSample (·.bytesSent)) (· + ·)
      (fun metrics stats => (totalBytes_updateMetrics metrics stats).1), filterMap_wordSample]
    rfl
  · rw [view_foldl updateMetrics GlobalMetrics.totalBytesReceived (wordSample (·.bytesReceived))
      (· + ·) (fun metrics stats => (totalBytes_updateMetrics metrics stats).2),
      filterMap_wordSample]
    rfl

/-- No more than the bound from each of at most 10000 connections. -/
theorem sum_words (field : ConnStats → UInt64) (bound : ℕ) (small : bound ≤ 2 ^ 40)
    (few : results.length ≤ 10000)
    (within : ∀ stats ∈ successful results, (field stats).toNat ≤ bound) :
    (((successful results).map field).foldl (· + ·) 0).toNat =
      ((successful results).map fun stats => (field stats).toNat).sum := by
  have fewer : (successful results).length ≤ 10000 :=
    (List.length_filter_le _ results).trans few
  have sums : (((successful results).map field).map UInt64.toNat).sum ≤
      (((successful results).map field).map UInt64.toNat).length • bound := by
    refine List.sum_le_card_nsmul _ bound fun value among => ?_
    obtain ⟨word, inWords, rfl⟩ := List.mem_map.mp among
    obtain ⟨stats, inResults, rfl⟩ := List.mem_map.mp inWords
    exact within stats inResults
  have total : (((successful results).map field).map UInt64.toNat).sum < 2 ^ 64 := by
    refine Nat.lt_of_le_of_lt sums ?_
    rw [nsmul_eq_mul, Nat.cast_id, List.length_map, List.length_map]
    calc (successful results).length * bound ≤ 10000 * 2 ^ 40 := Nat.mul_le_mul fewer small
      _ < 2 ^ 64 := by decide
  rw [toNat_foldl_add _ 0 (by simpa using total), List.map_map]
  exact Nat.zero_add _

end Results

def DetailReport.Closed (detail : DetailReport) : Prop := detail.state = 6

def DetailReport.Failed (detail : DetailReport) : Prop := detail.state = 7

instance (detail : DetailReport) : Decidable detail.Closed :=
  inferInstanceAs (Decidable (detail.state = 6))

instance (detail : DetailReport) : Decidable detail.Failed :=
  inferInstanceAs (Decidable (detail.state = 7))

/-- The summary counts and sums the details, and these are the connections in turn. -/
structure Consistent (config : BenchConfig) (report : BenchReport) : Prop where
  length : (report.details.length : Int) = config.totalConnections
  numbers : report.details.map DetailReport.connId =
    (List.range report.details.length).map fun (i : ℕ) => (i + 1 : ℚ)
  states : ∀ detail ∈ report.details, detail.Closed ∨ detail.Failed
  total : report.summary.totalConnections = report.details.length
  successful : report.summary.successfulConnections =
    (report.details.filter (·.Closed)).length
  failed : report.summary.failedConnections = (report.details.filter (·.Failed)).length
  timeout : report.summary.timeoutConnections = 0
  bytesSent : report.summary.totalBytesSent =
    ((report.details.filter (·.Closed)).map DetailReport.bytesSent).sum
  bytesReceived : report.summary.totalBytesReceived =
    ((report.details.filter (·.Closed)).map DetailReport.bytesReceived).sum
  complete : ∀ detail ∈ report.details, detail.Closed → detail.bytesSent = config.dataSize.bytes

theorem closed_detailReport (stats : ConnStats) :
    (detailReport stats).Closed ↔ stats.state = .closed := by
  unfold DetailReport.Closed detailReport
  dsimp only
  cases stats.state <;> simp [ConnState.code]

theorem failed_detailReport (stats : ConnStats) :
    (detailReport stats).Failed ↔ stats.state = .failed := by
  unfold DetailReport.Failed detailReport
  dsimp only
  cases stats.state <;> simp [ConnState.code]

theorem filter_closed (results : List ConnStats) :
    (results.map detailReport).filter (·.Closed) = (successful results).map detailReport := by
  rw [List.filter_map, successful]
  refine congrArg (List.map detailReport) (List.filter_congr fun stats _ => ?_)
  exact decide_eq_decide.mpr (closed_detailReport stats)

theorem filter_failed (results : List ConnStats) :
    (results.map detailReport).filter (·.Failed) = (unsuccessful results).map detailReport := by
  rw [List.filter_map, unsuccessful]
  refine congrArg (List.map detailReport) (List.filter_congr fun stats _ => ?_)
  exact decide_eq_decide.mpr (failed_detailReport stats)

theorem exportedStats_getD (results : List ConnStats) :
    exportedStats (fun i => results.getD i ConnStats.zeroed) results.length = results := by
  refine List.ext_getElem (by simp [exportedStats]) fun i inRange inResults => ?_
  simp [exportedStats, inResults]

section Report
variable (config : BenchConfig) (results : List ConnStats)

theorem settled_known (numbers : List ℕ)
    (settled : List.Forall₂ (Settled config.dataSize) numbers results) :
    ∀ stats ∈ results, ∃ i, Settled config.dataSize i stats := by
  induction settled with
  | nil => exact fun stats none => absurd none List.not_mem_nil
  | cons here _ ih => exact List.forall_mem_cons.mpr ⟨⟨_, here⟩, ih⟩

theorem settled_numbers (numbers : List ℕ)
    (settled : List.Forall₂ (Settled config.dataSize) numbers results) :
    (results.map detailReport).map DetailReport.connId =
      numbers.map fun (i : ℕ) => (i + 1 : ℚ) := by
  induction settled with
  | nil => rfl
  | cons here _ ih =>
      rw [List.map_cons, List.map_cons, List.map_cons, ih]
      refine congrArg (· :: _) ?_
      show ((ConnStats.connId _ : Int) : ℚ) = _
      rw [here.connId]
      push_cast
      rfl

theorem finalizeMetrics_counts (metrics : GlobalMetrics) :
    (finalizeMetrics metrics).counts = metrics.counts ∧
      (finalizeMetrics metrics).totalBytesSent = metrics.totalBytesSent ∧
      (finalizeMetrics metrics).totalBytesReceived = metrics.totalBytesReceived := by
  unfold finalizeMetrics
  split <;> exact ⟨rfl, rfl, rfl⟩

theorem sum_details (field : ConnStats → UInt64) (value : DetailReport → ℚ)
    (same : ∀ stats, value (detailReport stats) = (field stats).toNat) (bound : ℕ)
    (small : bound ≤ 2 ^ 40) (few : results.length ≤ 10000)
    (within : ∀ stats ∈ successful results, (field stats).toNat ≤ bound) :
    (((((successful results).map field).foldl (· + ·) 0).toNat : ℕ) : ℚ) =
      (((results.map detailReport).filter (·.Closed)).map value).sum := by
  rw [sum_words results field bound small few within, filter_closed, List.map_map,
    Nat.cast_list_sum, List.map_map]
  exact congrArg List.sum (List.map_congr_left fun stats _ => (same stats).symm)

theorem consistent_benchReport (within : WithinBounds config)
    (length : results.length = config.totalConnections.toNat)
    (settled : List.Forall₂ (Settled config.dataSize) (List.range results.length) results)
    (metrics : FinalMetrics)
    (final : metrics.toGlobalMetrics = finalizeMetrics (results.foldl updateMetrics initMetrics)) :
    Consistent config (benchReport metrics results) := by
  have known := settled_known config results _ settled
  have states : ∀ stats ∈ results, stats.state = .closed ∨ stats.state = .failed := by
    intro stats among
    obtain ⟨i, facts⟩ := known stats among
    exact facts.state
  obtain ⟨counts, sentTotal, receivedTotal⟩ :=
    finalizeMetrics_counts (results.foldl updateMetrics initMetrics)
  rw [← final, counts_updates results states] at counts
  simp only [GlobalMetrics.counts, initMetrics, Prod.mk.injEq, Int.zero_add] at counts
  obtain ⟨total, succeeded, failed, timedOut⟩ := counts
  obtain ⟨sent, received⟩ := totalBytes_updates results
  rw [← final, sent] at sentTotal
  rw [← final, received] at receivedTotal
  have few : results.length ≤ 10000 := by
    have most := within.totalConnections.2
    rw [maxConnections] at most
    omega
  have bounded := config.dataSize.bounded
  have settledClosed : ∀ stats ∈ successful results,
      ∃ i, Settled config.dataSize i stats ∧ stats.state = .closed := by
    intro stats among
    obtain ⟨inResults, closed⟩ := List.mem_filter.mp among
    obtain ⟨i, facts⟩ := known stats inResults
    exact ⟨i, facts, of_decide_eq_true closed⟩
  have details : (benchReport metrics results).details = results.map detailReport := rfl
  constructor
  case length =>
    have positive := within.totalConnections.1
    rw [details, List.length_map, length]
    exact Int.toNat_of_nonneg (by omega)
  case numbers =>
    rw [details, List.length_map]
    exact settled_numbers config results _ settled
  case states =>
    rw [details, List.forall_mem_map]
    exact fun stats among => (states stats among).imp (closed_detailReport stats).mpr
      (failed_detailReport stats).mpr
  case total =>
    show ((metrics.totalConnections : Int) : ℚ) = _
    rw [total, details, List.length_map, Int.cast_natCast]
  case successful =>
    show ((metrics.successfulConnections : Int) : ℚ) = _
    rw [succeeded, details, filter_closed, List.length_map, Int.cast_natCast]
  case failed =>
    show ((metrics.failedConnections : Int) : ℚ) = _
    rw [failed, details, filter_failed, List.length_map, Int.cast_natCast]
  case timeout =>
    show ((metrics.timeoutConnections : Int) : ℚ) = _
    rw [timedOut, Int.cast_zero]
  case bytesSent =>
    show ((metrics.totalBytesSent.toNat : ℕ) : ℚ) = _
    rw [sentTotal, details]
    refine sum_details results _ _ (fun _ => rfl) config.dataSize.bytes (by omega) few ?_
    intro stats among
    obtain ⟨i, facts, closed⟩ := settledClosed stats among
    exact (facts.bytesSent closed).le
  case bytesReceived =>
    show ((metrics.totalBytesReceived.toNat : ℕ) : ℚ) = _
    have buffer : bufferSize = 65536 := rfl
    rw [receivedTotal, details]
    refine sum_details results _ _ (fun _ => rfl) (config.dataSize.bytes + bufferSize) (by omega)
      few ?_
    intro stats among
    obtain ⟨i, facts, closed⟩ := settledClosed stats among
    exact facts.bytesReceived closed
  case complete =>
    rw [details, List.forall_mem_map]
    intro stats among closed
    obtain ⟨i, facts⟩ := known stats among
    show ((stats.bytesSent.toNat : ℕ) : ℚ) = _
    rw [facts.bytesSent ((closed_detailReport stats).mp closed)]

end Report

section Files
variable {File : Type} (first second : List UInt8) (file : Option File) (other : Option File)

theorem lookup_second (written : File) :
    ((file.map fun file => (first, file)).toList ++ [(second, written)]).reverse.lookup second =
      some written := by
  rw [List.reverse_append, List.reverse_singleton, List.singleton_append, List.lookup_cons,
    beq_self_eq_true]

theorem lookup_first (apart : first ≠ second) :
    ((file.map fun file => (first, file)).toList ++
      (other.map fun file => (second, file)).toList).reverse.lookup first = file := by
  cases file with
  | none =>
      cases other with
      | none => rfl
      | some other => simp [List.lookup_cons, beq_false_of_ne apart]
  | some file =>
      cases other with
      | none => simp
      | some other => simp [List.lookup_cons, beq_false_of_ne apart]

end Files

theorem runClientMode_ends (env : BenchEnv) (config : BenchConfig) (ended : BenchEnd)
    (unbroken : ∀ broken ∈ env.brokenPipe, config.totalConnections.toNat ≤ broken)
    (ran : runClientMode env config = some ended) :
    ∃ metrics connStatsArray,
      runTcpClient config.dataSize (env.scripts config.totalConnections.toNat) =
          some (metrics, connStatsArray) ∧
        ended = ⟨0, exportFiles env config (finalMetrics env metrics) connStatsArray⟩ := by
  have whole : env.brokenPipe.filter (· < config.totalConnections.toNat) = none := by
    rw [Option.filter_eq_none_iff]
    intro broken among
    simpa using unbroken broken among
  simp only [runClientMode, whole] at ran
  obtain ⟨⟨metrics, connStatsArray⟩, clientRan, rfl⟩ := Option.map_eq_some_iff.mp ran
  exact ⟨metrics, connStatsArray, clientRan, rfl⟩

/-- The summary in either file counts and sums the connections that the file lists, and
the status says nothing about them. -/
theorem benchMain_reports (env : BenchEnv) (config : BenchConfig)
    (accepted : parseOptions (initConfig env.jsonTime env.csvTime env.pid) env.options = .ok config)
    (client : config.mode = .client) (allocated : env.callocOk = true)
    (unbroken : ∀ broken ∈ env.brokenPipe, config.totalConnections.toNat ≤ broken)
    (fits : ∀ i, (env.connection i).Fits config.dataSize) (ended : BenchEnd)
    (ran : benchMain env = some ended) :
    ended.status = 0 ∧ ∃ report, Consistent config report ∧
      (env.opens config.outputCsv.string = true → CommentTarget config →
        (ended.fileNamed config.outputCsv.string).bind (fun file => decodeTable (latin1 file)) =
          some report) ∧
      (env.opens config.outputJson.string = true → PlainTarget config.targetIp.string →
        config.outputJson.string ≠ config.outputCsv.string →
          ((ended.fileNamed config.outputJson.string).bind readDocument).bind decodeDocument =
            some report) := by
  have within := parseOptions_within env.jsonTime env.csvTime env.pid env.options config accepted
  unfold benchMain at ran
  simp only [accepted, client, allocated, Bool.true_eq_false, if_false] at ran
  obtain ⟨metrics, exported, clientRan, rfl⟩ := runClientMode_ends env config ended unbroken ran
  obtain ⟨folded, length⟩ := runConnections_foldl config.dataSize _ 0 initMetrics metrics exported
    clientRan
  have settled := runConnections_settled config.dataSize _ 0 initMetrics metrics exported
    (fun script among => by
      obtain ⟨i, -, rfl⟩ := List.mem_map.mp among
      exact fits i) clientRan
  rw [← length, ← List.range_eq_range'] at settled
  rw [BenchEnv.scripts, List.length_map, List.length_range] at length
  have consistent := consistent_benchReport config exported within length settled
    (finalMetrics env metrics) (congrArg finalizeMetrics folded)
  have count : exportedStats (fun i => exported.getD i ConnStats.zeroed) config.totalConnections =
      exported := by
    have same := exportedStats_getD exported
    rwa [exportedStats, Int.toNat_natCast, length] at same
  have reports := exports_report config (finalMetrics env metrics)
    (fun i => exported.getD i ConnStats.zeroed) config.totalConnections
  rw [count] at reports
  refine ⟨rfl, _, consistent, ?_, ?_⟩
  · intro opened comments
    rw [← reports.1.mpr comments, BenchEnd.fileNamed, exportFiles, opened]
    exact congrArg (Option.bind · _) (lookup_second _ _ _ _)
  · intro opened plain apart
    rw [← (reports.2 plain).2, BenchEnd.fileNamed, exportFiles, opened]
    exact congrArg (fun file => (Option.bind file readDocument).bind decodeDocument)
      (lookup_first _ _ _ _ apart)

def oneEchoEnv : BenchEnv where
  jsonTime := 0
  csvTime := 0
  pid := 1
  options := [.dataSize (ascii "1"), .totalConnections (ascii "1")]
  server := ⟨true, true, true, true, true, false⟩
  arrivals := []
  callocOk := true
  testStartTime := ⟨1, 0⟩
  testEndTime := ⟨3, 0⟩
  connection := fun _ => interruptedEcho
  brokenPipe := none
  cpuUsage := some ⟨0, 500000, 0, 250000, 2048⟩
  memoryUsage := some ⟨0, 500000, 0, 250000, 2048⟩
  opens := fun _ => true

theorem oneEcho_reported :
    ∃ config ended, benchMain oneEchoEnv = some ended ∧ ended.status = 0 ∧
      ∃ report, Consistent config report ∧
        (ended.fileNamed config.outputCsv.string).bind (fun file => decodeTable (latin1 file)) =
          some report := by
  have ends : (benchMain oneEchoEnv).isSome = true := by decide +kernel
  obtain ⟨ended, ran⟩ := Option.isSome_iff_exists.mp ends
  have fits : interruptedEcho.Fits oneByte := ⟨by decide, by decide⟩
  obtain ⟨succeeded, report, consistent, table, -⟩ := benchMain_reports oneEchoEnv _ rfl rfl rfl
    (fun broken none => by cases none) (fun _ => fits) ended ran
  exact ⟨_, ended, ran, succeeded, report, consistent, table rfl (by decide +kernel)⟩

end TlshubEbpf.Bench
