import TlshubEbpf.Bench.TcpClient

/-! # What the benchmark reports about its connections

`run_tcp_client` runs the connections one after the other, and `update_metrics`
counts each under its final state. -/

set_option autoImplicit false

namespace TlshubEbpf.Bench

open Lib

structure GlobalMetrics where
  totalConnections : Int
  successfulConnections : Int
  failedConnections : Int
  timeoutConnections : Int
  totalBytesSent : UInt64
  totalBytesReceived : UInt64
  avgConnectionLatencyMs : ℚ
  minConnectionLatencyMs : ℚ
  maxConnectionLatencyMs : ℚ
  avgThroughputMbps : ℚ

def initMetrics : GlobalMetrics :=
  { totalConnections := 0
    successfulConnections := 0
    failedConnections := 0
    timeoutConnections := 0
    totalBytesSent := 0
    totalBytesReceived := 0
    avgConnectionLatencyMs := 0
    minConnectionLatencyMs := 999999
    maxConnectionLatencyMs := 0
    avgThroughputMbps := 0 }

def updateLatency (latency : ℚ) (metrics : GlobalMetrics) : GlobalMetrics :=
  if latency > 0 then
    { metrics with
      avgConnectionLatencyMs := metrics.avgConnectionLatencyMs + latency
      minConnectionLatencyMs :=
        if latency < metrics.minConnectionLatencyMs then latency
        else metrics.minConnectionLatencyMs
      maxConnectionLatencyMs :=
        if latency > metrics.maxConnectionLatencyMs then latency
        else metrics.maxConnectionLatencyMs }
  else
    metrics

def updateThroughput (throughput : ℚ) (metrics : GlobalMetrics) : GlobalMetrics :=
  if throughput > 0 then
    { metrics with avgThroughputMbps := metrics.avgThroughputMbps + throughput }
  else
    metrics

def updateMetrics (metrics : GlobalMetrics) (stats : ConnStats) : GlobalMetrics :=
  let metrics := { metrics with totalConnections := metrics.totalConnections + 1 }
  if stats.state = .closed then
    updateThroughput stats.throughputMbps (updateLatency stats.connectionLatencyMs
      { metrics with
        successfulConnections := metrics.successfulConnections + 1
        totalBytesSent := metrics.totalBytesSent + stats.bytesSent
        totalBytesReceived := metrics.totalBytesReceived + stats.bytesReceived })
  else if stats.state = .failed then
    { metrics with failedConnections := metrics.failedConnections + 1 }
  else if stats.state = .timeout then
    { metrics with timeoutConnections := metrics.timeoutConnections + 1 }
  else
    metrics

def freshStats (i : Nat) : ConnStats := { ConnStats.zeroed with connId := i + 1 }

def settledStats (ret : Int) (stats : ConnStats) : ConnStats :=
  -- also a `CONN_STATE_TIMEOUT` is overwritten
  if ret = 0 then stats else { stats with state := .failed }

/-- The loop of `run_tcp_client` from the connection number `i` on: the metrics, and
the statistics array that is exported. -/
def runConnections (size : DataSize) (i : Nat) :
    List ConnectionScript → GlobalMetrics → Option (GlobalMetrics × List ConnStats)
  | [], metrics => some (metrics, [])
  | script :: rest, metrics => do
      let (ret, stats) ← runSingleConnection size script (freshStats i)
      let stats := settledStats ret stats
      let (metrics, later) ← runConnections size (i + 1) rest (updateMetrics metrics stats)
      return (metrics, stats :: later)

def runTcpClient (size : DataSize) (scripts : List ConnectionScript) :
    Option (GlobalMetrics × List ConnStats) :=
  runConnections size 0 scripts initMetrics

def endStates (size : DataSize) (i : Nat) : List ConnectionScript → List ConnState
  | [] => []
  | script :: rest =>
      ((runSingleConnection size script (freshStats i)).map (·.2.state)).toList ++
        endStates size (i + 1) rest

/-- A `poll` times out before as many bytes have come back as were sent. -/
def timesOut (sent received : UInt64) : List (PollResult × IoResult) → Bool
  | [] => false
  | (.timedOut, _) :: _ => decide (received < sent)
  | (.failed, _) :: _ => false
  | (.interrupted, _) :: rest => timesOut sent received rest
  | (.ready, .interrupted) :: rest => timesOut sent received rest
  | (.ready, .failed) :: _ => false
  | (.ready, .bytes count) :: rest =>
      if count = 0 then false
      else if received + UInt64.ofNat count ≥ sent then false
      else timesOut sent (received + UInt64.ofNat count) rest

def ConnectionScript.TimesOut (size : DataSize) (script : ConnectionScript) : Prop :=
  script.connect.socketOk = true ∧ script.connect.addressOk = true ∧
    script.connect.connectOk = true ∧ script.mallocOk = true ∧
    ∃ totalSent ∈ (sendLoop size.bytes 0 script.sends).join,
      timesOut (UInt64.ofNat totalSent) 0 script.turns = true

instance (size : DataSize) (script : ConnectionScript) : Decidable (script.TimesOut size) :=
  inferInstanceAs (Decidable (_ ∧ _ ∧ _ ∧ _ ∧ ∃ totalSent ∈ _, _))

section Endings
variable (size : DataSize) (script : ConnectionScript)

theorem receiveLoop_ends (turns : List (PollResult × IoResult)) (stats final : ConnStats)
    (ret : Int) (receiving : stats.state = .receiving)
    (ran : receiveLoop turns stats = some (ret, final)) :
    (ret = 0 ∧ final.state = .receiving ∧
        timesOut stats.bytesSent stats.bytesReceived turns = false) ∨
      (ret = -1 ∧ final.state = .failed ∧
        timesOut stats.bytesSent stats.bytesReceived turns = false) ∨
      ret = -1 ∧ final.state = .timeout ∧
        timesOut stats.bytesSent stats.bytesReceived turns = true := by
  induction turns generalizing stats with
  | nil => cases ran
  | cons turn rest ih =>
      obtain ⟨polled, received⟩ := turn
      unfold receiveLoop at ran
      cases polled with
      | interrupted =>
          simp only [pollTurn, Option.getD_some] at ran
          exact ih stats receiving ran
      | failed =>
          simp only [pollTurn, Option.getD_some, Option.some.injEq, Prod.mk.injEq] at ran
          obtain ⟨rfl, rfl⟩ := ran
          exact Or.inr (Or.inl ⟨rfl, rfl, rfl⟩)
      | timedOut =>
          simp only [pollTurn] at ran
          by_cases less : stats.bytesReceived < stats.bytesSent
          · rw [if_pos less] at ran
            cases ran
            exact Or.inr (Or.inr ⟨rfl, rfl, decide_eq_true less⟩)
          · rw [if_neg less] at ran
            cases ran
            exact Or.inl ⟨rfl, receiving, decide_eq_false less⟩
      | ready =>
          simp only [pollTurn, Option.getD_none] at ran
          cases received with
          | interrupted => exact ih stats receiving ran
          | failed =>
              cases ran
              exact Or.inr (Or.inl ⟨rfl, rfl, rfl⟩)
          | bytes count =>
              unfold recvTurn at ran
              unfold timesOut
              dsimp only at ran
              by_cases none : count = 0
              · rw [if_pos none] at ran ⊢
                cases ran
                exact Or.inl ⟨rfl, receiving, rfl⟩
              · rw [if_neg none] at ran ⊢
                by_cases enough : stats.bytesReceived + UInt64.ofNat count ≥ stats.bytesSent
                · rw [if_pos enough] at ran ⊢
                  cases ran
                  exact Or.inl ⟨rfl, receiving, rfl⟩
                · rw [if_neg enough] at ran ⊢
                  exact ih { stats with bytesReceived := stats.bytesReceived + UInt64.ofNat count }
                    receiving ran

/-- How a connection can end, and whether a timeout has ended it. -/
def Ends (ret : Int) (state : ConnState) (timedOut : Prop) : Prop :=
  (ret = 0 ∧ state = .closed ∧ ¬ timedOut) ∨ (ret = -1 ∧ state = .failed ∧ ¬ timedOut) ∨
    ret = -1 ∧ state = .timeout ∧ timedOut

theorem tcpClientConnect_fails (stats : ConnStats)
    (fails : (tcpClientConnect script.connect stats).1 = false) :
    (tcpClientConnect script.connect stats).2.state = .failed ∧ ¬ script.TimesOut size := by
  unfold tcpClientConnect at fails ⊢
  unfold ConnectionScript.TimesOut
  cases socket : script.connect.socketOk with
  | false => simp
  | true =>
      cases address : script.connect.addressOk with
      | false => simp
      | true =>
          cases connect : script.connect.connectOk with
          | false => simp
          | true => simp [socket, address, connect] at fails

theorem tcpClientConnect_connects (stats : ConnStats)
    (connects : (tcpClientConnect script.connect stats).1 = true) :
    script.connect.socketOk = true ∧ script.connect.addressOk = true ∧
      script.connect.connectOk = true ∧
      (tcpClientConnect script.connect stats).2.bytesReceived = stats.bytesReceived := by
  unfold tcpClientConnect at connects ⊢
  cases socket : script.connect.socketOk with
  | false => simp [socket] at connects
  | true =>
      cases address : script.connect.addressOk with
      | false => simp [socket, address] at connects
      | true =>
          cases connect : script.connect.connectOk with
          | false => simp [socket, address, connect] at connects
          | true => simp

theorem tcpClientSendData_ends (stats final : ConnStats) (ret : Int)
    (ran : tcpClientSendData size script stats = some (ret, final)) :
    (ret = -1 ∧ final.state = .failed ∧ ¬ script.TimesOut size) ∨
      ret = 0 ∧ script.mallocOk = true ∧ ∃ totalSent,
        sendLoop size.bytes 0 script.sends = some (some totalSent) ∧
        final.bytesSent = UInt64.ofNat totalSent ∧ final.bytesReceived = stats.bytesReceived := by
  unfold tcpClientSendData at ran
  cases allocated : script.mallocOk with
  | false =>
      simp only [allocated, if_true, Option.some.injEq, Prod.mk.injEq] at ran
      obtain ⟨rfl, rfl⟩ := ran
      left
      refine ⟨rfl, rfl, ?_⟩
      simp [ConnectionScript.TimesOut, allocated]
  | true =>
      simp only [allocated, Bool.true_eq_false, if_false] at ran
      cases sent : sendLoop size.bytes 0 script.sends with
      | none => simp [sent] at ran
      | some outcome =>
          cases outcome with
          | none =>
              simp only [sent, Option.some.injEq, Prod.mk.injEq] at ran
              obtain ⟨rfl, rfl⟩ := ran
              left
              refine ⟨rfl, rfl, ?_⟩
              simp [ConnectionScript.TimesOut, sent]
          | some totalSent =>
              simp only [sent, Option.some.injEq, Prod.mk.injEq] at ran
              obtain ⟨rfl, rfl⟩ := ran
              right
              exact ⟨rfl, rfl, totalSent, rfl, finishSend_bytesSent .., finishSend_bytesReceived ..⟩

theorem tcpClientClose_closes (stats final : ConnStats) (ret : Int)
    (ran : tcpClientClose script stats = some (ret, final)) : ret = 0 ∧ final.state = .closed := by
  unfold tcpClientClose at ran
  cases drained : drainLoop script.drains with
  | none => simp [drained] at ran
  | some done =>
      simp only [drained, Option.some.injEq, Prod.mk.injEq] at ran
      obtain ⟨rfl, rfl⟩ := ran
      refine ⟨rfl, ?_⟩
      unfold closeStats
      dsimp only
      split <;> rfl

structure CameToReceive (stats final : ConnStats) (ret : Int) (totalSent : Nat)
    (sent received : ConnStats) (receiveRet : Int) : Prop where
  all : sendLoop size.bytes 0 script.sends = some (some totalSent)
  bytesSent : sent.bytesSent = UInt64.ofNat totalSent
  bytesReceived : sent.bytesReceived = stats.bytesReceived
  loop : receiveLoop script.turns { sent with state := .receiving } = some (receiveRet, received)
  timesOut_iff : stats.bytesReceived = 0 → (script.TimesOut size ↔
    timesOut sent.bytesSent sent.bytesReceived script.turns = true)
  ended : (receiveRet = 0 ∧ ret = 0 ∧ tcpClientClose script received = some (0, final)) ∨
    receiveRet = -1 ∧ ret = -1 ∧ final = received

theorem runSingleConnection_cases (stats final : ConnStats) (ret : Int)
    (ran : runSingleConnection size script stats = some (ret, final)) :
    (ret = -1 ∧ final.state = .failed ∧ ¬ script.TimesOut size) ∨
      ∃ totalSent sent received receiveRet,
        CameToReceive size script stats final ret totalSent sent received receiveRet := by
  unfold runSingleConnection at ran
  dsimp only at ran
  cases connected : (tcpClientConnect script.connect stats).1 with
  | false =>
      rw [connected] at ran
      cases ran
      exact Or.inl ⟨rfl, tcpClientConnect_fails size script stats connected⟩
  | true =>
      obtain ⟨socket, address, connect, kept⟩ := tcpClientConnect_connects script stats connected
      rw [connected] at ran
      simp only [Bool.true_eq_false, if_false] at ran
      obtain ⟨⟨sendRet, sent⟩, sendRan, ran⟩ := Option.bind_eq_some_iff.mp ran
      dsimp only at ran
      cases tcpClientSendData_ends size script _ sent sendRet sendRan with
      | inl failed =>
          obtain ⟨rfl, state, noTimeout⟩ := failed
          cases ran
          exact Or.inl ⟨rfl, state, noTimeout⟩
      | inr sending =>
          obtain ⟨rfl, allocated, totalSent, all, bytesSent, bytesReceived⟩ := sending
          rw [if_neg (Int.lt_irrefl 0)] at ran
          obtain ⟨⟨receiveRet, received⟩, receiveRan, ran⟩ := Option.bind_eq_some_iff.mp ran
          dsimp only at ran
          have timesOut_iff : stats.bytesReceived = 0 → (script.TimesOut size ↔
              timesOut sent.bytesSent sent.bytesReceived script.turns = true) := by
            intro fresh
            rw [bytesSent, bytesReceived, kept, fresh]
            simp [ConnectionScript.TimesOut, socket, address, connect, allocated, all]
          refine Or.inr ⟨totalSent, sent, received, receiveRet, all, bytesSent,
            bytesReceived.trans kept, receiveRan, timesOut_iff, ?_⟩
          have ends := receiveLoop_ends script.turns { sent with state := .receiving } received
            receiveRet rfl receiveRan
          rcases ends with ⟨rfl, _⟩ | ⟨rfl, _⟩ | ⟨rfl, _⟩
          · rw [if_neg (Int.lt_irrefl 0)] at ran
            obtain ⟨⟨closeRet, closed⟩, closeRan, ran⟩ := Option.bind_eq_some_iff.mp ran
            dsimp only at ran
            obtain ⟨rfl, _⟩ := tcpClientClose_closes script received closed closeRet closeRan
            rw [if_neg (Int.lt_irrefl 0)] at ran
            cases ran
            exact Or.inl ⟨rfl, rfl, closeRan⟩
          · cases ran
            exact Or.inr ⟨rfl, rfl, rfl⟩
          · cases ran
            exact Or.inr ⟨rfl, rfl, rfl⟩

theorem runSingleConnection_ends (stats final : ConnStats) (ret : Int)
    (fresh : stats.bytesReceived = 0)
    (ran : runSingleConnection size script stats = some (ret, final)) :
    Ends ret final.state (script.TimesOut size) := by
  rcases runSingleConnection_cases size script stats final ret ran with
    failed | ⟨totalSent, sent, received, receiveRet, came⟩
  · exact Or.inr (Or.inl failed)
  · have ends := receiveLoop_ends script.turns { sent with state := .receiving } received
      receiveRet rfl came.loop
    dsimp only at ends
    rw [Ends, came.timesOut_iff fresh, Bool.not_eq_true]
    rcases came.ended with ⟨rfl, rfl, closeRan⟩ | ⟨rfl, rfl, rfl⟩
    · have closed := (tcpClientClose_closes script received final 0 closeRan).2
      rcases ends with ⟨_, _, noTimeout⟩ | ⟨failed, _⟩ | ⟨failed, _⟩
      · exact Or.inl ⟨rfl, closed, noTimeout⟩
      · cases failed
      · cases failed
    · rcases ends with ⟨succeeded, _⟩ | failed | timedOut
      · cases succeeded
      · exact Or.inr (Or.inl failed)
      · exact Or.inr (Or.inr timedOut)

end Endings

structure Reported (n : Nat) (ended : List ConnState) (metrics : GlobalMetrics)
    (exported : List ConnStats) : Prop where
  total : metrics.totalConnections = n
  sum : metrics.totalConnections = metrics.successfulConnections + metrics.failedConnections +
    metrics.timeoutConnections
  successful : metrics.successfulConnections = ended.count .closed
  failed : metrics.failedConnections = ended.count .failed
  timeout : metrics.timeoutConnections = ended.count .timeout
  states : exported.map (·.state) = ended

def GlobalMetrics.counts (metrics : GlobalMetrics) : Int × Int × Int × Int :=
  (metrics.totalConnections, metrics.successfulConnections, metrics.failedConnections,
    metrics.timeoutConnections)

theorem updateMetrics_closed (metrics : GlobalMetrics) (stats : ConnStats)
    (closed : stats.state = .closed) :
    (updateMetrics metrics stats).counts =
      (metrics.totalConnections + 1, metrics.successfulConnections + 1,
        metrics.failedConnections, metrics.timeoutConnections) := by
  unfold updateMetrics updateThroughput updateLatency
  rw [if_pos closed]
  dsimp only
  split <;> split <;> rfl

theorem updateMetrics_failed (metrics : GlobalMetrics) (stats : ConnStats)
    (failed : stats.state = .failed) :
    (updateMetrics metrics stats).counts =
      (metrics.totalConnections + 1, metrics.successfulConnections,
        metrics.failedConnections + 1, metrics.timeoutConnections) := by
  have notClosed : stats.state ≠ .closed := by
    rw [failed]
    exact ConnState.noConfusion
  unfold updateMetrics
  rw [if_neg notClosed, if_pos failed]
  rfl

/-- Every end but `CONN_STATE_CLOSED` is counted, and exported, as a failure. -/
def reportedState (ended : ConnState) : ConnState :=
  if ended = .closed then .closed else .failed

theorem settledStats_counts (metrics : GlobalMetrics) (stats : ConnStats) (ret : Int)
    (timedOut : Prop) (ends : Ends ret stats.state timedOut) :
    (settledStats ret stats).state = reportedState stats.state ∧
      (updateMetrics metrics (settledStats ret stats)).counts =
        if stats.state = .closed then
          (metrics.totalConnections + 1, metrics.successfulConnections + 1,
            metrics.failedConnections, metrics.timeoutConnections)
        else
          (metrics.totalConnections + 1, metrics.successfulConnections,
            metrics.failedConnections + 1, metrics.timeoutConnections) := by
  unfold reportedState
  rcases ends with ⟨rfl, ended, _⟩ | ⟨rfl, ended, _⟩ | ⟨rfl, ended, _⟩
  · rw [if_pos ended, if_pos ended]
    exact ⟨ended, updateMetrics_closed metrics stats ended⟩
  · rw [ended]
    exact ⟨rfl, updateMetrics_failed metrics { stats with state := .failed } rfl⟩
  · rw [ended]
    exact ⟨rfl, updateMetrics_failed metrics { stats with state := .failed } rfl⟩

section Runs
variable (size : DataSize)

theorem runConnections_cons (i : Nat) (script : ConnectionScript) (rest : List ConnectionScript)
    (start metrics : GlobalMetrics) (exported : List ConnStats)
    (ran : runConnections size i (script :: rest) start = some (metrics, exported)) :
    ∃ ret stats later, Ends ret stats.state (script.TimesOut size) ∧
      endStates size i (script :: rest) = stats.state :: endStates size (i + 1) rest ∧
      exported = settledStats ret stats :: later ∧
      runConnections size (i + 1) rest (updateMetrics start (settledStats ret stats)) =
        some (metrics, later) := by
  unfold runConnections at ran
  obtain ⟨⟨ret, stats⟩, first, ran⟩ := Option.bind_eq_some_iff.mp ran
  dsimp only at ran
  obtain ⟨⟨metrics', later⟩, others, ran⟩ := Option.bind_eq_some_iff.mp ran
  cases ran
  exact ⟨ret, stats, later, runSingleConnection_ends size script _ stats ret rfl first,
    by simp [endStates, first], rfl, others⟩

theorem runConnections_counts (scripts : List ConnectionScript) (i : Nat)
    (start metrics : GlobalMetrics) (exported : List ConnStats)
    (ran : runConnections size i scripts start = some (metrics, exported)) :
    exported.map (·.state) = (endStates size i scripts).map reportedState ∧
      metrics.totalConnections = start.totalConnections + scripts.length ∧
      metrics.successfulConnections =
        start.successfulConnections + (endStates size i scripts).count .closed ∧
      metrics.failedConnections + (endStates size i scripts).count .closed =
        start.failedConnections + scripts.length ∧
      metrics.timeoutConnections = start.timeoutConnections := by
  induction scripts generalizing i start exported with
  | nil =>
      cases ran
      simp [endStates]
  | cons script rest ih =>
      obtain ⟨ret, stats, later, ends, states, rfl, others⟩ :=
        runConnections_cons size i script rest start metrics exported ran
      obtain ⟨exports, total, successful, failed, timeout⟩ := ih (i + 1) _ _ others
      obtain ⟨settled, counted⟩ := settledStats_counts start stats ret _ ends
      rw [states, List.map_cons, List.map_cons, settled, exports, List.count_cons,
        List.length_cons]
      refine ⟨rfl, ?_⟩
      by_cases closed : stats.state = .closed
      · rw [if_pos closed] at counted
        simp only [GlobalMetrics.counts, Prod.mk.injEq] at counted
        rw [if_pos (beq_iff_eq.mpr closed)]
        omega
      · rw [if_neg closed] at counted
        simp only [GlobalMetrics.counts, Prod.mk.injEq] at counted
        rw [if_neg (by simpa using closed)]
        omega

theorem endStates_known (scripts : List ConnectionScript) (i : Nat)
    (start metrics : GlobalMetrics) (exported : List ConnStats)
    (ran : runConnections size i scripts start = some (metrics, exported)) :
    (endStates size i scripts).length = scripts.length ∧
      (∀ state ∈ endStates size i scripts,
        state = .closed ∨ state = .failed ∨ state = .timeout) ∧
      (.timeout ∈ endStates size i scripts ↔ ∃ script ∈ scripts, script.TimesOut size) := by
  induction scripts generalizing i start exported with
  | nil => simp [endStates]
  | cons script rest ih =>
      obtain ⟨ret, stats, later, ends, states, rfl, others⟩ :=
        runConnections_cons size i script rest start metrics exported ran
      obtain ⟨length, known, timeouts⟩ := ih (i + 1) _ _ others
      rw [states, List.forall_mem_cons, List.mem_cons, timeouts, List.length_cons, length]
      rcases ends with ⟨_, ended, never⟩ | ⟨_, ended, never⟩ | ⟨_, ended, timedOut⟩
      · exact ⟨rfl, ⟨Or.inl ended, known⟩, by simp [ended, never]⟩
      · exact ⟨rfl, ⟨Or.inr (Or.inl ended), known⟩, by simp [ended, never]⟩
      · exact ⟨rfl, ⟨Or.inr (Or.inr ended), known⟩, by simp [ended, timedOut]⟩

end Runs

theorem count_three (ended : List ConnState)
    (known : ∀ state ∈ ended, state = .closed ∨ state = .failed ∨ state = .timeout) :
    ended.count .closed + ended.count .failed + ended.count .timeout = ended.length := by
  induction ended with
  | nil => rfl
  | cons state rest ih =>
      obtain ⟨here, later⟩ := List.forall_mem_cons.mp known
      have counted := ih later
      simp only [List.count_cons, List.length_cons]
      rcases here with rfl | rfl | rfl
      · simp
        omega
      · simp
        omega
      · simp
        omega

/-- The report is right if and only if no connection times out. -/
theorem runTcpClient_reported_iff (size : DataSize) (scripts : List ConnectionScript)
    (metrics : GlobalMetrics) (exported : List ConnStats)
    (ran : runTcpClient size scripts = some (metrics, exported)) :
    Reported scripts.length (endStates size 0 scripts) metrics exported ↔
      ∀ script ∈ scripts, ¬ script.TimesOut size := by
  obtain ⟨states, total, successful, failed, timeout⟩ :=
    runConnections_counts size scripts 0 initMetrics metrics exported ran
  obtain ⟨length, known, timeouts⟩ :=
    endStates_known size scripts 0 initMetrics metrics exported ran
  have sum := count_three _ known
  have none : metrics.timeoutConnections = 0 := timeout
  constructor
  · intro reported script member timesOut
    have ended := timeouts.mpr ⟨script, member, timesOut⟩
    have positive := List.count_pos_iff.mpr ended
    have counted := reported.timeout
    omega
  · intro never
    have noTimeout : .timeout ∉ endStates size 0 scripts := by
      intro ended
      obtain ⟨script, member, timesOut⟩ := timeouts.mp ended
      exact never script member timesOut
    have zero := List.count_eq_zero.mpr noTimeout
    simp only [initMetrics] at total successful failed
    refine ⟨by omega, by omega, by omega, by omega, by omega, ?_⟩
    rw [states]
    refine (List.map_congr_left ?_).trans (List.map_id _)
    intro state member
    rcases known state member with rfl | rfl | rfl
    · rfl
    · rfl
    · exact absurd member noTimeout

def oneByte : DataSize := ⟨1, by decide, by decide⟩

def scriptReading (turns : List (PollResult × IoResult)) : ConnectionScript :=
  { connect := ⟨⟨1, 0⟩, ⟨1, 0⟩, true, true, true⟩
    mallocOk := true
    sends := [.interrupted, .bytes 1]
    sendEnd := ⟨2, 0⟩
    turns := turns
    drains := [.bytes 0]
    closeEnd := ⟨3, 0⟩ }

def echoedThenReset : List ConnectionScript :=
  [scriptReading [(.interrupted, .failed), (.ready, .bytes 1)], scriptReading [(.ready, .failed)]]

theorem echoedThenReset_reported :
    ∃ metrics exported, runTcpClient oneByte echoedThenReset = some (metrics, exported) ∧
      Reported 2 (endStates oneByte 0 echoedThenReset) metrics exported := by
  have ends : (runTcpClient oneByte echoedThenReset).isSome = true := by decide
  obtain ⟨⟨metrics, exported⟩, ran⟩ := Option.isSome_iff_exists.mp ends
  exact ⟨metrics, exported, ran,
    (runTcpClient_reported_iff oneByte echoedThenReset metrics exported ran).mpr (by decide)⟩

/-- A server that does not answer. -/
theorem timeout_reported_as_failure :
    ∃ metrics exported,
      runTcpClient oneByte [scriptReading [(.timedOut, .interrupted)]] =
        some (metrics, exported) ∧
      metrics.timeoutConnections = 0 ∧ metrics.failedConnections = 1 ∧
      exported.map (·.state) = [.failed] ∧
      ¬ Reported 1 (endStates oneByte 0 [scriptReading [(.timedOut, .interrupted)]]) metrics
        exported := by
  refine ⟨_, _, rfl, rfl, rfl, rfl, ?_⟩
  intro reported
  have counted := reported.timeout
  exact absurd counted (by decide)

end TlshubEbpf.Bench
