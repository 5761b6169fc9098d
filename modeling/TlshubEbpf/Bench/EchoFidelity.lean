import TlshubEbpf.Bench.Connection

/-! # What the client gets back

The client's buffer, as far as it has been sent, lies in order in what the server
has received, in the server's receive buffer and in the client's send buffer, and
what the server has received lies in the same way on its path back. -/

set_option autoImplicit false

namespace TlshubEbpf.Bench

open Lib

/-- Every byte that has been sent is in one place, in order. -/
structure InOrder (size : DataSize) (s : Connection) : Prop where
  sent : (fillBuffer size.bytes).take s.totalSent =
    s.serverReceived ++ s.serverRecvBuf ++ s.clientSendBuf
  received : s.serverReceived = s.echoed ++ s.unechoed
  echoed : s.echoed = s.clientReceived ++ s.clientRecvBuf ++ s.serverSendBuf
  within : s.totalSent ≤ size.bytes
  idle : s.server = .receiving → s.unechoed = []
  echoing : s.server = .echoing → s.echoSent < s.chunk.length

theorem length_fillBuffer (n : Nat) : (fillBuffer n).length = n := by
  simp [fillBuffer]

section Steps
variable (capacities : Capacities) (size : DataSize) (s next : Connection)

theorem length_unsent : (s.unsent size).length = size.bytes - s.totalSent := by
  simp [Connection.unsent, length_fillBuffer]

theorem start_inOrder (answers : ConnectAnswers) : InOrder size (Connection.start answers) :=
  ⟨rfl, rfl, rfl, Nat.zero_le _, fun _ => rfl, (fun echoing => nomatch echoing)⟩

theorem bookkeeping_inOrder (inOrder : InOrder size s) (client : ClientPhase)
    (stats : ConnStats) (clientClosed failed : Bool) :
    InOrder size
      { s with client := client, stats := stats, clientClosed := clientClosed, failed := failed } :=
  ⟨inOrder.sent, inOrder.received, inOrder.echoed, inOrder.within, inOrder.idle, inOrder.echoing⟩

theorem clientSend_inOrder (result : IoResult) (sendEnd : Timespec) (inOrder : InOrder size s)
    (answers : SendAnswers capacities.clientSend s.clientSendBuf (s.unsent size) result) :
    InOrder size (s.afterClientSend size result sendEnd) := by
  cases result with
  | failed => exact bookkeeping_inOrder size s inOrder _ _ _ _
  | interrupted =>
      unfold Connection.afterClientSend
      simp only [sendTurn, IoResult.count, List.take_zero, List.append_nil]
      split
      · exact inOrder
      · exact bookkeeping_inOrder size s inOrder _ _ _ _
  | bytes count =>
      obtain ⟨_, offered, _⟩ := answers
      rw [length_unsent] at offered
      have sent : (fillBuffer size.bytes).take (s.totalSent + count) =
          s.serverReceived ++ s.serverRecvBuf ++
            (s.clientSendBuf ++ (s.unsent size).take count) := by
        rw [List.take_add, inOrder.sent, List.append_assoc _ s.clientSendBuf]
        rfl
      have within : s.totalSent + count ≤ size.bytes := by
        have le := inOrder.within
        omega
      unfold Connection.afterClientSend
      simp only [sendTurn, IoResult.count]
      split
      · exact ⟨sent, inOrder.received, inOrder.echoed, within, inOrder.idle, inOrder.echoing⟩
      · exact ⟨sent, inOrder.received, inOrder.echoed, within, inOrder.idle, inOrder.echoing⟩

theorem afterTurn_inOrder (inOrder : InOrder size s) (turn : LoopStep ConnStats) :
    InOrder size (s.afterTurn turn) :=
  bookkeeping_inOrder size s inOrder _ _ _ _

theorem clientPoll_inOrder (result : PollResult) (inOrder : InOrder size s) :
    InOrder size (s.afterClientPoll result) := by
  unfold Connection.afterClientPoll
  cases pollTurn s.stats result with
  | none => exact bookkeeping_inOrder size s inOrder _ _ _ _
  | some turn =>
      have turned := afterTurn_inOrder size s inOrder turn
      exact bookkeeping_inOrder size _ turned _ _ _ _

theorem clientRecv_inOrder (result : IoResult) (inOrder : InOrder size s) :
    InOrder size (s.afterClientRecv result) := by
  have echoed : s.echoed =
      s.clientReceived ++ s.clientRecvBuf.take result.count ++
        s.clientRecvBuf.drop result.count ++ s.serverSendBuf := by
    rw [List.append_assoc s.clientReceived, List.take_append_drop]
    exact inOrder.echoed
  exact ⟨inOrder.sent, inOrder.received, echoed, inOrder.within, inOrder.idle, inOrder.echoing⟩

theorem serverRecv_inOrder (result : IoResult) (inOrder : InOrder size s)
    (phase : s.server = .receiving)
    (answers : RecvAnswers s.serverRecvBuf s.EndToServer result) :
    InOrder size (s.afterServerRecv result) := by
  have closed : ∀ failed, InOrder size { s with server := .closed, failed := failed } :=
    fun _ => ⟨inOrder.sent, inOrder.received, inOrder.echoed, inOrder.within,
      (fun receiving => nomatch receiving), (fun echoing => nomatch echoing)⟩
  cases result with
  | interrupted => exact inOrder
  | failed => exact closed true
  | bytes count =>
      unfold Connection.afterServerRecv
      unfold RecvAnswers at answers
      dsimp only at answers ⊢
      by_cases none : count = 0
      · rw [if_pos none]
        exact closed s.failed
      · rw [if_neg none] at answers ⊢
        have sent : (fillBuffer size.bytes).take s.totalSent =
            s.serverReceived ++ s.serverRecvBuf.take count ++
              s.serverRecvBuf.drop count ++ s.clientSendBuf := by
          rw [List.append_assoc s.serverReceived, List.take_append_drop]
          exact inOrder.sent
        have received : s.serverReceived ++ s.serverRecvBuf.take count =
            s.echoed ++ (s.serverRecvBuf.take count).drop 0 := by
          rw [inOrder.received, inOrder.idle phase, List.append_nil, List.drop_zero]
        obtain ⟨stored, _⟩ := answers
        refine ⟨sent, received, inOrder.echoed, inOrder.within,
          (fun receiving => nomatch receiving), fun _ => ?_⟩
        dsimp only
        rw [List.length_take]
        omega

theorem serverSend_inOrder (result : IoResult) (inOrder : InOrder size s)
    (phase : s.server = .echoing)
    (answers : SendAnswers capacities.serverSend s.serverSendBuf s.unechoed result) :
    InOrder size (s.afterServerSend result) := by
  cases result with
  | failed =>
      exact ⟨inOrder.sent, inOrder.received, inOrder.echoed, inOrder.within,
        (fun receiving => nomatch receiving), (fun echoing => nomatch echoing)⟩
  | interrupted =>
      have going := inOrder.echoing phase
      unfold Connection.afterServerSend
      simp only [sendTurn, IoResult.count, List.take_zero, List.append_nil, if_pos going]
      exact ⟨inOrder.sent, inOrder.received, inOrder.echoed, inOrder.within,
        (fun receiving => nomatch receiving), fun _ => going⟩
  | bytes count =>
      have rest : s.unechoed =
          s.unechoed.take count ++ s.chunk.drop (s.echoSent + count) := by
        rw [← List.drop_drop]
        exact (List.take_append_drop count s.unechoed).symm
      have received : s.serverReceived =
          s.echoed ++ s.unechoed.take count ++ s.chunk.drop (s.echoSent + count) := by
        rw [List.append_assoc, ← rest]
        exact inOrder.received
      have echoed : s.echoed ++ s.unechoed.take count =
          s.clientReceived ++ s.clientRecvBuf ++ (s.serverSendBuf ++ s.unechoed.take count) := by
        rw [← List.append_assoc, ← inOrder.echoed]
      refine ⟨inOrder.sent, received, echoed, inOrder.within, ?_, ?_⟩
      · intro receiving
        apply List.drop_eq_nil_of_le
        simp only [Connection.afterServerSend, sendTurn] at receiving ⊢
        split at receiving
        · cases receiving
        · omega
      · intro echoing
        simp only [Connection.afterServerSend, sendTurn] at echoing ⊢
        split at echoing
        · assumption
        · cases echoing

theorem step_inOrder (event : ConnectionEvent) (inOrder : InOrder size s)
    (taken : s.step capacities size event = some next) : InOrder size next := by
  cases event with
  | clientSend result sendEnd =>
      obtain ⟨_, answers, rfl⟩ := step_clientSend capacities size s next result sendEnd taken
      exact clientSend_inOrder capacities size s result sendEnd inOrder answers
  | clientPoll result =>
      obtain ⟨_, rfl⟩ := step_clientPoll capacities size s next result taken
      exact clientPoll_inOrder size s result inOrder
  | clientRecv result =>
      obtain ⟨_, _, rfl⟩ := step_clientRecv capacities size s next result taken
      exact clientRecv_inOrder size s result inOrder
  | clientClose =>
      obtain ⟨_, rfl⟩ := step_clientClose capacities size s next taken
      exact bookkeeping_inOrder size s inOrder _ _ _ _
  | serverRecv result =>
      obtain ⟨phase, answers, rfl⟩ := step_serverRecv capacities size s next result taken
      exact serverRecv_inOrder size s result inOrder phase answers
  | serverSend result =>
      obtain ⟨phase, answers, rfl⟩ := step_serverSend capacities size s next result taken
      exact serverSend_inOrder capacities size s result inOrder phase answers
  | carryToServer count =>
      obtain ⟨_, rfl⟩ := step_carryToServer capacities size s next count taken
      refine ⟨?_, inOrder.received, inOrder.echoed, inOrder.within, inOrder.idle,
        inOrder.echoing⟩
      dsimp only
      rw [inOrder.sent]
      simp only [List.append_assoc, List.take_append_drop]
  | carryToClient count =>
      obtain ⟨_, rfl⟩ := step_carryToClient capacities size s next count taken
      refine ⟨inOrder.sent, inOrder.received, ?_, inOrder.within, inOrder.idle, inOrder.echoing⟩
      dsimp only
      rw [inOrder.echoed]
      simp only [List.append_assoc, List.take_append_drop]

end Steps

/-- The counters of the statistics, and who may have closed the connection. -/
structure Counted (size : DataSize) (s : Connection) : Prop where
  received : s.stats.bytesReceived = UInt64.ofNat s.clientReceived.length
  sending : s.client = .sending → s.totalSent < size.bytes ∧ s.clientReceived = []
  receiving : s.client = .polling ∨ s.client = .reading →
    s.totalSent = size.bytes ∧ s.stats.bytesSent = UInt64.ofNat size.bytes
  returned : s.client = .returned 0 → s.failed = false →
    s.stats.bytesSent = UInt64.ofNat size.bytes ∧ s.clientReceived.length = size.bytes
  serverClosed : s.failed = false → s.server = .closed → s.clientClosed = true
  clientClosed : s.clientClosed = true → ∃ ret, s.client = .returned ret

section Counts
variable (capacities : Capacities) (size : DataSize) (s next : Connection)

theorem start_counted (answers : ConnectAnswers) : Counted size (Connection.start answers) := by
  have zero : (tcpClientConnect answers ConnStats.zeroed).2.bytesReceived = 0 := by
    unfold tcpClientConnect
    dsimp only
    split <;> [rfl; split <;> [rfl; split <;> rfl]]
  refine ⟨zero, fun _ => ⟨size.positive, rfl⟩, ?_, ?_, ?_, ?_⟩
  · intro receiving
    cases receiving with
    | inl polling => cases polling
    | inr reading => cases reading
  · intro returned
    cases returned
  · intro _ closed
    cases closed
  · intro closed
    cases closed

theorem received_le_sent (inOrder : InOrder size s) : s.clientReceived.length ≤ s.totalSent := by
  have sent := congrArg List.length inOrder.sent
  have received := congrArg List.length inOrder.received
  have echoed := congrArg List.length inOrder.echoed
  have within := inOrder.within
  simp only [List.length_append, List.length_take, length_fillBuffer] at sent received echoed
  omega

theorem word_le_iff (m n : Nat) (small : m ≤ 10485760) (small' : n ≤ 10485760) :
    UInt64.ofNat m ≤ UInt64.ofNat n ↔ m ≤ n := by
  rw [UInt64.le_iff_toNat_le, UInt64.toNat_ofNat_of_lt' (by unfold UInt64.size; omega),
    UInt64.toNat_ofNat_of_lt' (by unfold UInt64.size; omega)]

theorem received_all (inOrder : InOrder size s)
    (received : s.stats.bytesReceived = UInt64.ofNat s.clientReceived.length)
    (sent : s.stats.bytesSent = UInt64.ofNat size.bytes)
    (enough : s.stats.bytesSent ≤ s.stats.bytesReceived) :
    s.clientReceived.length = size.bytes := by
  have le := received_le_sent size s inOrder
  have within := inOrder.within
  have bounded := size.bounded
  rw [received, sent, word_le_iff _ _ bounded (by omega)] at enough
  omega

theorem not_closed (counted : Counted size s) (running : ∀ ret, s.client ≠ .returned ret) :
    s.clientClosed ≠ true := by
  intro closed
  obtain ⟨ret, returned⟩ := counted.clientClosed closed
  exact running ret returned

theorem clientSend_counted (result : IoResult) (sendEnd : Timespec) (counted : Counted size s)
    (phase : s.client = .sending)
    (inOrder : InOrder size (s.afterClientSend size result sendEnd)) :
    Counted size (s.afterClientSend size result sendEnd) := by
  have sending := counted.sending phase
  have within := inOrder.within
  have unclosed := not_closed size s counted fun ret returned => by
    rw [phase] at returned
    cases returned
  unfold Connection.afterClientSend at within ⊢
  cases turn : sendTurn s.totalSent result with
  | none =>
      refine ⟨counted.received, (fun sending => nomatch sending), ?_, ?_, ?_, ?_⟩
      · rintro (polling | reading)
        · cases polling
        · cases reading
      · intro _ failed
        cases failed
      · intro failed
        cases failed
      · exact fun _ => ⟨-1, rfl⟩
  | some totalSent =>
      rw [turn] at within
      dsimp only at within ⊢
      split at within
      · rename_i less
        rw [if_pos less]
        refine ⟨counted.received, fun _ => ⟨less, sending.2⟩, ?_, ?_, counted.serverClosed,
          counted.clientClosed⟩
        · intro receiving
          rw [phase] at receiving
          cases receiving with
          | inl polling => cases polling
          | inr reading => cases reading
        · intro returned
          rw [phase] at returned
          cases returned
      · rename_i full
        rw [if_neg full]
        have all : totalSent = size.bytes := Nat.le_antisymm within (Nat.le_of_not_lt full)
        refine ⟨?_, (fun sending => nomatch sending), fun _ => ⟨all, ?_⟩,
          (fun returned => nomatch returned), counted.serverClosed,
          fun closed => absurd closed unclosed⟩
        · exact (finishSend_bytesReceived totalSent sendEnd s.stats).trans counted.received
        · rw [← all]
          exact finishSend_bytesSent totalSent sendEnd s.stats

theorem afterTurn_counted (turn : LoopStep ConnStats) (buffer received : List UInt8)
    (failed : Bool) (failedKept : failed = false → s.failed = false) (counted : Counted size s)
    (phase : s.client = .polling ∨ s.client = .reading)
    (bytesSent : turn.state.bytesSent = s.stats.bytesSent)
    (bytesReceived : turn.state.bytesReceived = UInt64.ofNat received.length)
    (returned : ∀ stats, turn = .leave 0 stats → failed = false → received.length = size.bytes) :
    Counted size
      { s.afterTurn turn with
        clientRecvBuf := buffer
        clientReceived := received
        failed := failed } := by
  obtain ⟨sent, counter⟩ := counted.receiving phase
  have unclosed := not_closed size s counted fun ret returned => by
    rw [returned] at phase
    cases phase with
    | inl polling => cases polling
    | inr reading => cases reading
  cases turn with
  | again stats =>
      refine ⟨bytesReceived, (fun sending => nomatch sending),
        fun _ => ⟨sent, bytesSent.trans counter⟩, (fun returned => nomatch returned),
        fun kept => counted.serverClosed (failedKept kept), ?_⟩
      exact fun closed => absurd closed unclosed
  | leave ret stats =>
      refine ⟨bytesReceived, (fun sending => nomatch sending), ?_, ?_,
        fun kept => counted.serverClosed (failedKept kept), fun _ => ⟨ret, rfl⟩⟩
      · rintro (polling | reading)
        · cases polling
        · cases reading
      · intro zero kept
        cases zero
        exact ⟨bytesSent.trans counter, returned stats rfl kept⟩

theorem clientPoll_counted (result : PollResult) (counted : Counted size s)
    (phase : s.client = .polling) (inOrder : InOrder size s) :
    Counted size (s.afterClientPoll result) := by
  obtain ⟨sent, counter⟩ := counted.receiving (Or.inl phase)
  have unclosed := not_closed size s counted fun ret returned => by
    rw [phase] at returned
    cases returned
  unfold Connection.afterClientPoll
  cases turn : pollTurn s.stats result with
  | none =>
      exact ⟨counted.received, (fun sending => nomatch sending), fun _ => ⟨sent, counter⟩,
        (fun returned => nomatch returned), counted.serverClosed,
        fun closed => absurd closed unclosed⟩
  | some loopStep =>
      obtain ⟨sameSent, sameReceived⟩ := pollTurn_counters s.stats result loopStep turn
      refine afterTurn_counted size s loopStep s.clientRecvBuf s.clientReceived _ ?_ counted
        (Or.inl phase) sameSent (sameReceived.trans counted.received) ?_
      · intro kept
        exact (Bool.or_eq_false_iff.mp kept).1
      · intro stats left _
        rw [left] at turn
        exact received_all size s inOrder counted.received counter
          (pollTurn_leaves s.stats result stats turn)

theorem clientRecv_counted (result : IoResult) (counted : Counted size s)
    (phase : s.client = .reading) (inOrder : InOrder size (s.afterClientRecv result))
    (answers : RecvAnswers s.clientRecvBuf s.EndToClient result) :
    Counted size (s.afterClientRecv result) := by
  obtain ⟨sent, counter⟩ := counted.receiving (Or.inr phase)
  obtain ⟨sameSent, added⟩ := recvTurn_counters s.stats result
  have stored : (s.clientRecvBuf.take result.count).length = result.count := by
    rw [List.length_take]
    cases result with
    | interrupted => exact Nat.zero_min _
    | failed => exact Nat.zero_min _
    | bytes count =>
        cases count with
        | zero => exact Nat.zero_min _
        | succ count => exact Nat.min_eq_left answers.1
  have received : (recvTurn s.stats result).state.bytesReceived =
      UInt64.ofNat (s.clientReceived ++ s.clientRecvBuf.take result.count).length := by
    rw [added, counted.received, List.length_append, stored, UInt64.ofNat_add]
  refine afterTurn_counted size s (recvTurn s.stats result) _ _ _ ?_ counted (Or.inr phase)
    sameSent received ?_
  · intro kept
    exact (Bool.or_eq_false_iff.mp kept).1
  · intro stats left kept
    cases recvTurn_leaves s.stats result stats left with
    | inl ended =>
        -- the end of the stream: the server has closed, so the client would have
        subst ended
        have closed := counted.serverClosed (Bool.or_eq_false_iff.mp kept).1 answers.1
        obtain ⟨ret, returned⟩ := counted.clientClosed closed
        rw [phase] at returned
        cases returned
    | inr enough =>
        refine received_all size _ inOrder received (sameSent.trans counter) ?_
        rw [Connection.afterClientRecv, Connection.afterTurn, left]
        exact enough

theorem server_counted (counted : Counted size s) (client : next.client = s.client)
    (totalSent : next.totalSent = s.totalSent) (stats : next.stats = s.stats)
    (closed : next.clientClosed = s.clientClosed)
    (received : next.clientReceived = s.clientReceived)
    (failed : next.failed = false → s.failed = false)
    (serverClosed : next.failed = false → next.server = .closed → s.clientClosed = true) :
    Counted size next := by
  refine ⟨?_, ?_, ?_, ?_, ?_, ?_⟩
  · rw [stats, received]
    exact counted.received
  · rw [client, totalSent, received]
    exact counted.sending
  · rw [client, totalSent, stats]
    exact counted.receiving
  · rw [client, stats, received]
    exact fun returned kept => counted.returned returned (failed kept)
  · rw [closed]
    exact serverClosed
  · rw [closed, client]
    exact counted.clientClosed

theorem serverRecv_counted (result : IoResult) (counted : Counted size s)
    (answers : RecvAnswers s.serverRecvBuf s.EndToServer result) :
    Counted size (s.afterServerRecv result) := by
  cases result with
  | interrupted => exact counted
  | failed =>
      exact server_counted size s _ counted rfl rfl rfl rfl rfl (fun kept => nomatch kept)
        (fun kept => nomatch kept)
  | bytes count =>
      unfold Connection.afterServerRecv
      unfold RecvAnswers at answers
      dsimp only at answers ⊢
      by_cases none : count = 0
      · rw [if_pos none] at answers ⊢
        exact server_counted size s _ counted rfl rfl rfl rfl rfl id fun _ _ => answers.1
      · rw [if_neg none]
        exact server_counted size s _ counted rfl rfl rfl rfl rfl id
          fun _ echoing => nomatch echoing

theorem serverSend_counted (result : IoResult) (counted : Counted size s) :
    Counted size (s.afterServerSend result) := by
  unfold Connection.afterServerSend
  cases sendTurn s.echoSent result with
  | none =>
      exact server_counted size s _ counted rfl rfl rfl rfl rfl (fun kept => nomatch kept)
        (fun kept => nomatch kept)
  | some totalSent =>
      refine server_counted size s _ counted rfl rfl rfl rfl rfl id ?_
      intro _ closed
      dsimp only at closed
      split at closed
      · cases closed
      · cases closed

theorem step_counted (event : ConnectionEvent) (inOrder : InOrder size s)
    (counted : Counted size s) (taken : s.step capacities size event = some next) :
    Counted size next := by
  have inOrder' := step_inOrder capacities size s next event inOrder taken
  cases event with
  | clientSend result sendEnd =>
      obtain ⟨phase, _, rfl⟩ := step_clientSend capacities size s next result sendEnd taken
      exact clientSend_counted size s result sendEnd counted phase inOrder'
  | clientPoll result =>
      obtain ⟨phase, rfl⟩ := step_clientPoll capacities size s next result taken
      exact clientPoll_counted size s result counted phase inOrder
  | clientRecv result =>
      obtain ⟨phase, answers, rfl⟩ := step_clientRecv capacities size s next result taken
      exact clientRecv_counted size s result counted phase inOrder' answers
  | clientClose =>
      obtain ⟨returned, rfl⟩ := step_clientClose capacities size s next taken
      exact ⟨counted.received, counted.sending, counted.receiving, counted.returned,
        fun _ _ => rfl, fun _ => returned⟩
  | serverRecv result =>
      obtain ⟨_, answers, rfl⟩ := step_serverRecv capacities size s next result taken
      exact serverRecv_counted size s result counted answers
  | serverSend result =>
      obtain ⟨_, _, rfl⟩ := step_serverSend capacities size s next result taken
      exact serverSend_counted size s result counted
  | carryToServer count =>
      obtain ⟨_, rfl⟩ := step_carryToServer capacities size s next count taken
      exact server_counted size s _ counted rfl rfl rfl rfl rfl id counted.serverClosed
  | carryToClient count =>
      obtain ⟨_, rfl⟩ := step_carryToClient capacities size s next count taken
      exact server_counted size s _ counted rfl rfl rfl rfl rfl id counted.serverClosed

end Counts

/-! ## Runs -/

section Runs
variable (capacities : Capacities) (size : DataSize) (answers : ConnectAnswers)
  (events : List ConnectionEvent)

theorem run_inOrder_counted :
    ∀ t ∈ Connection.run capacities size answers events,
      InOrder size t.after ∧ Counted size t.after := by
  intro t taken
  have kept := transitions_inv (Connection.step capacities size)
    (fun s => InOrder size s ∧ Counted size s) (fun _ _ => True)
    (fun s event next holds _ step =>
      ⟨step_inOrder capacities size s next event holds.1 step,
        step_counted capacities size s next event holds.1 holds.2 step⟩)
    (Connection.start answers) ⟨start_inOrder size answers, start_counted size answers⟩ events
    (fun _ _ => trivial) t taken
  exact kept.2

/-- Whatever the interleaving, the bytes come back in order, and a client that
returns 0 after no call failed has received as many as it has sent. -/
theorem run_echoes_in_order :
    ∀ t ∈ Connection.run capacities size answers events,
      (t.after.clientReceived <+: t.after.echoed ∧ t.after.echoed <+: t.after.serverReceived ∧
        t.after.serverReceived <+: fillBuffer size.bytes) ∧
      (t.after.failed = false → t.after.client = .returned 0 →
        t.after.stats.bytesSent.toNat = size.bytes ∧
          t.after.stats.bytesReceived.toNat = size.bytes) := by
  intro t taken
  obtain ⟨inOrder, counted⟩ := run_inOrder_counted capacities size answers events t taken
  refine ⟨⟨?_, ?_, ?_⟩, ?_⟩
  · rw [inOrder.echoed, List.append_assoc]
    exact List.prefix_append _ _
  · rw [inOrder.received]
    exact List.prefix_append _ _
  · have sent : t.after.serverReceived <+: (fillBuffer size.bytes).take t.after.totalSent := by
      rw [inOrder.sent, List.append_assoc]
      exact List.prefix_append _ _
    exact sent.trans (List.take_prefix _ _)
  · intro kept returned
    obtain ⟨sent, received⟩ := counted.returned returned kept
    have word : (UInt64.ofNat size.bytes).toNat = size.bytes := by
      have bounded := size.bounded
      exact UInt64.toNat_ofNat_of_lt' (by unfold UInt64.size; omega)
    rw [sent, counted.received, received]
    exact ⟨word, word⟩

end Runs

def connectAnswers : ConnectAnswers := ⟨⟨1, 0⟩, ⟨1, 0⟩, true, true, true⟩

def unlimited : Capacities := ⟨none, none, none, none⟩

/-- Two bytes in two parts, with an interrupted call in between. -/
def twoBytes : List ConnectionEvent :=
  [.clientSend (.bytes 1) ⟨2, 0⟩, .carryToServer 1, .serverRecv (.bytes 1),
    .clientSend .interrupted ⟨2, 0⟩, .clientSend (.bytes 1) ⟨2, 0⟩, .serverSend (.bytes 1),
    .carryToServer 1, .carryToClient 1, .serverRecv (.bytes 1), .clientPoll .ready,
    .clientRecv (.bytes 1), .serverSend (.bytes 1), .carryToClient 1, .clientPoll .ready,
    .clientRecv (.bytes 1)]

theorem twoBytes_echoed :
    ∃ t ∈ Connection.run unlimited ⟨2, by decide, by decide⟩ connectAnswers twoBytes,
      t.after.client = .returned 0 ∧ t.after.echoed <+: t.after.serverReceived ∧
        t.after.stats.bytesReceived.toNat = 2 := by
  have reached : ∃ t ∈ Connection.run unlimited ⟨2, by decide, by decide⟩ connectAnswers twoBytes,
      t.after.client = .returned 0 ∧ t.after.failed = false := by
    decide
  obtain ⟨t, taken, returned, kept⟩ := reached
  obtain ⟨order, counts⟩ := run_echoes_in_order _ _ _ _ t taken
  exact ⟨t, taken, returned, order.2.1, (counts kept returned).2⟩

end TlshubEbpf.Bench
