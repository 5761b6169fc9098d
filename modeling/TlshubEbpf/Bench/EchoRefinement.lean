import TlshubEbpf.Bench.Connection
import TlshubEbpf.Bench.EchoServer

/-! # The echo loop and the server end of a connection

The calls that the server end makes in a run of the connection, whatever the client and the
network do between them, are answered to the loop of `echo_server_handle_client` in the
same order.  The loop then receives and sends the same bytes, and returns if the server end
has closed; otherwise it waits for its next call. -/

set_option autoImplicit false

namespace TlshubEbpf.Bench

open Lib

def recvAnswer (buffered : List UInt8) : IoResult → ServerRecv
  | .bytes count => .bytes (buffered.take count)
  | .interrupted => .interrupted
  | .failed => .failed

def sendAnswer : IoResult → ServerSend
  | .bytes count => .bytes count
  | .interrupted => .interrupted
  | .failed => .failed

/-- What is left of the current turn, and the turns after it. -/
def serverAnswers :
    List (Transition Connection ConnectionEvent) → List ServerSend × List EchoTurn
  | [] => ([], [])
  | t :: rest =>
      match t.event with
      | .serverSend result => (sendAnswer result :: (serverAnswers rest).1, (serverAnswers rest).2)
      | .serverRecv result =>
          ([], ⟨recvAnswer t.before.serverRecvBuf result, (serverAnswers rest).1⟩ ::
            (serverAnswers rest).2)
      | _ => serverAnswers rest

def ConnectionEvent.ofServer : ConnectionEvent → Bool
  | .serverRecv _ => true
  | .serverSend _ => true
  | _ => false

structure ServerEnd where
  server : ServerPhase
  chunk : List UInt8
  echoSent : ℕ
  serverReceived : List UInt8
  echoed : List UInt8

def Connection.serverEnd (s : Connection) : ServerEnd :=
  ⟨s.server, s.chunk, s.echoSent, s.serverReceived, s.echoed⟩

section Simulation
variable (capacities : Capacities) (size : DataSize)

theorem step_serverEnd (s next : Connection) (event : ConnectionEvent)
    (other : event.ofServer = false) (taken : s.step capacities size event = some next) :
    next.serverEnd = s.serverEnd := by
  cases event with
  | clientSend result sendEnd =>
      rw [(step_clientSend capacities size s next result sendEnd taken).2.2]
      unfold Connection.afterClientSend
      split
      · rfl
      · dsimp only
        split <;> rfl
  | clientPoll result =>
      rw [(step_clientPoll capacities size s next result taken).2]
      unfold Connection.afterClientPoll
      split <;> rfl
  | clientRecv result =>
      rw [(step_clientRecv capacities size s next result taken).2.2]
      rfl
  | clientClose =>
      rw [(step_clientClose capacities size s next taken).2]
      rfl
  | carryToServer count =>
      rw [(step_carryToServer capacities size s next count taken).2]
      rfl
  | carryToClient count =>
      rw [(step_carryToClient capacities size s next count taken).2]
      rfl
  | serverRecv result => cases other
  | serverSend result => cases other

theorem serverAnswers_other (t : Transition Connection ConnectionEvent)
    (rest : List (Transition Connection ConnectionEvent)) (other : t.event.ofServer = false) :
    serverAnswers (t :: rest) = serverAnswers rest := by
  obtain ⟨before, event, after⟩ := t
  cases event <;> first | rfl | cases other

/-! ## The simulation -/

def ServerEnd.program (s : ServerEnd) (answers : List ServerSend × List EchoTurn) :
    Program EchoServer EchoEnd :=
  match s.server with
  | .receiving => echoLoop answers.2
  | .echoing => do
      let sent ← sendAll s.chunk s.echoSent answers.1
      if sent = false then
        return .sendFailed
      echoLoop answers.2
  | .closed => pure .clientClosed

structure ServerEnd.Matches (s : ServerEnd) (e : EchoServer) : Prop where
  within : s.server = .echoing → s.echoSent < s.chunk.length
  received : e.received = s.serverReceived
  echoed : e.echoed = s.echoed

/-- The loop has handled the same bytes as the server end, and returns if that has closed. -/
structure Simulated (result : Outcome EchoEnd × EchoServer) (e : EchoServer)
    (final : Connection) : Prop where
  state : result.2 = { e with received := final.serverReceived, echoed := final.echoed }
  returns : final.server = .closed → ∃ ended, result.1 = .returned ended
  waits : final.server ≠ .closed → result.1 = .blocked

theorem Simulated.closed {e e' : EchoServer} {final : Connection}
    (simulated : Simulated (.returned .clientClosed, e) e' final) (ended : EchoEnd) :
    Simulated (.returned ended, e) e' final where
  state := simulated.state
  returns := fun _ => ⟨ended, rfl⟩
  waits := fun isOpen => by cases simulated.waits isOpen

theorem sendAll_done (data : List UInt8) (totalSent : ℕ) (sends : List ServerSend)
    (done : ¬ totalSent < data.length) (e : EchoServer) :
    sendAll data totalSent sends e = (.returned true, e) := by
  cases sends with
  | nil =>
      unfold sendAll
      exact if_neg done
  | cons result rest =>
      unfold sendAll
      exact congrFun (if_neg done) e

theorem sendAll_more (data : List UInt8) (totalSent : ℕ) (result : ServerSend)
    (rest : List ServerSend) (more : totalSent < data.length) (e : EchoServer) :
    sendAll data totalSent (result :: rest) e =
      (match result with
        | .bytes bytesSent =>
            sendAll data (totalSent + bytesSent) rest
              { e with echoed := e.echoed ++ (data.drop totalSent).take bytesSent }
        | .interrupted => sendAll data totalSent rest e
        | .failed => (.returned false, e)
        | .brokenPipe => (.exited sigpipeStatus, e)) := by
  rw [sendAll.eq_def]
  dsimp only
  rw [if_pos more]
  cases result <;> rfl

def answersOf (s : Connection) (events : List ConnectionEvent) :
    List ServerSend × List EchoTurn :=
  serverAnswers (transitions (Connection.step capacities size) s events)

def Simulates (events : List ConnectionEvent) (s final : Connection) : Prop :=
  ∀ e : EchoServer, s.serverEnd.Matches e →
    Simulated (s.serverEnd.program (answersOf capacities size s events) e) e final

theorem simulates_nil (s : Connection) : Simulates capacities size [] s s := by
  intro e matching
  have same : e = { e with received := s.serverReceived, echoed := s.echoed } := by
    rw [← show e.received = s.serverReceived from matching.received,
      ← show e.echoed = s.echoed from matching.echoed]
  unfold ServerEnd.program
  cases phase : s.serverEnd.server with
  | receiving =>
      exact ⟨same, fun closed => (by cases phase.symm.trans closed), fun _ => rfl⟩
  | echoing =>
      have waits : sendAll s.serverEnd.chunk s.serverEnd.echoSent [] e = (.blocked, e) := by
        unfold sendAll
        exact if_pos (matching.within phase)
      simp only [answersOf, transitions, serverAnswers, Program.bind_apply, waits]
      exact ⟨same, fun closed => (by cases phase.symm.trans closed), fun _ => rfl⟩
  | closed => exact ⟨same, fun _ => ⟨.clientClosed, rfl⟩, fun isOpen => absurd phase isOpen⟩

section Step
variable (rest : List ConnectionEvent) (s next final : Connection)
  (later : Simulates capacities size rest next final)
include later

theorem simulates_other (event : ConnectionEvent) (other : event.ofServer = false)
    (taken : s.step capacities size event = some next) :
    Simulates capacities size (event :: rest) s final := by
  intro e matching
  have same := step_serverEnd capacities size s next event other taken
  have answers : answersOf capacities size s (event :: rest) =
      answersOf capacities size next rest := by
    simp only [answersOf, transitions, taken]
    exact serverAnswers_other _ _ other
  rw [answers, ← same]
  exact later e (same ▸ matching)

theorem simulated_closed (e : EchoServer) (matching : s.serverEnd.Matches e)
    (closed : next.serverEnd = ⟨.closed, s.chunk, s.echoSent, s.serverReceived, s.echoed⟩)
    (ended : EchoEnd) : Simulated (.returned ended, e) e final := by
  have matches' : next.serverEnd.Matches e := by
    rw [closed]
    exact ⟨fun echoing => (by cases echoing), matching.received, matching.echoed⟩
  have met := later e matches'
  rw [closed] at met
  exact met.closed ended

theorem simulates_serverRecv (result : IoResult)
    (taken : s.step capacities size (.serverRecv result) = some next) :
    Simulates capacities size (.serverRecv result :: rest) s final := by
  intro e matching
  obtain ⟨phase, allowed, after⟩ := step_serverRecv capacities size s next result taken
  have received : e.received = s.serverReceived := matching.received
  have answers : answersOf capacities size s (.serverRecv result :: rest) =
      ([], ⟨recvAnswer s.serverRecvBuf result, (answersOf capacities size next rest).1⟩ ::
        (answersOf capacities size next rest).2) := by
    simp only [answersOf, transitions, taken, serverAnswers]
  have here : s.serverEnd = ⟨.receiving, s.chunk, s.echoSent, s.serverReceived, s.echoed⟩ := by
    rw [Connection.serverEnd, phase]
  have closes := simulated_closed capacities size rest s next final later e matching
  rw [answers, here]
  cases result with
  | interrupted =>
      have same : next = s := after
      have met := later e (same ▸ matching)
      rw [same, here] at met
      rw [same]
      exact met
  | failed => exact closes (by rw [after]; rfl) .recvFailed
  | bytes count =>
      by_cases none : count = 0
      · have closed := closes (by rw [after, none]; rfl) .clientClosed
        subst none
        exact closed
      · have stores : next.serverEnd = ⟨.echoing, s.serverRecvBuf.take count, 0,
            s.serverReceived ++ s.serverRecvBuf.take count, s.echoed⟩ := by
          rw [after]
          exact congrArg Connection.serverEnd (if_neg none)
        have length : (s.serverRecvBuf.take count).length = count := by
          rw [RecvAnswers, if_neg none] at allowed
          exact List.length_take_of_le allowed.1
        have stored : s.serverRecvBuf.take count ≠ [] := by
          intro empty
          rw [empty] at length
          exact none length.symm
        have met := later { e with received := e.received ++ s.serverRecvBuf.take count } (by
          rw [stores]
          exact ⟨fun _ => (by dsimp only; omega), congrArg (· ++ _) received, matching.echoed⟩)
        rw [stores] at met
        show Simulated (echoLoop (⟨.bytes (s.serverRecvBuf.take count), _⟩ :: _) e) e final
        rw [echoLoop]
        dsimp only
        rw [if_neg stored]
        exact ⟨met.state, met.returns, met.waits⟩

theorem simulates_serverSend (result : IoResult)
    (taken : s.step capacities size (.serverSend result) = some next) :
    Simulates capacities size (.serverSend result :: rest) s final := by
  intro e matching
  obtain ⟨phase, allowed, after⟩ := step_serverSend capacities size s next result taken
  have room : s.echoSent < s.chunk.length := matching.within phase
  have echoed : e.echoed = s.echoed := matching.echoed
  have answers : answersOf capacities size s (.serverSend result :: rest) =
      (sendAnswer result :: (answersOf capacities size next rest).1,
        (answersOf capacities size next rest).2) := by
    simp only [answersOf, transitions, taken, serverAnswers]
  have here : s.serverEnd = ⟨.echoing, s.chunk, s.echoSent, s.serverReceived, s.echoed⟩ := by
    rw [Connection.serverEnd, phase]
  rw [answers, here]
  show Simulated ((sendAll s.chunk s.echoSent _ >>= _) e) e final
  rw [Program.bind_apply]
  dsimp only
  rw [sendAll_more _ _ _ _ room]
  cases result with
  | interrupted =>
      have again : next.serverEnd = ⟨.echoing, s.chunk, s.echoSent, s.serverReceived, s.echoed⟩ := by
        rw [after]
        simp only [Connection.afterServerSend, sendTurn, if_pos room, Connection.serverEnd,
          IoResult.count, List.take_zero, List.append_nil]
      have met := later e (again.trans here.symm ▸ matching)
      rw [again] at met
      exact met
  | failed =>
      have closed : next.serverEnd = ⟨.closed, s.chunk, s.echoSent, s.serverReceived, s.echoed⟩ := by
        rw [after]
        rfl
      exact simulated_closed capacities size rest s next final later e matching closed .sendFailed
  | bytes count =>
      let sent : EchoServer := { e with echoed := e.echoed ++ (s.chunk.drop s.echoSent).take count }
      have appended : sent.echoed = s.echoed ++ s.unechoed.take count :=
        congrArg (· ++ _) echoed
      by_cases more : s.echoSent + count < s.chunk.length
      · have goesOn : next.serverEnd = ⟨.echoing, s.chunk, s.echoSent + count, s.serverReceived,
            s.echoed ++ s.unechoed.take count⟩ := by
          rw [after]
          simp only [Connection.afterServerSend, sendTurn, if_pos more, Connection.serverEnd,
            IoResult.count]
        have met := later sent (by
          rw [goesOn]
          exact ⟨fun _ => more, matching.received, appended⟩)
        rw [goesOn] at met
        exact ⟨met.state, met.returns, met.waits⟩
      · have receives : next.serverEnd = ⟨.receiving, s.chunk, s.echoSent + count,
            s.serverReceived, s.echoed ++ s.unechoed.take count⟩ := by
          rw [after]
          simp only [Connection.afterServerSend, sendTurn, if_neg more, Connection.serverEnd,
            IoResult.count]
        have met := later sent (by
          rw [receives]
          exact ⟨fun echoing => (by cases echoing), matching.received, appended⟩)
        rw [receives] at met
        dsimp only [sendAnswer]
        rw [sendAll_done _ _ _ more]
        exact ⟨met.state, met.returns, met.waits⟩

end Step

theorem serverProgram_simulates (events : List ConnectionEvent) (s final : Connection)
    (reached : events.foldlM (Connection.step capacities size) s = some final) :
    Simulates capacities size events s final := by
  induction events generalizing s with
  | nil =>
      cases reached
      exact simulates_nil capacities size _
  | cons event rest ih =>
      rw [List.foldlM_cons] at reached
      obtain ⟨next, taken, reached'⟩ := Option.bind_eq_some_iff.mp reached
      have later := ih next reached'
      cases event with
      | serverRecv result =>
          exact simulates_serverRecv capacities size rest s next final later result taken
      | serverSend result =>
          exact simulates_serverSend capacities size rest s next final later result taken
      | clientSend | clientPoll | clientRecv | clientClose | carryToServer | carryToClient =>
          exact simulates_other capacities size rest s next final later _ rfl taken

/-- In every run of a connection the server's function handles the bytes that the server end
handles, closes its socket if that has closed, and waits otherwise. -/
theorem handleClient_refines (answers : ConnectAnswers) (events : List ConnectionEvent)
    (final : Connection)
    (reached : events.foldlM (Connection.step capacities size) (Connection.start answers) =
      some final)
    (number : ℕ) (e : EchoServer) :
    let turns := (answersOf capacities size (Connection.start answers) events).2
    (final.server = .closed → ∃ ended, echoServerHandleClient number turns e =
      (.returned (),
        { e with
          received := final.serverReceived
          echoed := final.echoed
          uses := e.uses ++ [.release (.client number)]
          served := e.served ++ [⟨final.serverReceived, final.echoed, ended⟩] })) ∧
      (final.server ≠ .closed → echoServerHandleClient number turns e =
        (.blocked,
          { e with received := final.serverReceived, echoed := final.echoed })) := by
  intro turns
  have fresh : (Connection.start answers).serverEnd.Matches { e with received := [], echoed := [] } :=
    ⟨fun echoing => (by cases echoing), rfl, rfl⟩
  have simulated := serverProgram_simulates capacities size events _ final reached _ fresh
  have looped : Simulated (echoLoop turns { e with received := [], echoed := [] }) _ final :=
    simulated
  have handled : echoServerHandleClient number turns e =
      (echoLoop turns >>= fun ended => useSocket (.release (.client number)) >>= fun _ =>
        Program.modify fun s => { s with served := s.served ++ [⟨s.received, s.echoed, ended⟩] })
        { e with received := [], echoed := [] } := rfl
  rw [handled, Program.bind_apply]
  rcases ran : echoLoop turns { e with received := [], echoed := [] } with ⟨outcome, e'⟩
  rw [ran] at looped
  obtain ⟨state, returns, waits⟩ := looped
  constructor
  · intro closed
    obtain ⟨ended, isReturned⟩ := returns closed
    dsimp only at state isReturned
    rw [isReturned, state]
    exact ⟨ended, rfl⟩
  · intro isOpen
    have blocked := waits isOpen
    dsimp only at state blocked
    rw [blocked, state]

end Simulation

/-- A byte is echoed in two parts of a run, and the client closes. -/
def echoedByte : List ConnectionEvent :=
  [.clientSend (.bytes 1) ⟨1, 0⟩, .carryToServer 1, .serverRecv .interrupted,
    .serverRecv (.bytes 1), .clientPoll .ready, .serverSend .interrupted, .serverSend (.bytes 1),
    .carryToClient 1, .clientRecv (.bytes 1), .clientClose, .serverRecv (.bytes 0)]

theorem echoedByte_handled :
    ∃ final, echoedByte.foldlM (Connection.step ⟨none, none, none, none⟩ ⟨1, by decide, by decide⟩)
        (Connection.start ⟨⟨0, 0⟩, ⟨0, 1⟩, true, true, true⟩) = some final ∧
      final.server = .closed ∧ ∃ ended,
        (echoServerHandleClient 0 (answersOf ⟨none, none, none, none⟩ ⟨1, by decide, by decide⟩
          (Connection.start ⟨⟨0, 0⟩, ⟨0, 1⟩, true, true, true⟩) echoedByte).2
          EchoServer.start).2.served = [⟨[0], [0], ended⟩] := by
  refine ⟨_, rfl, rfl, ?_⟩
  obtain ⟨ended, handled⟩ := (handleClient_refines ⟨none, none, none, none⟩
    ⟨1, by decide, by decide⟩ ⟨⟨0, 0⟩, ⟨0, 1⟩, true, true, true⟩ echoedByte _ rfl 0
    EchoServer.start).1 rfl
  exact ⟨ended, by rw [handled]; rfl⟩

end TlshubEbpf.Bench
