import TlshubEbpf.Bench.TcpClient
import TlshubEbpf.Lib.Transitions

/-! # A client and the echo server at the two ends of a connection

Each direction of the connection is a send buffer and a receive buffer between
which the network carries bytes in order.  The client runs `tcp_client_send_data`
and then `tcp_client_receive_data`, the server `echo_server_handle_client`; every
system call of either and every transfer of bytes is a step. -/

set_option autoImplicit false

namespace TlshubEbpf.Bench

open Lib

/-- How many bytes each buffer holds; `none` is a buffer without a limit. -/
structure Capacities where
  clientSend : Option Nat
  serverRecv : Option Nat
  serverSend : Option Nat
  clientRecv : Option Nat

inductive ClientPhase where
  | sending
  | polling
  | reading
  | returned (ret : Int)
  deriving DecidableEq, Repr

inductive ServerPhase where
  | receiving
  | echoing
  | closed
  deriving DecidableEq, Repr

structure Connection where
  client : ClientPhase
  totalSent : Nat
  stats : ConnStats
  clientClosed : Bool
  clientSendBuf : List UInt8
  serverRecvBuf : List UInt8
  serverSendBuf : List UInt8
  clientRecvBuf : List UInt8
  server : ServerPhase
  /-- What the server's latest `recv` stored. -/
  chunk : List UInt8
  echoSent : Nat
  serverReceived : List UInt8
  echoed : List UInt8
  clientReceived : List UInt8
  /-- Whether a call has failed with an error other than EINTR. -/
  failed : Bool

inductive ConnectionEvent where
  | clientSend (result : IoResult) (sendEnd : Timespec)
  | clientPoll (result : PollResult)
  | clientRecv (result : IoResult)
  | clientClose
  | serverRecv (result : IoResult)
  | serverSend (result : IoResult)
  | carryToServer (count : Nat)
  | carryToClient (count : Nat)
  deriving DecidableEq, Repr

def Connection.start (answers : ConnectAnswers) : Connection :=
  { client := .sending
    totalSent := 0
    stats := { (tcpClientConnect answers ConnStats.zeroed).2 with state := .sending }
    clientClosed := false
    clientSendBuf := []
    serverRecvBuf := []
    serverSendBuf := []
    clientRecvBuf := []
    server := .receiving
    chunk := []
    echoSent := 0
    serverReceived := []
    echoed := []
    clientReceived := []
    failed := false }

def Fits (capacity : Option Nat) (count : Nat) : Prop :=
  ∀ limit ∈ capacity, count ≤ limit

instance (capacity : Option Nat) (count : Nat) : Decidable (Fits capacity count) :=
  inferInstanceAs (Decidable (∀ limit ∈ capacity, _))

/-- `send` takes a part of what it is given for which there is room. -/
def SendAnswers (capacity : Option Nat) (buffered offered : List UInt8) : IoResult → Prop
  | .bytes count =>
      0 < count ∧ count ≤ offered.length ∧ Fits capacity (buffered.length + count)
  | .interrupted => True
  | .failed => True

/-- `recv` stores a part of what is there, and returns 0 at the end of the stream. -/
def RecvAnswers (buffered : List UInt8) (ended : Prop) : IoResult → Prop
  | .bytes count =>
      if count = 0 then ended else count ≤ buffered.length ∧ count ≤ bufferSize
  | .interrupted => True
  | .failed => True

instance (capacity : Option Nat) (buffered offered : List UInt8) (result : IoResult) :
    Decidable (SendAnswers capacity buffered offered result) :=
  match result with
  | .bytes _ => inferInstanceAs (Decidable (_ ∧ _ ∧ _))
  | .interrupted => inferInstanceAs (Decidable True)
  | .failed => inferInstanceAs (Decidable True)

instance (buffered : List UInt8) (ended : Prop) [Decidable ended] (result : IoResult) :
    Decidable (RecvAnswers buffered ended result) :=
  match result with
  | .bytes count =>
      inferInstanceAs (Decidable
        (if count = 0 then ended else count ≤ buffered.length ∧ count ≤ bufferSize))
  | .interrupted => inferInstanceAs (Decidable True)
  | .failed => inferInstanceAs (Decidable True)

/-- The end of the stream to the server: the client has closed and all is read. -/
def Connection.EndToServer (s : Connection) : Prop :=
  s.clientClosed = true ∧ s.clientSendBuf = [] ∧ s.serverRecvBuf = []

def Connection.EndToClient (s : Connection) : Prop :=
  s.server = .closed ∧ s.serverSendBuf = [] ∧ s.clientRecvBuf = []

instance (s : Connection) : Decidable s.EndToServer :=
  inferInstanceAs (Decidable (_ ∧ _ ∧ _))

instance (s : Connection) : Decidable s.EndToClient :=
  inferInstanceAs (Decidable (_ ∧ _ ∧ _))

/-- The bytes given to `send`: `buffer + total_sent`. -/
def Connection.unsent (size : DataSize) (s : Connection) : List UInt8 :=
  (fillBuffer size.bytes).drop s.totalSent

def Connection.afterClientSend (size : DataSize) (result : IoResult) (sendEnd : Timespec)
    (s : Connection) : Connection :=
  match sendTurn s.totalSent result with
  | none =>
      { s with client := .returned (-1), stats := { s.stats with state := .failed }, failed := true }
  | some totalSent =>
      let s :=
        { s with
          totalSent := totalSent
          clientSendBuf := s.clientSendBuf ++ (s.unsent size).take result.count }
      if totalSent < size.bytes then
        s
      else
        { s with
          client := .polling
          stats := { finishSend totalSent sendEnd s.stats with state := .receiving } }

def phaseAfter : LoopStep ConnStats → ClientPhase
  | .again _ => .polling
  | .leave ret _ => .returned ret

def Connection.afterTurn (turn : LoopStep ConnStats) (s : Connection) : Connection :=
  { s with client := phaseAfter turn, stats := turn.state }

def Connection.afterClientPoll (result : PollResult) (s : Connection) : Connection :=
  match pollTurn s.stats result with
  | none => { s with client := .reading }
  | some turn => { s.afterTurn turn with failed := s.failed || decide (result = .failed) }

def Connection.afterClientRecv (result : IoResult) (s : Connection) : Connection :=
  { s.afterTurn (recvTurn s.stats result) with
    clientRecvBuf := s.clientRecvBuf.drop result.count
    clientReceived := s.clientReceived ++ s.clientRecvBuf.take result.count
    failed := s.failed || decide (result = .failed) }

def Connection.afterServerRecv (result : IoResult) (s : Connection) : Connection :=
  match result with
  | .interrupted => s
  | .failed => { s with server := .closed, failed := true }
  | .bytes bytesReceived =>
      if bytesReceived = 0 then
        { s with server := .closed }
      else
        { s with
          server := .echoing
          chunk := s.serverRecvBuf.take bytesReceived
          echoSent := 0
          serverRecvBuf := s.serverRecvBuf.drop bytesReceived
          serverReceived := s.serverReceived ++ s.serverRecvBuf.take bytesReceived }

def Connection.unechoed (s : Connection) : List UInt8 :=
  s.chunk.drop s.echoSent

def Connection.afterServerSend (result : IoResult) (s : Connection) : Connection :=
  match sendTurn s.echoSent result with
  | none => { s with server := .closed, failed := true }
  | some totalSent =>
      { s with
        server := if totalSent < s.chunk.length then .echoing else .receiving
        echoSent := totalSent
        serverSendBuf := s.serverSendBuf ++ s.unechoed.take result.count
        echoed := s.echoed ++ s.unechoed.take result.count }

/-- A call is answered as its buffer allows; `poll` may answer anything. -/
def Connection.step (capacities : Capacities) (size : DataSize) (s : Connection) :
    ConnectionEvent → Option Connection
  | .clientSend result sendEnd =>
      if s.client = .sending ∧
          SendAnswers capacities.clientSend s.clientSendBuf (s.unsent size) result then
        some (s.afterClientSend size result sendEnd)
      else
        none
  | .clientPoll result => if s.client = .polling then some (s.afterClientPoll result) else none
  | .clientRecv result =>
      if s.client = .reading ∧ RecvAnswers s.clientRecvBuf s.EndToClient result then
        some (s.afterClientRecv result)
      else
        none
  | .clientClose =>
      match s.client with
      | .returned _ => some { s with clientClosed := true }
      | _ => none
  | .serverRecv result =>
      if s.server = .receiving ∧ RecvAnswers s.serverRecvBuf s.EndToServer result then
        some (s.afterServerRecv result)
      else
        none
  | .serverSend result =>
      if s.server = .echoing ∧
          SendAnswers capacities.serverSend s.serverSendBuf s.unechoed result then
        some (s.afterServerSend result)
      else
        none
  | .carryToServer count =>
      if count ≤ s.clientSendBuf.length ∧
          Fits capacities.serverRecv (s.serverRecvBuf.length + count) then
        some
          { s with
            clientSendBuf := s.clientSendBuf.drop count
            serverRecvBuf := s.serverRecvBuf ++ s.clientSendBuf.take count }
      else
        none
  | .carryToClient count =>
      if count ≤ s.serverSendBuf.length ∧
          Fits capacities.clientRecv (s.clientRecvBuf.length + count) then
        some
          { s with
            serverSendBuf := s.serverSendBuf.drop count
            clientRecvBuf := s.clientRecvBuf ++ s.serverSendBuf.take count }
      else
        none

def Connection.run (capacities : Capacities) (size : DataSize) (answers : ConnectAnswers)
    (events : List ConnectionEvent) : List (Transition Connection ConnectionEvent) :=
  transitions (Connection.step capacities size) (Connection.start answers) events

/-! ## What one step can do -/

section Steps
variable (capacities : Capacities) (size : DataSize) (s next : Connection)

theorem step_clientSend (result : IoResult) (sendEnd : Timespec)
    (taken : s.step capacities size (.clientSend result sendEnd) = some next) :
    s.client = .sending ∧
      SendAnswers capacities.clientSend s.clientSendBuf (s.unsent size) result ∧
      next = s.afterClientSend size result sendEnd := by
  obtain ⟨⟨phase, answers⟩, after⟩ := Option.ite_none_right_eq_some.mp taken
  exact ⟨phase, answers, (Option.some.inj after).symm⟩

theorem step_clientPoll (result : PollResult)
    (taken : s.step capacities size (.clientPoll result) = some next) :
    s.client = .polling ∧ next = s.afterClientPoll result := by
  obtain ⟨phase, after⟩ := Option.ite_none_right_eq_some.mp taken
  exact ⟨phase, (Option.some.inj after).symm⟩

theorem step_clientRecv (result : IoResult)
    (taken : s.step capacities size (.clientRecv result) = some next) :
    s.client = .reading ∧ RecvAnswers s.clientRecvBuf s.EndToClient result ∧
      next = s.afterClientRecv result := by
  obtain ⟨⟨phase, answers⟩, after⟩ := Option.ite_none_right_eq_some.mp taken
  exact ⟨phase, answers, (Option.some.inj after).symm⟩

theorem step_clientClose (taken : s.step capacities size .clientClose = some next) :
    (∃ ret, s.client = .returned ret) ∧ next = { s with clientClosed := true } := by
  unfold Connection.step at taken
  dsimp only at taken
  cases phase : s.client with
  | returned ret =>
      rw [phase] at taken
      exact ⟨⟨ret, rfl⟩, (Option.some.inj taken).symm⟩
  | sending => rw [phase] at taken; cases taken
  | polling => rw [phase] at taken; cases taken
  | reading => rw [phase] at taken; cases taken

theorem step_serverRecv (result : IoResult)
    (taken : s.step capacities size (.serverRecv result) = some next) :
    s.server = .receiving ∧ RecvAnswers s.serverRecvBuf s.EndToServer result ∧
      next = s.afterServerRecv result := by
  obtain ⟨⟨phase, answers⟩, after⟩ := Option.ite_none_right_eq_some.mp taken
  exact ⟨phase, answers, (Option.some.inj after).symm⟩

theorem step_serverSend (result : IoResult)
    (taken : s.step capacities size (.serverSend result) = some next) :
    s.server = .echoing ∧
      SendAnswers capacities.serverSend s.serverSendBuf s.unechoed result ∧
      next = s.afterServerSend result := by
  obtain ⟨⟨phase, answers⟩, after⟩ := Option.ite_none_right_eq_some.mp taken
  exact ⟨phase, answers, (Option.some.inj after).symm⟩

theorem step_carryToServer (count : Nat)
    (taken : s.step capacities size (.carryToServer count) = some next) :
    (count ≤ s.clientSendBuf.length ∧
        Fits capacities.serverRecv (s.serverRecvBuf.length + count)) ∧
      next = { s with
        clientSendBuf := s.clientSendBuf.drop count
        serverRecvBuf := s.serverRecvBuf ++ s.clientSendBuf.take count } := by
  obtain ⟨allowed, after⟩ := Option.ite_none_right_eq_some.mp taken
  exact ⟨allowed, (Option.some.inj after).symm⟩

theorem step_carryToClient (count : Nat)
    (taken : s.step capacities size (.carryToClient count) = some next) :
    (count ≤ s.serverSendBuf.length ∧
        Fits capacities.clientRecv (s.clientRecvBuf.length + count)) ∧
      next = { s with
        serverSendBuf := s.serverSendBuf.drop count
        clientRecvBuf := s.clientRecvBuf ++ s.serverSendBuf.take count } := by
  obtain ⟨allowed, after⟩ := Option.ite_none_right_eq_some.mp taken
  exact ⟨allowed, (Option.some.inj after).symm⟩

end Steps
end TlshubEbpf.Bench
