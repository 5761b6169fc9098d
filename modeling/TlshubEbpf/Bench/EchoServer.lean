import TlshubEbpf.Bench.TcpClient
import TlshubEbpf.Lib.Ledger
import TlshubEbpf.Lib.Transitions
import TlshubEbpf.Lib.Triple

/-! # The echo server (`echo_server.c`)

`run_echo_server` handles one client after the other.  The system calls answer as the
arrivals say, and a run whose answers are used up is still waiting for the next one. -/

set_option autoImplicit false

namespace TlshubEbpf.Bench

open Lib

inductive ServerSocket where
  | listener
  | client (number : ℕ)
  deriving DecidableEq, Repr

/-- A call of `recv`; no bytes are the end of the stream. -/
inductive ServerRecv where
  | bytes (data : List UInt8)
  | interrupted
  | failed
  deriving DecidableEq, Repr

/-- A call of `send`; a broken pipe raises SIGPIPE, which the server does not handle. -/
inductive ServerSend where
  | bytes (count : ℕ)
  | interrupted
  | failed
  | brokenPipe
  deriving DecidableEq, Repr

structure EchoTurn where
  recv : ServerRecv
  sends : List ServerSend
  deriving DecidableEq, Repr

inductive EchoEnd where
  | clientClosed
  | recvFailed
  | sendFailed
  deriving DecidableEq, Repr

structure Served where
  received : List UInt8
  echoed : List UInt8
  ended : EchoEnd
  deriving DecidableEq, Repr

structure EchoServer where
  keepRunning : Bool
  uses : List (Use ServerSocket)
  received : List UInt8
  echoed : List UInt8
  served : List Served

def EchoServer.start : EchoServer :=
  { keepRunning := true
    uses := []
    received := []
    echoed := []
    served := [] }

def useSocket (used : Use ServerSocket) : Program EchoServer Unit :=
  Program.modify fun s => { s with uses := s.uses ++ [used] }

def sigpipeStatus : Int := 128 + 13

/-- The loop over `send`; `false` stands for an error. -/
def sendAll (data : List UInt8) : ℕ → List ServerSend → Program EchoServer Bool
  | totalSent, [] => fun s =>
      if totalSent < data.length then (.blocked, s) else (.returned true, s)
  | totalSent, result :: rest => do
      if totalSent < data.length then
        match result with
        | .bytes bytesSent =>
            Program.modify fun s =>
              { s with echoed := s.echoed ++ (data.drop totalSent).take bytesSent }
            sendAll data (totalSent + bytesSent) rest
        | .interrupted => sendAll data totalSent rest
        | .failed => return false
        | .brokenPipe => Program.exit sigpipeStatus
      else
        return true

def echoLoop : List EchoTurn → Program EchoServer EchoEnd
  | [] => fun s => (.blocked, s)
  | turn :: rest =>
      match turn.recv with
      | .interrupted => echoLoop rest
      | .failed => return .recvFailed
      | .bytes data => do
          if data = [] then
            return .clientClosed
          Program.modify fun s => { s with received := s.received ++ data }
          let sent ← sendAll data 0 turn.sends
          if sent = false then
            return .sendFailed
          echoLoop rest

def echoServerHandleClient (number : ℕ) (turns : List EchoTurn) : Program EchoServer Unit := do
  Program.modify fun s => { s with received := [], echoed := [] }
  let ended ← echoLoop turns
  useSocket (.release (.client number))
  Program.modify fun s => { s with served := s.served ++ [⟨s.received, s.echoed, ended⟩] }

structure ServerEnv where
  socketOk : Bool
  reuseAddrOk : Bool
  reusePortOk : Bool
  bindOk : Bool
  listenOk : Bool
  signalled : Bool

inductive Accepted where
  | client (turns : List EchoTurn)
  | interrupted
  | failed
  deriving DecidableEq, Repr

structure Arrival where
  accepted : Accepted
  signalled : Bool
  deriving DecidableEq, Repr

def echoServerStart (env : ServerEnv) : Program EchoServer Bool := do
  if env.socketOk = false then
    return false
  useSocket (.acquire .listener)
  if env.reuseAddrOk = false then
    useSocket (.release .listener)
    return false
  if env.reusePortOk = false then
    useSocket (.release .listener)
    return false
  if env.bindOk = false then
    useSocket (.release .listener)
    return false
  if env.listenOk = false then
    useSocket (.release .listener)
    return false
  return true

def signalArrives (signalled : Bool) : Program EchoServer Unit :=
  Program.modify fun s => { s with keepRunning := s.keepRunning && !signalled }

/-- The clients are numbered as they are accepted. -/
def acceptLoop : ℕ → List Arrival → Program EchoServer Unit
  | _, [] => fun s => if s.keepRunning then (.blocked, s) else (.returned (), s)
  | number, arrival :: rest => do
      let keepRunning ← Program.get EchoServer.keepRunning
      if keepRunning then
        match arrival.accepted with
        | .interrupted =>
            signalArrives arrival.signalled
            acceptLoop number rest
        | .failed => return ()
        | .client turns =>
            useSocket (.acquire (.client number))
            echoServerHandleClient number turns
            signalArrives arrival.signalled
            acceptLoop (number + 1) rest
      else
        return ()

def runEchoServer (env : ServerEnv) (arrivals : List Arrival) : Program EchoServer Int := do
  let started ← echoServerStart env
  if started = false then
    return -1
  signalArrives env.signalled
  acceptLoop 0 arrivals
  useSocket (.release .listener)
  return 0

end TlshubEbpf.Bench
