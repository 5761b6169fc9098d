import Mathlib.Algebra.Group.Int.Defs
import Mathlib.Algebra.Order.Ring.Rat
import Mathlib.Data.List.Basic
import TlshubEbpf.Lib.Timespec

/-! # The benchmark client (`tcp_client.c`, `bench_common.h`)

Each loop of the client is a function from its variables and the result of one
system call to the variables of the next turn.  Arithmetic on doubles is exact. -/

set_option autoImplicit false

namespace TlshubEbpf.Bench

open Lib

def bufferSize : Nat := 65536

inductive ConnState where
  | init
  | connecting
  | connected
  | sending
  | receiving
  | closing
  | closed
  | failed
  | timeout
  deriving DecidableEq, Repr

structure ConnStats where
  connId : Int
  state : ConnState
  startTime : Timespec
  connectTime : Timespec
  firstByteTime : Timespec
  closeTime : Timespec
  bytesSent : UInt64
  bytesReceived : UInt64
  connectionLatencyMs : ℚ
  dataTransferTimeMs : ℚ
  throughputMbps : ℚ

/-- After `memset(stats, 0, sizeof(conn_stats_t))`. -/
def ConnStats.zeroed : ConnStats :=
  { connId := 0
    state := .init
    startTime := ⟨0, 0⟩
    connectTime := ⟨0, 0⟩
    firstByteTime := ⟨0, 0⟩
    closeTime := ⟨0, 0⟩
    bytesSent := 0
    bytesReceived := 0
    connectionLatencyMs := 0
    dataTransferTimeMs := 0
    throughputMbps := 0 }

def timespecDiffMs (start finish : Timespec) : ℚ :=
  ((finish.tvSec - start.tvSec : Int) : ℚ) * 1000 +
    ((finish.tvNsec - start.tvNsec : Int) : ℚ) / 1000000

structure DataSize where
  bytes : Nat
  positive : 1 ≤ bytes
  bounded : bytes ≤ 10485760

/-- The check of option `-s`: the `int` that `atoi` returns is stored in a `size_t`. -/
def DataSize.ofAtoi (value : Int) : Option DataSize :=
  let dataSize := (value % 2 ^ 64).toNat
  if h : dataSize = 0 ∨ dataSize > 10 * 1024 * 1024 then
    none
  else
    some ⟨dataSize, by omega, by omega⟩

theorem DataSize.ofAtoi_eq_some_iff (value : Int) (isInt : -2 ^ 31 ≤ value ∧ value < 2 ^ 31)
    (size : DataSize) : ofAtoi value = some size ↔ value = size.bytes := by
  have positive := size.positive
  have bounded := size.bounded
  obtain ⟨bytes, _, _⟩ := size
  unfold ofAtoi
  dsimp only at positive bounded ⊢
  constructor
  · intro accepted
    split at accepted
    · cases accepted
    · cases accepted
      omega
  · rintro rfl
    rw [dif_neg (by omega)]
    simp only [Option.some.injEq, DataSize.mk.injEq]
    omega

/-- A call of `send` or `recv`; `failed` is any error but EINTR. -/
inductive IoResult where
  | bytes (count : Nat)
  | interrupted
  | failed
  deriving DecidableEq, Repr

inductive PollResult where
  | ready
  | timedOut
  | interrupted
  | failed
  deriving DecidableEq, Repr

inductive LoopStep (σ : Type) where
  | again (state : σ)
  | leave (ret : Int) (state : σ)

def LoopStep.state {σ : Type} : LoopStep σ → σ
  | .again state => state
  | .leave _ state => state

def IoResult.count : IoResult → Nat
  | .bytes count => count
  | .interrupted => 0
  | .failed => 0

structure ConnectAnswers where
  startTime : Timespec
  connectTime : Timespec
  socketOk : Bool
  addressOk : Bool
  connectOk : Bool

def tcpClientConnect (answers : ConnectAnswers) (stats : ConnStats) : Bool × ConnStats :=
  let stats := { stats with startTime := answers.startTime, state := .connecting }
  if answers.socketOk = false then
    (false, { stats with state := .failed })
  else if answers.addressOk = false then
    (false, { stats with state := .failed })
  else if answers.connectOk = false then
    (false, { stats with state := .failed })
  else
    (true,
      { stats with
        connectTime := answers.connectTime
        connectionLatencyMs := timespecDiffMs answers.startTime answers.connectTime
        state := .connected })

/-- The first 256 bytes count up, the others are 0xAA. -/
def fillBuffer (dataSize : Nat) : List UInt8 :=
  (List.range dataSize).map fun i => if i < 256 then UInt8.ofNat (i % 256) else 0xAA

/-- `total_sent` after one `send`; `none` stands for an error that ends the loop.
The client's send loop and the server's echo loop have this turn in common. -/
def sendTurn (totalSent : Nat) : IoResult → Option Nat
  | .bytes sent => some (totalSent + sent)
  | .interrupted => some totalSent
  | .failed => none

def finishSend (totalSent : Nat) (sendEnd : Timespec) (stats : ConnStats) : ConnStats :=
  let stats := { stats with bytesSent := UInt64.ofNat totalSent }
  if stats.firstByteTime.tvSec = 0 then { stats with firstByteTime := sendEnd } else stats

@[simp] theorem finishSend_bytesSent (totalSent : Nat) (sendEnd : Timespec) (stats : ConnStats) :
    (finishSend totalSent sendEnd stats).bytesSent = UInt64.ofNat totalSent := by
  unfold finishSend
  dsimp only
  split <;> rfl

@[simp] theorem finishSend_bytesReceived (totalSent : Nat) (sendEnd : Timespec)
    (stats : ConnStats) :
    (finishSend totalSent sendEnd stats).bytesReceived = stats.bytesReceived := by
  unfold finishSend
  dsimp only
  split <;> rfl

/-- The part of a turn before the `recv`; `none` goes on to it. -/
def pollTurn (stats : ConnStats) : PollResult → Option (LoopStep ConnStats)
  | .ready => none
  | .interrupted => some (.again stats)
  | .failed => some (.leave (-1) { stats with state := .failed })
  | .timedOut =>
      if stats.bytesReceived < stats.bytesSent then
        some (.leave (-1) { stats with state := .timeout })
      else
        some (.leave 0 stats)

def recvTurn (stats : ConnStats) : IoResult → LoopStep ConnStats
  | .interrupted => .again stats
  | .failed => .leave (-1) { stats with state := .failed }
  | .bytes received =>
      if received = 0 then
        -- the server has closed the connection
        .leave 0 stats
      else
        let stats := { stats with bytesReceived := stats.bytesReceived + UInt64.ofNat received }
        if stats.bytesReceived ≥ stats.bytesSent then .leave 0 stats else .again stats

/-! ## Whole connections

A script holds what the system calls of one connection answer.  A function whose
script ends while it waits for a call has no result. -/

structure ConnectionScript where
  connect : ConnectAnswers
  mallocOk : Bool
  sends : List IoResult
  sendEnd : Timespec
  /-- What `poll` returned, and what the `recv` after it would return. -/
  turns : List (PollResult × IoResult)
  drains : List IoResult
  closeEnd : Timespec

/-- The final `total_sent`, or `some none` for an error. -/
def sendLoop (dataSize totalSent : Nat) : List IoResult → Option (Option Nat)
  | [] => if totalSent < dataSize then none else some (some totalSent)
  | result :: rest =>
      if totalSent < dataSize then
        match sendTurn totalSent result with
        | none => some none
        | some totalSent => sendLoop dataSize totalSent rest
      else
        some (some totalSent)

def tcpClientSendData (size : DataSize) (script : ConnectionScript) (stats : ConnStats) :
    Option (Int × ConnStats) :=
  let stats := { stats with state := .sending }
  if script.mallocOk = false then
    some (-1, { stats with state := .failed })
  else
    match sendLoop size.bytes 0 script.sends with
    | none => none
    | some none => some (-1, { stats with state := .failed })
    | some (some totalSent) => some (0, finishSend totalSent script.sendEnd stats)

def receiveLoop : List (PollResult × IoResult) → ConnStats → Option (Int × ConnStats)
  | [], _ => none
  | (polled, received) :: rest, stats =>
      match (pollTurn stats polled).getD (recvTurn stats received) with
      | .again stats => receiveLoop rest stats
      | .leave ret stats => some (ret, stats)

def tcpClientReceiveData (script : ConnectionScript) (stats : ConnStats) :
    Option (Int × ConnStats) :=
  receiveLoop script.turns { stats with state := .receiving }

def drainLoop : List IoResult → Option Unit
  | [] => none
  | .bytes 0 :: _ => some ()
  | .bytes _ :: rest => drainLoop rest
  | .interrupted :: _ => some ()
  | .failed :: _ => some ()

def closeStats (closeEnd : Timespec) (stats : ConnStats) : ConnStats :=
  let transferMs := timespecDiffMs stats.startTime closeEnd - stats.connectionLatencyMs
  let stats :=
    { stats with closeTime := closeEnd, state := .closed, dataTransferTimeMs := transferMs }
  if transferMs > 0 ∧ stats.bytesSent > 0 then
    let bytesPerSec := ((stats.bytesSent + stats.bytesReceived).toNat : ℚ) / (transferMs / 1000)
    { stats with throughputMbps := bytesPerSec * 8 / (1024 * 1024) }
  else
    stats

def tcpClientClose (script : ConnectionScript) (stats : ConnStats) : Option (Int × ConnStats) :=
  let stats := { stats with state := .closing }
  match drainLoop script.drains with
  | none => none
  | some () => some (0, closeStats script.closeEnd stats)

def runSingleConnection (size : DataSize) (script : ConnectionScript) (stats : ConnStats) :
    Option (Int × ConnStats) := do
  let (connected, stats) := tcpClientConnect script.connect stats
  if connected = false then
    return (-1, stats)
  let (ret, stats) ← tcpClientSendData size script stats
  if ret < 0 then
    return (-1, stats)
  let (ret, stats) ← tcpClientReceiveData script stats
  if ret < 0 then
    return (-1, stats)
  let (ret, stats) ← tcpClientClose script stats
  if ret < 0 then
    return (-1, stats)
  return (0, stats)

section Turns
variable (stats : ConnStats)

theorem pollTurn_counters (result : PollResult) (turn : LoopStep ConnStats)
    (taken : pollTurn stats result = some turn) :
    turn.state.bytesSent = stats.bytesSent ∧ turn.state.bytesReceived = stats.bytesReceived := by
  unfold pollTurn at taken
  cases result with
  | ready => cases taken
  | interrupted => cases taken; exact ⟨rfl, rfl⟩
  | failed => cases taken; exact ⟨rfl, rfl⟩
  | timedOut =>
      dsimp only at taken
      split at taken
      · cases taken
        exact ⟨rfl, rfl⟩
      · cases taken
        exact ⟨rfl, rfl⟩

theorem pollTurn_leaves (result : PollResult) (final : ConnStats)
    (taken : pollTurn stats result = some (.leave 0 final)) :
    stats.bytesSent ≤ stats.bytesReceived := by
  unfold pollTurn at taken
  cases result with
  | ready => cases taken
  | interrupted => cases taken
  | failed => cases taken
  | timedOut =>
      dsimp only at taken
      split at taken
      · cases taken
      · rename_i enough
        exact UInt64.not_lt.mp enough

theorem recvTurn_counters (result : IoResult) :
    (recvTurn stats result).state.bytesSent = stats.bytesSent ∧
      (recvTurn stats result).state.bytesReceived =
        stats.bytesReceived + UInt64.ofNat result.count := by
  unfold recvTurn
  cases result with
  | interrupted => exact ⟨rfl, (UInt64.add_zero _).symm⟩
  | failed => exact ⟨rfl, (UInt64.add_zero _).symm⟩
  | bytes count =>
      dsimp only
      split
      · rename_i none
        rw [none]
        exact ⟨rfl, (UInt64.add_zero _).symm⟩
      · split
        · exact ⟨rfl, rfl⟩
        · exact ⟨rfl, rfl⟩

theorem recvTurn_leaves (result : IoResult) (final : ConnStats)
    (taken : recvTurn stats result = .leave 0 final) :
    result = .bytes 0 ∨ final.bytesSent ≤ final.bytesReceived := by
  unfold recvTurn at taken
  cases result with
  | interrupted => cases taken
  | failed => cases taken
  | bytes count =>
      dsimp only at taken
      split at taken
      · rename_i none
        exact Or.inl (congrArg IoResult.bytes none)
      · split at taken
        · rename_i enough
          cases taken
          exact Or.inr enough
        · cases taken

end Turns
end TlshubEbpf.Bench
