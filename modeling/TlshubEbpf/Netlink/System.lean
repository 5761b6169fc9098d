import Mathlib.Logic.Function.Basic
import Mathlib.Tactic.Simps.Basic
import TlshubEbpf.Lib.Program
import TlshubEbpf.Netlink.Message

/-! # The system calls of the netlink clients

`Env` is what the process cannot control: whether a call succeeds, and what the
other side of a socket queues when a datagram is sent.  Each answer may depend
on every call made so far.  Datagrams wait in one FIFO queue per socket, and a
`recvfrom` on an empty queue never returns. -/

set_option autoImplicit false

namespace TlshubEbpf.Netlink

open TlshubEbpf.Lib

inductive Syscall where
  | socket (fd : Int)
  | bind (fd : Int) (nlPid : UInt32) (ret : Int)
  | close (fd : Int)
  | malloc (ok : Bool)
  | sendto (fd : Int) (dest : SockaddrNl) (request : Request) (result : SendResult)
  | recvfrom (fd : Int) (delivery : Delivery)
  deriving DecidableEq, Repr

structure Env where
  order : ByteOrder
  tid : UInt32
  socketOk : List Syscall → Bool
  bindOk : List Syscall → Int → UInt32 → Bool
  mallocOk : List Syscall → Bool
  /-- The result of a `sendto` and the datagrams queued before the next one. -/
  peer : List Syscall → Int → SockaddrNl → Request → SendResult × List Delivery

structure World (S : Type) where
  calls : List Syscall
  inbox : Int → List Delivery
  vars : S

def World.start {S : Type} (vars : S) : World S := ⟨[], fun _ => [], vars⟩

section Calls
variable {S : Type} (env : Env)

def socketCount (calls : List Syscall) : Nat :=
  calls.countP fun
    | .socket _ => true
    | _ => false

def freshFd (calls : List Syscall) : Int := 3 + socketCount calls

def World.afterCall (w : World S) (call : Syscall) : World S :=
  { w with calls := w.calls ++ [call] }

def World.setQueue (w : World S) (fd : Int) (queue : List Delivery) : World S :=
  { w with inbox := Function.update w.inbox fd queue }

def World.opened (w : World S) : World S :=
  (w.afterCall (.socket (freshFd w.calls))).setQueue (freshFd w.calls) []

def socket : Program (World S) Int := fun w =>
  if env.socketOk w.calls then
    (.returned (freshFd w.calls), w.opened)
  else
    (.returned (-1), w.afterCall (.socket (-1)))

def bind (fd : Int) (nlPid : UInt32) : Program (World S) Int := fun w =>
  let ret : Int := if env.bindOk w.calls fd nlPid then 0 else -1
  (.returned ret, w.afterCall (.bind fd nlPid ret))

def World.closed (w : World S) (fd : Int) : World S :=
  (w.afterCall (.close fd)).setQueue fd []

def close (fd : Int) : Program (World S) Unit := fun w => (.returned (), w.closed fd)

def malloc : Program (World S) Bool := fun w =>
  (.returned (env.mallocOk w.calls), w.afterCall (.malloc (env.mallocOk w.calls)))

def World.afterSendto (w : World S) (fd : Int) (dest : SockaddrNl) (request : Request) :
    World S :=
  let answer := env.peer w.calls fd dest request
  (w.afterCall (.sendto fd dest request answer.1)).setQueue fd (w.inbox fd ++ answer.2)

def sendto (fd : Int) (dest : SockaddrNl) (request : Request) : Program (World S) Int := fun w =>
  (.returned (env.peer w.calls fd dest request).1.ret, w.afterSendto env fd dest request)

theorem afterSendto_answered (w : World S) (fd : Int) (dest : SockaddrNl) (request : Request)
    (result : SendResult) (queued : List Delivery)
    (answered : env.peer w.calls fd dest request = (result, queued)) :
    w.afterSendto env fd dest request =
      (w.afterCall (.sendto fd dest request result)).setQueue fd (w.inbox fd ++ queued) := by
  rw [World.afterSendto, answered]

theorem socket_created (w : World S) (created : env.socketOk w.calls = true) :
    socket env w = (.returned (freshFd w.calls), w.opened) := by
  simp [socket, created]

theorem socket_refused (w : World S) (refused : env.socketOk w.calls = false) :
    socket env w = (.returned (-1), w.afterCall (.socket (-1))) := by
  simp [socket, refused]

theorem bind_granted (w : World S) (fd : Int) (nlPid : UInt32)
    (granted : env.bindOk w.calls fd nlPid = true) :
    Netlink.bind env fd nlPid w = (.returned 0, w.afterCall (.bind fd nlPid 0)) := by
  simp [Netlink.bind, granted]

theorem bind_refused (w : World S) (fd : Int) (nlPid : UInt32)
    (refused : env.bindOk w.calls fd nlPid = false) :
    Netlink.bind env fd nlPid w = (.returned (-1), w.afterCall (.bind fd nlPid (-1))) := by
  simp [Netlink.bind, refused]

theorem malloc_apply (w : World S) (ok : Bool) (answer : env.mallocOk w.calls = ok) :
    malloc env w = (.returned ok, w.afterCall (.malloc ok)) := by
  simp [malloc, answer]

theorem freshFd_nonneg (calls : List Syscall) : 0 ≤ freshFd calls := by
  unfold freshFd
  omega

theorem freshFd_append (calls more : List Syscall) :
    freshFd (calls ++ more) = freshFd calls + socketCount more := by
  simp only [freshFd, socketCount, List.countP_append, Int.natCast_add]
  omega

theorem freshFd_lt (calls more : List Syscall) (fd : Int) (opened : .socket fd ∈ more) :
    freshFd calls < freshFd (calls ++ more) := by
  have counted : 0 < socketCount more := List.countP_pos_iff.mpr ⟨_, opened, rfl⟩
  rw [freshFd_append]
  omega

theorem freshFd_ne (calls : List Syscall) : freshFd calls ≠ -1 := by
  have nonneg := freshFd_nonneg calls
  omega

@[simp] theorem afterCall_calls (w : World S) (call : Syscall) :
    (w.afterCall call).calls = w.calls ++ [call] := rfl

@[simp] theorem afterCall_inbox (w : World S) (call : Syscall) :
    (w.afterCall call).inbox = w.inbox := rfl

@[simp] theorem afterCall_vars (w : World S) (call : Syscall) :
    (w.afterCall call).vars = w.vars := rfl

@[simp] theorem setQueue_calls (w : World S) (fd : Int) (queue : List Delivery) :
    (w.setQueue fd queue).calls = w.calls := rfl

@[simp] theorem setQueue_inbox (w : World S) (fd : Int) (queue : List Delivery) :
    (w.setQueue fd queue).inbox = Function.update w.inbox fd queue := rfl

@[simp] theorem setQueue_vars (w : World S) (fd : Int) (queue : List Delivery) :
    (w.setQueue fd queue).vars = w.vars := rfl

@[simp] theorem opened_calls (w : World S) :
    w.opened.calls = w.calls ++ [.socket (freshFd w.calls)] := rfl

@[simp] theorem opened_inbox (w : World S) :
    w.opened.inbox = Function.update w.inbox (freshFd w.calls) [] := rfl

@[simp] theorem opened_vars (w : World S) : w.opened.vars = w.vars := rfl

@[simp] theorem closed_calls (w : World S) (fd : Int) :
    (w.closed fd).calls = w.calls ++ [.close fd] := rfl

@[simp] theorem closed_inbox (w : World S) (fd : Int) :
    (w.closed fd).inbox = Function.update w.inbox fd [] := rfl

@[simp] theorem closed_vars (w : World S) (fd : Int) : (w.closed fd).vars = w.vars := rfl

@[simp] theorem afterSendto_calls (w : World S) (fd : Int) (dest : SockaddrNl)
    (request : Request) : (w.afterSendto env fd dest request).calls =
      w.calls ++ [.sendto fd dest request (env.peer w.calls fd dest request).1] := rfl

@[simp] theorem afterSendto_inbox (w : World S) (fd : Int) (dest : SockaddrNl)
    (request : Request) : (w.afterSendto env fd dest request).inbox =
      Function.update w.inbox fd (w.inbox fd ++ (env.peer w.calls fd dest request).2) := rfl

@[simp] theorem afterSendto_vars (w : World S) (fd : Int) (dest : SockaddrNl)
    (request : Request) : (w.afterSendto env fd dest request).vars = w.vars := rfl

end Calls

@[simps]
def scriptEnv (order : ByteOrder) (tid : UInt32) (socketOk bindOk mallocOk : Bool)
    (sent : SendResult) (queued : List Delivery) : Env :=
  { order := order
    tid := tid
    socketOk := fun _ => socketOk
    bindOk := fun _ _ _ => bindOk
    mallocOk := fun _ => mallocOk
    peer := fun _ _ _ _ => (sent, queued) }

section Receive
variable {S : Type}

def storeSource (addr : SockaddrNl → S → S) (vars : S) (d : Delivery) : S :=
  match d.source? with
  | some source => addr source vars
  | none => vars

def World.afterReads (w : World S) (fd : Int) (addr : SockaddrNl → S → S)
    (read rest : List Delivery) : World S :=
  { calls := w.calls ++ read.map (Syscall.recvfrom fd)
    inbox := Function.update w.inbox fd rest
    vars := read.foldl (storeSource addr) w.vars }

@[simp] theorem afterReads_calls (w : World S) (fd : Int) (addr : SockaddrNl → S → S)
    (read rest : List Delivery) :
    (w.afterReads fd addr read rest).calls = w.calls ++ read.map (Syscall.recvfrom fd) := rfl

@[simp] theorem afterReads_inbox (w : World S) (fd : Int) (addr : SockaddrNl → S → S)
    (read rest : List Delivery) :
    (w.afterReads fd addr read rest).inbox = Function.update w.inbox fd rest := rfl

@[simp] theorem afterReads_vars (w : World S) (fd : Int) (addr : SockaddrNl → S → S)
    (read rest : List Delivery) :
    (w.afterReads fd addr read rest).vars = read.foldl (storeSource addr) w.vars := rfl

/-- The result and the zeroed-then-filled buffer. -/
def recvfrom (fd : Int) (addr : SockaddrNl → S → S) : Program (World S) (Int × UserMsgInfo) :=
  fun w =>
    match w.inbox fd with
    | [] => (.blocked, w)
    | d :: rest => (.returned (d.ret, d.uInfo), w.afterReads fd addr [d] rest)

/-- One turn of a wait loop: receive, leave by `onEmpty` if the result is 0,
leave by `finish` if the `switch` on the message type says so, else go on. -/
def waitTurn (fd : Int) (addr : SockaddrNl → S → S) (onEmpty : Program (World S) Int)
    (switch : UInt8 → Option Int) (finish : Int → Program (World S) Int) :
    Program (World S) (Option Int) := do
  let (ret, uInfo) ← recvfrom fd addr
  -- `if (!ret)`: a -1 goes on to the type byte of the zeroed buffer
  if ret = 0 then
    let stop ← onEmpty
    return some stop
  match switch uInfo.msgType with
  | some verdict =>
      let stop ← finish verdict
      return some stop
  | none => return none

def waitLoop (fd : Int) (addr : SockaddrNl → S → S) (onEmpty : Program (World S) Int)
    (switch : UInt8 → Option Int) (finish : Int → Program (World S) Int) :
    Program (World S) Int :=
  Program.whileTrue (fun w => (w.inbox fd).length) (waitTurn fd addr onEmpty switch finish)

def stops (switch : UInt8 → Option Int) (d : Delivery) : Bool :=
  d.ret == 0 || (switch d.uInfo.msgType).isSome

theorem stops_eq_false_iff (switch : UInt8 → Option Int) (d : Delivery) :
    stops switch d = false ↔ d.ret ≠ 0 ∧ switch d.uInfo.msgType = none := by
  simp [stops]

theorem exists_first_stop {α : Type} (halts : α → Bool) (queue : List α)
    (some_halts : ∃ d ∈ queue, halts d = true) :
    ∃ read stop rest, queue = read ++ stop :: rest ∧ halts stop = true ∧
      ∀ d ∈ read, halts d = false := by
  obtain ⟨stop, found⟩ := Option.isSome_iff_exists.mp (List.find?_isSome.mpr some_halts)
  obtain ⟨halt, read, rest, split, passes⟩ := List.find?_eq_some_iff_append.mp found
  exact ⟨read, stop, rest, split, halt, fun d member => by simpa using passes d member⟩

theorem afterReads_cons (w : World S) (fd : Int) (addr : SockaddrNl → S → S)
    (d : Delivery) (read middle rest : List Delivery) :
    (w.afterReads fd addr [d] middle).afterReads fd addr read rest =
      w.afterReads fd addr (d :: read) rest := by
  simp [World.afterReads]

section Loop
variable (fd : Int) (addr : SockaddrNl → S → S) (onEmpty : Program (World S) Int)
  (switch : UInt8 → Option Int) (finish : Int → Program (World S) Int)

theorem waitTurn_consumes :
    Program.Consumes (fun w => (w.inbox fd).length)
      (waitTurn fd addr onEmpty switch finish) := by
  intro w w' turn
  simp only [waitTurn, Program.bind_apply, recvfrom] at turn
  cases queue : w.inbox fd with
  | nil => simp [queue] at turn
  | cons d rest =>
      simp only [queue] at turn
      split at turn
      · simp only [Program.bind_apply] at turn
        split at turn <;> simp at turn
      · cases decided : switch d.uInfo.msgType with
        | some verdict =>
            simp only [decided, Program.bind_apply] at turn
            split at turn <;> simp at turn
        | none =>
            simp only [decided, Program.pure_apply, Prod.mk.injEq] at turn
            rw [← turn.2]
            simp [World.afterReads, queue]

theorem waitLoop_skip (w : World S) (d : Delivery) (rest : List Delivery)
    (queue : w.inbox fd = d :: rest) (passes : stops switch d = false) :
    waitLoop fd addr onEmpty switch finish w =
      waitLoop fd addr onEmpty switch finish (w.afterReads fd addr [d] rest) := by
  obtain ⟨nonzero, undecided⟩ := (stops_eq_false_iff switch d).mp passes
  rw [waitLoop, Program.whileTrue_unroll _ _ (waitTurn_consumes fd addr onEmpty switch finish)]
  simp [Program.bind_apply, waitTurn, recvfrom, queue, nonzero, undecided]

theorem waitLoop_blocked : ∀ (queue : List Delivery) (w : World S), w.inbox fd = queue →
    (∀ d ∈ queue, stops switch d = false) →
    waitLoop fd addr onEmpty switch finish w = (.blocked, w.afterReads fd addr queue []) := by
  intro queue
  induction queue with
  | nil =>
      intro w empty _
      have unread : Function.update w.inbox fd [] = w.inbox := by
        rw [← empty]
        exact Function.update_eq_self fd w.inbox
      have same : w.afterReads fd addr [] [] = w := by
        simp [World.afterReads, unread]
      rw [waitLoop, Program.whileTrue_unroll _ _ (waitTurn_consumes fd addr onEmpty switch finish)]
      simp [Program.bind_apply, waitTurn, recvfrom, empty, same]
  | cons d rest ih =>
      intro w queue passes
      rw [waitLoop_skip fd addr onEmpty switch finish w d rest queue (passes d (by simp))]
      rw [ih (w.afterReads fd addr [d] rest) (by simp [World.afterReads])
        (fun later member => passes later (by simp [member]))]
      rw [afterReads_cons]

/-- The loop reads up to the first delivery that stops it and leaves there. -/
theorem waitLoop_stop (stop : Delivery) (rest : List Delivery)
    (halts : stops switch stop = true) :
    ∀ (read : List Delivery) (w : World S), w.inbox fd = read ++ stop :: rest →
      (∀ d ∈ read, stops switch d = false) →
      waitLoop fd addr onEmpty switch finish w =
        (if stop.ret = 0 then onEmpty else finish ((switch stop.uInfo.msgType).getD 0))
          (w.afterReads fd addr (read ++ [stop]) rest) := by
  intro read
  induction read with
  | nil =>
      intro w queue _
      rw [waitLoop, Program.whileTrue_unroll _ _ (waitTurn_consumes fd addr onEmpty switch finish)]
      by_cases zero : stop.ret = 0
      · simp only [Program.bind_apply, waitTurn, recvfrom, queue, if_pos zero, List.nil_append]
        rcases onEmpty (w.afterReads fd addr [stop] rest) with ⟨outcome, w'⟩
        cases outcome <;> rfl
      · have decided : (switch stop.uInfo.msgType).isSome := by
          simpa [stops, zero] using halts
        obtain ⟨verdict, found⟩ := Option.isSome_iff_exists.mp decided
        simp only [Program.bind_apply, waitTurn, recvfrom, queue, if_neg zero, found,
          List.nil_append, Option.getD_some]
        rcases finish verdict (w.afterReads fd addr [stop] rest) with ⟨outcome, w'⟩
        cases outcome <;> rfl
  | cons d read ih =>
      intro w queue passes
      rw [waitLoop_skip fd addr onEmpty switch finish w d (read ++ stop :: rest) queue
        (passes d (by simp))]
      rw [ih (w.afterReads fd addr [d] (read ++ stop :: rest)) (by simp [World.afterReads])
        (fun later member => passes later (by simp [member]))]
      simp only [afterReads_cons, List.cons_append]

/-- A loop that returns has read a delivery that stops it, and has returned from there. -/
theorem waitLoop_returned (w w' : World S) (value : Int)
    (ran : waitLoop fd addr onEmpty switch finish w = (.returned value, w')) :
    ∃ read stop rest, w.inbox fd = read ++ stop :: rest ∧ stops switch stop = true ∧
      (∀ d ∈ read, stops switch d = false) ∧
      (if stop.ret = 0 then onEmpty else finish ((switch stop.uInfo.msgType).getD 0))
        (w.afterReads fd addr (read ++ [stop]) rest) = (.returned value, w') := by
  by_cases halting : ∃ d ∈ w.inbox fd, stops switch d = true
  · obtain ⟨read, stop, rest, split, halts, passes⟩ := exists_first_stop _ _ halting
    rw [waitLoop_stop fd addr onEmpty switch finish stop rest halts read w split passes] at ran
    exact ⟨read, stop, rest, split, halts, passes, ran⟩
  · have passes : ∀ d ∈ w.inbox fd, stops switch d = false := by
      intro d member
      exact Bool.not_eq_true _ ▸ fun halts => halting ⟨d, member, halts⟩
    rw [waitLoop_blocked fd addr onEmpty switch finish _ w rfl passes] at ran
    cases ran

theorem waitLoop_keeps {γ : Type} (view : World S → γ)
    (received : Program.Keeps view (recvfrom fd addr)) (empty : Program.Keeps view onEmpty)
    (finished : ∀ verdict, Program.Keeps view (finish verdict)) :
    Program.Keeps view (waitLoop fd addr onEmpty switch finish) := by
  apply Program.keeps_whileTrue
  apply Program.keeps_bind _ _ _ received
  intro result
  apply Program.keeps_ite
  · exact Program.keeps_bind _ _ _ empty fun stop => Program.keeps_pure _ (some stop)
  · cases switch result.2.msgType with
    | none => exact Program.keeps_pure _ none
    | some verdict =>
        exact Program.keeps_bind _ _ _ (finished verdict) fun stop =>
          Program.keeps_pure _ (some stop)

end Loop
end Receive
end TlshubEbpf.Netlink
