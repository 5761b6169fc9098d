import TlshubEbpf.Netlink.System

/-! # The capture program's netlink client (`tlshub_client.c`)

One static socket and one static destination address serve all calls; every
`recvfrom` writes the sender's address over the destination.  The three
functions differ in what they make of a result of 0 and in their `switch`. -/

set_option autoImplicit false

namespace TlshubEbpf.Capture

open TlshubEbpf.Lib TlshubEbpf.Netlink

structure FlowTuple where
  saddr : UInt32
  daddr : UInt32
  sport : UInt16
  dport : UInt16
  deriving DecidableEq, Repr

structure TlsKeyInfo where
  key : Vector UInt8 32
  iv : Vector UInt8 16
  keyLen : UInt32
  ivLen : UInt32
  deriving DecidableEq

/-- The file's static variables; `nlh` says whether the buffer that
`tlshub_handshake` keeps has been allocated. -/
structure ClientVars where
  netlinkSock : Int
  destAddr : SockaddrNl
  nlh : Bool
  deriving DecidableEq, Repr

def ClientVars.initial : ClientVars := ⟨-1, ⟨0, 0, 0⟩, false⟩

abbrev Client := World ClientVars

def setNetlinkSock (fd : Int) : Program Client Unit :=
  Program.modify fun w => { w with vars := { w.vars with netlinkSock := fd } }

def storeDestAddr (source : SockaddrNl) (vars : ClientVars) : ClientVars :=
  { vars with destAddr := source }

def requestHdr (tid : UInt32) : NlmsgHdr := ⟨requestLen, 0, 0, 0, tid⟩

def initRequest (env : Env) : Request :=
  ⟨requestHdr env.tid, { MyMsg.zeroed with opcode := tlsServiceInit, server := 1 }⟩

/-- Addresses go out as they are, ports in network order. -/
def flowRequest (env : Env) (opcode : UInt8) (tuple : FlowTuple) : Request :=
  ⟨requestHdr env.tid,
    { MyMsg.zeroed with
      opcode := opcode
      clientPodIp := tuple.saddr
      serverPodIp := tuple.daddr
      clientPodPort := htons env.order tuple.sport
      serverPodPort := htons env.order tuple.dport
      server := 0 }⟩

def clientInitSwitch (msgType : UInt8) : Option Int :=
  if msgType = msgTypeInitComplete then some 0 else none

def closeNetlinkSock : Program Client Int := do
  let sock ← Program.get fun w => w.vars.netlinkSock
  close sock
  setNetlinkSock (-1)
  return -1

def tlshubClientInit (env : Env) : Program Client Int := do
  let sock ← socket env
  setNetlinkSock sock
  if sock < 0 then
    return -1
  let bound ← bind env sock env.tid
  if bound < 0 then
    closeNetlinkSock
  else
    Program.modify fun w => { w with vars := { w.vars with destAddr := kernelAddr } }
    let nlh ← malloc env
    if nlh = false then
      closeNetlinkSock
    else
      let dest ← Program.get fun w => w.vars.destAddr
      let ret ← sendto env sock dest (initRequest env)
      if ret = 0 then
        closeNetlinkSock
      else
        waitLoop sock storeDestAddr closeNetlinkSock clientInitSwitch pure

theorem closeNetlinkSock_apply (w : Client) :
    closeNetlinkSock w =
      (.returned (-1),
        { w.closed w.vars.netlinkSock with vars := { w.vars with netlinkSock := -1 } }) := by
  simp [closeNetlinkSock, Program.bind_apply, close, setNetlinkSock]

def clientInitSetup (env : Env) (w : Client) : List Syscall :=
  [.socket (freshFd w.calls), .bind (freshFd w.calls) env.tid 0, .malloc true]

def clientInitReady (env : Env) (w : Client) : Client :=
  { calls := w.calls ++ clientInitSetup env w
    inbox := Function.update w.inbox (freshFd w.calls) []
    vars := { w.vars with netlinkSock := freshFd w.calls, destAddr := kernelAddr } }

theorem tlshubClientInit_exchange (env : Env) (w : Client)
    (created : env.socketOk w.calls = true)
    (granted : env.bindOk (w.calls ++ [.socket (freshFd w.calls)]) (freshFd w.calls)
      env.tid = true)
    (allocated : env.mallocOk (w.calls ++
      [.socket (freshFd w.calls), .bind (freshFd w.calls) env.tid 0]) = true) :
    tlshubClientInit env w =
      (if (env.peer (clientInitReady env w).calls (freshFd w.calls) kernelAddr
          (initRequest env)).1.ret = 0 then
        closeNetlinkSock
      else
        waitLoop (freshFd w.calls) storeDestAddr closeNetlinkSock clientInitSwitch pure)
      ((clientInitReady env w).afterSendto env (freshFd w.calls) kernelAddr
        (initRequest env)) := by
  have nonneg := freshFd_nonneg w.calls
  have isOpen : ¬ freshFd w.calls < 0 := by omega
  have isBound : ¬ (0 : Int) < 0 := by omega
  have bound := fun vars : ClientVars => bind_granted env { w.opened with vars := vars }
    (freshFd w.calls) env.tid granted
  simp only [tlshubClientInit, Program.bind_apply, socket_created env w created, setNetlinkSock,
    Program.modify_apply, if_neg isOpen, bound, if_neg isBound]
  rw [malloc_apply env _ true (by simpa using allocated)]
  simp only [Bool.true_eq_false, if_false, Program.bind_apply, Program.get_apply, sendto,
    clientInitReady, clientInitSetup, World.opened, World.afterCall, World.setQueue,
    List.append_assoc, List.cons_append, List.nil_append]
  rfl

def fillKeyInfo (key : KeyBack) : TlsKeyInfo :=
  { key := key.masterkey
    keyLen := 32
    iv := Vector.replicate 16 0
    ivLen := 12 }

/-- The result and the contents of `*key_info` afterwards; `none` is NULL. -/
def tlshubFetchKey (env : Env) (tuple : Option FlowTuple) (keyInfo : Option TlsKeyInfo) :
    Program Client (Int × Option TlsKeyInfo) := do
  let sock ← Program.get fun w => w.vars.netlinkSock
  match tuple, keyInfo with
  | some tuple, some _ =>
      if sock < 0 then
        return (-1, keyInfo)
      let nlh ← malloc env
      if nlh = false then
        return (-1, keyInfo)
      let dest ← Program.get fun w => w.vars.destAddr
      let ret ← sendto env sock dest (flowRequest env tlsServiceFetch tuple)
      if ret = 0 then
        return (-1, keyInfo)
      let (ret, uInfo) ← recvfrom sock storeDestAddr
      -- `if (!ret)`: after a -1 the zeroed buffer is taken for a key
      if ret = 0 then
        return (-1, keyInfo)
      let key := KeyBack.ofMsg env.order uInfo.msg
      if key.status ≠ 0 then
        return (-1, keyInfo)
      return (0, some (fillKeyInfo key))
  | _, _ => return (-1, keyInfo)

def fetchResult (order : ByteOrder) (d : Delivery) (info : TlsKeyInfo) :
    Int × Option TlsKeyInfo :=
  let key := KeyBack.ofMsg order d.uInfo.msg
  if d.ret = 0 ∨ key.status ≠ 0 then (-1, some info) else (0, some (fillKeyInfo key))

theorem tlshubFetchKey_refused (env : Env) (tuple : Option FlowTuple)
    (keyInfo : Option TlsKeyInfo) (w : Client)
    (refused : w.vars.netlinkSock < 0 ∨ tuple = none ∨ keyInfo = none) :
    tlshubFetchKey env tuple keyInfo w = (.returned (-1, keyInfo), w) := by
  rcases tuple with _ | tuple
  · simp [tlshubFetchKey, Program.bind_apply]
  · rcases keyInfo with _ | info
    · simp [tlshubFetchKey, Program.bind_apply]
    · have closed : w.vars.netlinkSock < 0 := by simpa using refused
      simp [tlshubFetchKey, Program.bind_apply, closed]

theorem tlshubFetchKey_no_memory (env : Env) (tuple : FlowTuple) (info : TlsKeyInfo)
    (w : Client) (isOpen : 0 ≤ w.vars.netlinkSock) (full : env.mallocOk w.calls = false) :
    tlshubFetchKey env (some tuple) (some info) w =
      (.returned (-1, some info), w.afterCall (.malloc false)) := by
  have notClosed : ¬ w.vars.netlinkSock < 0 := by omega
  simp [tlshubFetchKey, Program.bind_apply, malloc, notClosed, full]

/-- One request and one `recvfrom`, of whatever stands first in the queue. -/
theorem tlshubFetchKey_exchange (env : Env) (tuple : FlowTuple) (info : TlsKeyInfo)
    (w sent : Client) (isOpen : 0 ≤ w.vars.netlinkSock)
    (allocated : env.mallocOk w.calls = true)
    (sentEq : sent = (w.afterCall (.malloc true)).afterSendto env w.vars.netlinkSock
      w.vars.destAddr (flowRequest env tlsServiceFetch tuple)) :
    tlshubFetchKey env (some tuple) (some info) w =
      if (env.peer (w.calls ++ [.malloc true]) w.vars.netlinkSock w.vars.destAddr
          (flowRequest env tlsServiceFetch tuple)).1.ret = 0 then
        (.returned (-1, some info), sent)
      else
        match sent.inbox w.vars.netlinkSock with
        | [] => (.blocked, sent)
        | d :: rest =>
            (.returned (fetchResult env.order d info),
              sent.afterReads w.vars.netlinkSock storeDestAddr [d] rest) := by
  have notClosed : ¬ w.vars.netlinkSock < 0 := by omega
  subst sentEq
  simp only [tlshubFetchKey, Program.bind_apply, Program.get_apply, malloc, sendto,
    if_neg notClosed, allocated, Bool.true_eq_false, if_false, afterCall_vars, afterCall_calls]
  split
  · rfl
  · cases queue : ((w.afterCall (.malloc true)).afterSendto env w.vars.netlinkSock
        w.vars.destAddr (flowRequest env tlsServiceFetch tuple)).inbox w.vars.netlinkSock with
    | nil => simp only [Program.bind_apply, recvfrom, queue]
    | cons d rest =>
        simp only [Program.bind_apply, recvfrom, queue, fetchResult]
        by_cases zero : d.ret = 0
        · simp [zero]
        · by_cases status : (KeyBack.ofMsg env.order d.uInfo.msg).status = 0
          · simp [zero, status]
          · simp [zero, status]

def clientHandshakeSwitch (msgType : UInt8) : Option Int :=
  if msgType = msgTypeHandshakeSuccessFirst ∨ msgType = msgTypeHandshakeSuccess ∨
      msgType = msgTypeAlreadyConnected then
    some 0
  else if msgType = msgTypeHandshakeFailed then
    some (-1)
  else
    none

/-- The buffer is allocated by the first call and kept. -/
def handshakeBuffer (env : Env) : Program Client Bool := do
  let nlh ← Program.get fun w => w.vars.nlh
  if nlh then
    return true
  let nlh ← malloc env
  Program.modify fun w => { w with vars := { w.vars with nlh := nlh } }
  return nlh

def tlshubHandshake (env : Env) (tuple : Option FlowTuple) : Program Client Int := do
  let sock ← Program.get fun w => w.vars.netlinkSock
  match tuple with
  | some tuple =>
      if sock < 0 then
        return -1
      let nlh ← handshakeBuffer env
      if nlh = false then
        return -1
      let dest ← Program.get fun w => w.vars.destAddr
      let ret ← sendto env sock dest (flowRequest env tlsServiceStart tuple)
      if ret = 0 then
        return -1
      waitLoop sock storeDestAddr (pure (-1)) clientHandshakeSwitch pure
  | none => return -1

def clientHandshakeSetup (w : Client) : List Syscall :=
  if w.vars.nlh then [] else [.malloc true]

def clientHandshakeReady (w : Client) : Client :=
  { calls := w.calls ++ clientHandshakeSetup w
    inbox := w.inbox
    vars := { w.vars with nlh := true } }

theorem handshakeBuffer_ready (env : Env) (w : Client)
    (available : w.vars.nlh = true ∨ env.mallocOk w.calls = true) :
    handshakeBuffer env w = (.returned true, clientHandshakeReady w) := by
  cases kept : w.vars.nlh with
  | true =>
      have same : clientHandshakeReady w = w := by
        rw [clientHandshakeReady, clientHandshakeSetup, if_pos kept, List.append_nil, ← kept]
      simp [handshakeBuffer, Program.bind_apply, kept, same]
  | false =>
      have allocated : env.mallocOk w.calls = true := by simpa [kept] using available
      simp [handshakeBuffer, Program.bind_apply, malloc, kept, allocated, clientHandshakeReady,
        clientHandshakeSetup]

theorem tlshubHandshake_refused (env : Env) (tuple : Option FlowTuple) (w : Client)
    (refused : w.vars.netlinkSock < 0 ∨ tuple = none) :
    tlshubHandshake env tuple w = (.returned (-1), w) := by
  cases tuple with
  | none => simp [tlshubHandshake, Program.bind_apply]
  | some tuple =>
      have closed : w.vars.netlinkSock < 0 := by simpa using refused
      simp [tlshubHandshake, Program.bind_apply, closed]

theorem tlshubHandshake_exchange (env : Env) (tuple : FlowTuple) (w : Client)
    (isOpen : 0 ≤ w.vars.netlinkSock)
    (available : w.vars.nlh = true ∨ env.mallocOk w.calls = true) :
    tlshubHandshake env (some tuple) w =
      (if (env.peer (clientHandshakeReady w).calls w.vars.netlinkSock w.vars.destAddr
          (flowRequest env tlsServiceStart tuple)).1.ret = 0 then
        pure (-1)
      else
        waitLoop w.vars.netlinkSock storeDestAddr (pure (-1)) clientHandshakeSwitch pure)
      ((clientHandshakeReady w).afterSendto env w.vars.netlinkSock w.vars.destAddr
        (flowRequest env tlsServiceStart tuple)) := by
  have notClosed : ¬ w.vars.netlinkSock < 0 := by omega
  simp only [tlshubHandshake, Program.bind_apply, Program.get_apply, if_neg notClosed,
    handshakeBuffer_ready env w available, Bool.true_eq_false, if_false, sendto]
  rfl

end TlshubEbpf.Capture
