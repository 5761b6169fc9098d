import TlshubEbpf.Netlink.System

/-! # The user-space API (`tlshub.c`)

`tlshub_service_init` and `tlshub_fetch_key` use a socket of their own for each
call; `tlshub_handshake` keeps one in a thread-local context.  All three bind to
the thread id.  `struct my_msg` is a stack variable that is not cleared, so each
function takes its prior contents as the argument `stack`. -/

set_option autoImplicit false

namespace TlshubEbpf.Api

open TlshubEbpf.Lib TlshubEbpf.Netlink

structure NetlinkCtx where
  skFd : Int
  nlh : Option NlmsgHdr
  daddr : SockaddrNl
  deriving DecidableEq, Repr

def NetlinkCtx.initial : NetlinkCtx := ⟨-1, none, ⟨0, 0, 0⟩⟩

theorem NetlinkCtx.initial_nlh : NetlinkCtx.initial.nlh = none := rfl

structure ApiVars where
  gNetlinkCtx : NetlinkCtx
  deriving DecidableEq, Repr

def ApiVars.initial : ApiVars := ⟨NetlinkCtx.initial⟩

abbrev Thread := World ApiVars

structure PodTuple where
  clientPodIp : UInt32
  serverPodIp : UInt32
  clientPodPort : UInt16
  serverPodPort : UInt16
  deriving DecidableEq, Repr

def netlinkCtxInit (env : Env) (ctx : NetlinkCtx) : Program Thread (Int × NetlinkCtx) := do
  if ctx.skFd ≠ -1 then
    return (0, ctx)
  let fd ← socket env
  if fd = -1 then
    return (-1, { ctx with skFd := fd })
  let bound ← bind env fd env.tid
  if bound ≠ 0 then
    close fd
    return (-1, { ctx with skFd := -1 })
  return (0, { ctx with skFd := fd, daddr := kernelAddr })

def netlinkCtxAllocMsg (env : Env) (ctx : NetlinkCtx) : Program Thread (Int × NetlinkCtx) := do
  if ctx.nlh ≠ none then
    return (0, ctx)
  let allocated ← malloc env
  if allocated = false then
    return (-1, ctx)
  return (0, { ctx with nlh := some ⟨requestLen, 0, 0, 0, 0⟩ })

def netlinkCtxCleanup (ctx : NetlinkCtx) (closeSocket : Bool) : Program Thread NetlinkCtx := do
  let ctx := { ctx with nlh := none }
  if closeSocket ∧ ctx.skFd ≠ -1 then
    close ctx.skFd
    return { ctx with skFd := -1 }
  return ctx

def initUserNetlink (env : Env) : Program Thread Int := do
  let skFd ← socket env
  if skFd = -1 then
    return -1
  let bound ← bind env skFd env.tid
  if bound ≠ 0 then
    close skFd
    return -1
  return skFd

/-- The result of `malloc` is written to before anyone compares it with NULL. -/
def mallocNetlinkPkthdr (env : Env) : Program Thread NlmsgHdr := do
  let allocated ← malloc env
  if allocated = false then
    Program.crash
  else
    return ⟨requestLen, 0, 0, 0, env.tid⟩

def serviceInitSwitch (msgType : UInt8) : Option Int :=
  if msgType = msgTypeInitComplete then some 0 else none

def serviceInitMsg (stack : MyMsg) : MyMsg :=
  { stack with opcode := tlsServiceInit, server := 1 }

def tlshubServiceInit (env : Env) (stack : MyMsg) : Program Thread Int := do
  let skFd ← initUserNetlink env
  if skFd < 0 then
    return -1
  let nlh ← mallocNetlinkPkthdr env
  let ret ← sendto env skFd kernelAddr ⟨nlh, serviceInitMsg stack⟩
  if ret = 0 then
    close skFd
    Program.exit (-1)
  else
    -- the address is stored in a local that no later send uses
    waitLoop skFd (fun _ vars => vars) (pure (-2)) serviceInitSwitch fun ret => do
      close skFd
      return ret

def setCtx (ctx : NetlinkCtx) : Program Thread Unit :=
  Program.modify fun w => { w with vars := { w.vars with gNetlinkCtx := ctx } }

def storeDaddr (source : SockaddrNl) (vars : ApiVars) : ApiVars :=
  { vars with gNetlinkCtx := { vars.gNetlinkCtx with daddr := source } }

def apiHandshakeSwitch (msgType : UInt8) : Option Int :=
  if msgType = 0x01 ∨ msgType = 0x02 ∨ msgType = 0x05 then
    some 0
  else if msgType = 0x03 then
    some (-1)
  else
    none

def handshakeMsg (env : Env) (stack : MyMsg) (pods : PodTuple) : MyMsg :=
  { stack with
    opcode := tlsServiceStart
    clientPodIp := pods.clientPodIp
    serverPodIp := pods.serverPodIp
    clientPodPort := htons env.order pods.clientPodPort
    serverPodPort := htons env.order pods.serverPodPort
    server := 0 }

def tlshubHandshake (env : Env) (stack : MyMsg) (pods : PodTuple) : Program Thread Int := do
  let ctx ← Program.get fun w => w.vars.gNetlinkCtx
  let (ret, ctx) ← netlinkCtxInit env ctx
  setCtx ctx
  if ret ≠ 0 then
    return -1
  let (ret, ctx) ← netlinkCtxAllocMsg env ctx
  setCtx ctx
  if ret ≠ 0 then
    return -1
  match ctx.nlh with
  | none => Program.crash
  | some nlh =>
      let nlh := { nlh with nlmsgPid := env.tid }
      setCtx { ctx with nlh := some nlh }
      if ctx.skFd < 0 then
        return -1
      let ret ← sendto env ctx.skFd ctx.daddr ⟨nlh, handshakeMsg env stack pods⟩
      if ret = 0 then
        let ctx ← netlinkCtxCleanup ctx true
        setCtx ctx
        Program.exit (-1)
      else
        waitLoop ctx.skFd storeDaddr (pure (-2)) apiHandshakeSwitch pure

/-- The `server` field keeps what the stack held. -/
def fetchMsg (env : Env) (stack : MyMsg) (pods : PodTuple) : MyMsg :=
  { stack with
    opcode := tlsServiceFetch
    clientPodIp := pods.clientPodIp
    serverPodIp := pods.serverPodIp
    clientPodPort := htons env.order pods.clientPodPort
    serverPodPort := htons env.order pods.serverPodPort }

def tlshubFetchKey (env : Env) (stack : MyMsg) (pods : PodTuple) : Program Thread KeyBack := do
  let (ret, ctx) ← netlinkCtxInit env NetlinkCtx.initial
  if ret ≠ 0 then
    -- status 0, as if there were a key
    return KeyBack.zeroed
  let (ret, ctx) ← netlinkCtxAllocMsg env ctx
  if ret ≠ 0 then
    let _ ← netlinkCtxCleanup ctx true
    return KeyBack.zeroed
  match ctx.nlh with
  | none => Program.crash
  | some nlh =>
      let nlh := { nlh with nlmsgPid := env.tid }
      let ret ← sendto env ctx.skFd ctx.daddr ⟨nlh, fetchMsg env stack pods⟩
      if ret = 0 then
        let _ ← netlinkCtxCleanup ctx true
        Program.exit (-1)
      else
        let (ret, uInfo) ← recvfrom ctx.skFd fun _ vars => vars
        if ret = 0 then
          let _ ← netlinkCtxCleanup ctx true
          Program.exit (-1)
        else
          let key := KeyBack.ofMsg env.order uInfo.msg
          let _ ← netlinkCtxCleanup ctx true
          return key

/-! ## What the functions do on each outcome of their calls -/

section Apply
variable (env : Env)

def boundSocket (w : Thread) : Thread :=
  w.opened.afterCall (.bind (freshFd w.calls) env.tid 0)

theorem netlinkCtxInit_kept (ctx : NetlinkCtx) (w : Thread) (kept : ctx.skFd ≠ -1) :
    netlinkCtxInit env ctx w = (.returned (0, ctx), w) := by
  simp [netlinkCtxInit, kept]

theorem netlinkCtxInit_no_socket (ctx : NetlinkCtx) (w : Thread) (unset : ctx.skFd = -1)
    (refused : env.socketOk w.calls = false) :
    netlinkCtxInit env ctx w = (.returned (-1, ctx), w.afterCall (.socket (-1))) := by
  have kept : { ctx with skFd := -1 } = ctx := by rw [← unset]
  simp [netlinkCtxInit, unset, Program.bind_apply, socket_refused env w refused, kept]

theorem netlinkCtxInit_not_bound (ctx : NetlinkCtx) (w : Thread) (unset : ctx.skFd = -1)
    (created : env.socketOk w.calls = true)
    (refused : env.bindOk w.opened.calls (freshFd w.calls) env.tid = false) :
    netlinkCtxInit env ctx w =
      (.returned (-1, ctx),
        (w.opened.afterCall (.bind (freshFd w.calls) env.tid (-1))).closed (freshFd w.calls)) := by
  have kept : { ctx with skFd := -1 } = ctx := by rw [← unset]
  simp [netlinkCtxInit, unset, Program.bind_apply, socket_created env w created, freshFd_ne,
    bind_refused env _ _ _ refused, close, kept]

theorem netlinkCtxInit_bound (ctx : NetlinkCtx) (w : Thread) (unset : ctx.skFd = -1)
    (created : env.socketOk w.calls = true)
    (granted : env.bindOk w.opened.calls (freshFd w.calls) env.tid = true) :
    netlinkCtxInit env ctx w =
      (.returned (0, ⟨freshFd w.calls, ctx.nlh, kernelAddr⟩), boundSocket env w) := by
  simp [netlinkCtxInit, unset, Program.bind_apply, socket_created env w created, freshFd_ne,
    bind_granted env _ _ _ granted, boundSocket]

theorem netlinkCtxAllocMsg_kept (ctx : NetlinkCtx) (w : Thread) (kept : ctx.nlh ≠ none) :
    netlinkCtxAllocMsg env ctx w = (.returned (0, ctx), w) := by
  simp [netlinkCtxAllocMsg, kept]

theorem netlinkCtxAllocMsg_allocated (ctx : NetlinkCtx) (w : Thread) (unset : ctx.nlh = none)
    (allocated : env.mallocOk w.calls = true) :
    netlinkCtxAllocMsg env ctx w =
      (.returned (0, { ctx with nlh := some ⟨requestLen, 0, 0, 0, 0⟩ }),
        w.afterCall (.malloc true)) := by
  simp [netlinkCtxAllocMsg, unset, Program.bind_apply, malloc_apply env w _ allocated]

theorem netlinkCtxAllocMsg_full (ctx : NetlinkCtx) (w : Thread) (unset : ctx.nlh = none)
    (full : env.mallocOk w.calls = false) :
    netlinkCtxAllocMsg env ctx w = (.returned (-1, ctx), w.afterCall (.malloc false)) := by
  simp [netlinkCtxAllocMsg, unset, Program.bind_apply, malloc_apply env w _ full]

theorem netlinkCtxCleanup_open (ctx : NetlinkCtx) (w : Thread) (isOpen : ctx.skFd ≠ -1) :
    netlinkCtxCleanup ctx true w =
      (.returned { ctx with skFd := -1, nlh := none }, w.closed ctx.skFd) := by
  simp [netlinkCtxCleanup, Program.bind_apply, close, isOpen]

theorem tlshubFetchKey_no_ctx (stack : MyMsg) (pods : PodTuple) (w w' : Thread)
    (ctx : NetlinkCtx)
    (failed : netlinkCtxInit env NetlinkCtx.initial w = (.returned (-1, ctx), w')) :
    tlshubFetchKey env stack pods w = (.returned KeyBack.zeroed, w') := by
  simp [tlshubFetchKey, Program.bind_apply, failed]

theorem tlshubFetchKey_no_memory (stack : MyMsg) (pods : PodTuple) (w : Thread)
    (created : env.socketOk w.calls = true)
    (granted : env.bindOk w.opened.calls (freshFd w.calls) env.tid = true)
    (full : env.mallocOk (boundSocket env w).calls = false) :
    tlshubFetchKey env stack pods w =
      (.returned KeyBack.zeroed,
        ((boundSocket env w).afterCall (.malloc false)).closed (freshFd w.calls)) := by
  have ctxFull := netlinkCtxAllocMsg_full env ⟨freshFd w.calls, none, kernelAddr⟩ _ rfl full
  have cleanup := netlinkCtxCleanup_open ⟨freshFd w.calls, none, kernelAddr⟩
    ((boundSocket env w).afterCall (.malloc false)) (freshFd_ne w.calls)
  simp [tlshubFetchKey, Program.bind_apply,
    netlinkCtxInit_bound env NetlinkCtx.initial w rfl created granted, NetlinkCtx.initial_nlh,
    ctxFull, cleanup]

def fetchRequest (stack : MyMsg) (pods : PodTuple) : Request :=
  ⟨⟨requestLen, 0, 0, 0, env.tid⟩, fetchMsg env stack pods⟩

theorem tlshubFetchKey_exchange (stack : MyMsg) (pods : PodTuple) (w ready sent : Thread)
    (created : env.socketOk w.calls = true)
    (granted : env.bindOk w.opened.calls (freshFd w.calls) env.tid = true)
    (allocated : env.mallocOk (boundSocket env w).calls = true)
    (readyEq : ready = (boundSocket env w).afterCall (.malloc true))
    (sentEq : sent =
      ready.afterSendto env (freshFd w.calls) kernelAddr (fetchRequest env stack pods)) :
    tlshubFetchKey env stack pods w =
      if (env.peer ready.calls (freshFd w.calls) kernelAddr
          (fetchRequest env stack pods)).1.ret = 0 then
        (.exited (-1), sent.closed (freshFd w.calls))
      else
        match sent.inbox (freshFd w.calls) with
        | [] => (.blocked, sent)
        | d :: rest =>
            (if d.ret = 0 then .exited (-1)
              else .returned (KeyBack.ofMsg env.order d.uInfo.msg),
              (sent.afterReads (freshFd w.calls) (fun _ vars => vars) [d] rest).closed
                (freshFd w.calls)) := by
  subst sentEq readyEq
  unfold fetchRequest
  have isOpen := freshFd_ne w.calls
  have alloc := netlinkCtxAllocMsg_allocated env ⟨freshFd w.calls, none, kernelAddr⟩ _ rfl
    allocated
  have cleanup := fun (nlh : NlmsgHdr) (w' : Thread) =>
    netlinkCtxCleanup_open ⟨freshFd w.calls, some nlh, kernelAddr⟩ w' isOpen
  simp only [tlshubFetchKey, Program.bind_apply,
    netlinkCtxInit_bound env NetlinkCtx.initial w rfl created granted, NetlinkCtx.initial_nlh,
    alloc, ne_eq, not_true_eq_false, if_false, sendto]
  split
  · simp only [Program.bind_apply, cleanup, Program.exit_apply]
  · generalize World.afterSendto env _ (freshFd w.calls) kernelAddr _ = sent
    cases queue : sent.inbox (freshFd w.calls) with
    | nil => simp only [Program.bind_apply, recvfrom, queue]
    | cons d rest =>
        simp only [Program.bind_apply, recvfrom, queue]
        by_cases zero : d.ret = 0
        · simp only [zero, if_true, Program.bind_apply, cleanup, Program.exit_apply]
        · simp only [zero, if_false, Program.bind_apply, cleanup, Program.pure_apply]

def serviceInitReady (w : Thread) : Thread := (boundSocket env w).afterCall (.malloc true)

def serviceInitRequest (stack : MyMsg) : Request :=
  ⟨⟨requestLen, 0, 0, 0, env.tid⟩, serviceInitMsg stack⟩

theorem tlshubServiceInit_not_bound (stack : MyMsg) (w : Thread)
    (created : env.socketOk w.calls = true)
    (refused : env.bindOk w.opened.calls (freshFd w.calls) env.tid = false) :
    tlshubServiceInit env stack w =
      (.returned (-1),
        (w.opened.afterCall (.bind (freshFd w.calls) env.tid (-1))).closed (freshFd w.calls)) := by
  simp [tlshubServiceInit, initUserNetlink, Program.bind_apply, socket_created env w created,
    freshFd_ne, bind_refused env _ _ _ refused, close]

theorem tlshubServiceInit_exchange (stack : MyMsg) (w : Thread)
    (created : env.socketOk w.calls = true)
    (granted : env.bindOk w.opened.calls (freshFd w.calls) env.tid = true)
    (allocated : env.mallocOk (boundSocket env w).calls = true) :
    tlshubServiceInit env stack w =
      (if (env.peer (serviceInitReady env w).calls (freshFd w.calls) kernelAddr
          (serviceInitRequest env stack)).1.ret = 0 then do
        close (freshFd w.calls)
        Program.exit (-1)
      else
        waitLoop (freshFd w.calls) (fun _ vars => vars) (pure (-2)) serviceInitSwitch
          fun ret => do
            close (freshFd w.calls)
            return ret)
      ((serviceInitReady env w).afterSendto env (freshFd w.calls) kernelAddr
        (serviceInitRequest env stack)) := by
  have nonneg := freshFd_nonneg w.calls
  have isOpen : ¬ freshFd w.calls < 0 := by omega
  have bound : initUserNetlink env w = (.returned (freshFd w.calls), boundSocket env w) := by
    simp [initUserNetlink, Program.bind_apply, socket_created env w created, freshFd_ne,
      bind_granted env _ _ _ granted, boundSocket]
  simp only [tlshubServiceInit, Program.bind_apply, bound, if_neg isOpen, mallocNetlinkPkthdr,
    malloc_apply env _ _ allocated, Bool.true_eq_false, if_false, Program.pure_apply, sendto,
    serviceInitReady, serviceInitRequest]
  rfl

/-- The context after its two initialisations and the header's process id. -/
def handshakeCtx (w : Thread) : NetlinkCtx :=
  let ctx := w.vars.gNetlinkCtx
  let nlh := some { ctx.nlh.getD ⟨requestLen, 0, 0, 0, 0⟩ with nlmsgPid := env.tid }
  if ctx.skFd = -1 then ⟨freshFd w.calls, nlh, kernelAddr⟩ else ⟨ctx.skFd, nlh, ctx.daddr⟩

def handshakeSocket (w : Thread) : List Syscall :=
  if w.vars.gNetlinkCtx.skFd = -1 then
    [.socket (freshFd w.calls), .bind (freshFd w.calls) env.tid 0]
  else []

def handshakeSetup (w : Thread) : List Syscall :=
  handshakeSocket env w ++ if w.vars.gNetlinkCtx.nlh = none then [.malloc true] else []

def handshakeReady (w : Thread) : Thread :=
  { calls := w.calls ++ handshakeSetup env w
    inbox := if w.vars.gNetlinkCtx.skFd = -1 then
      Function.update w.inbox (freshFd w.calls) [] else w.inbox
    vars := ⟨handshakeCtx env w⟩ }

def handshakeRequest (w : Thread) (stack : MyMsg) (pods : PodTuple) : Request :=
  ⟨{ w.vars.gNetlinkCtx.nlh.getD ⟨requestLen, 0, 0, 0, 0⟩ with nlmsgPid := env.tid },
    handshakeMsg env stack pods⟩

theorem handshakeCtx_eq (w : Thread) (isOpen : -1 ≤ w.vars.gNetlinkCtx.skFd) :
    ∃ fd daddr, handshakeCtx env w =
        ⟨fd, some { w.vars.gNetlinkCtx.nlh.getD ⟨requestLen, 0, 0, 0, 0⟩ with
          nlmsgPid := env.tid }, daddr⟩ ∧ 0 ≤ fd := by
  by_cases unset : w.vars.gNetlinkCtx.skFd = -1
  · exact ⟨freshFd w.calls, kernelAddr, by simp [handshakeCtx, unset], freshFd_nonneg w.calls⟩
  · exact ⟨w.vars.gNetlinkCtx.skFd, w.vars.gNetlinkCtx.daddr, by simp [handshakeCtx, unset],
      by omega⟩

def HandshakeSocketOk (w : Thread) : Prop :=
  w.vars.gNetlinkCtx.skFd = -1 →
    env.socketOk w.calls = true ∧
      env.bindOk w.opened.calls (freshFd w.calls) env.tid = true

theorem netlinkCtxInit_ready (w : Thread) (socketOk : HandshakeSocketOk env w) :
    ∃ bound : Thread,
      netlinkCtxInit env w.vars.gNetlinkCtx w =
        (.returned (0, { handshakeCtx env w with nlh := w.vars.gNetlinkCtx.nlh }), bound) ∧
      bound.calls = w.calls ++ handshakeSocket env w ∧
      bound.inbox = (handshakeReady env w).inbox := by
  by_cases unset : w.vars.gNetlinkCtx.skFd = -1
  · obtain ⟨created, granted⟩ := socketOk unset
    refine ⟨boundSocket env w, ?_, ?_, ?_⟩
    · simp [netlinkCtxInit_bound env _ w unset created granted, handshakeCtx, unset]
    · simp [boundSocket, handshakeSocket, unset]
    · simp [boundSocket, handshakeReady, unset]
  · refine ⟨w, ?_, ?_, ?_⟩
    · simp [netlinkCtxInit_kept env _ w unset, handshakeCtx, unset]
    · simp [handshakeSocket, unset]
    · simp [handshakeReady, unset]

theorem tlshubHandshake_exchange (stack : MyMsg) (pods : PodTuple) (w : Thread)
    (isOpen : -1 ≤ w.vars.gNetlinkCtx.skFd) (socketOk : HandshakeSocketOk env w)
    (allocated : w.vars.gNetlinkCtx.nlh = none →
      env.mallocOk (w.calls ++ handshakeSocket env w) = true) :
    tlshubHandshake env stack pods w =
      (if (env.peer (handshakeReady env w).calls (handshakeCtx env w).skFd
          (handshakeCtx env w).daddr (handshakeRequest env w stack pods)).1.ret = 0 then do
        let ctx ← netlinkCtxCleanup (handshakeCtx env w) true
        setCtx ctx
        Program.exit (-1)
      else
        waitLoop (handshakeCtx env w).skFd storeDaddr (pure (-2)) apiHandshakeSwitch pure)
      ((handshakeReady env w).afterSendto env (handshakeCtx env w).skFd
        (handshakeCtx env w).daddr (handshakeRequest env w stack pods)) := by
  obtain ⟨bound, init, callsEq, inboxEq⟩ := netlinkCtxInit_ready env w socketOk
  have ready : ∀ made, w.calls ++ handshakeSetup env w = made →
      handshakeReady env w = ⟨made, bound.inbox, ⟨handshakeCtx env w⟩⟩ := by
    intro made setup
    rw [handshakeReady, setup, inboxEq, handshakeReady]
  obtain ⟨fd, daddr, ctxEq, nonneg⟩ := handshakeCtx_eq env w isOpen
  have stillOpen : ¬ fd < 0 := by omega
  simp only [tlshubHandshake, Program.bind_apply, Program.get_apply, init, setCtx,
    Program.modify_apply, ne_eq, not_true_eq_false, if_false]
  cases kept : w.vars.gNetlinkCtx.nlh with
  | none =>
      rw [netlinkCtxAllocMsg_allocated env _ _ rfl (by simpa [callsEq] using allocated kept)]
      rw [ready (bound.calls ++ [.malloc true]) (by simp [handshakeSetup, kept, callsEq])]
      simp only [ctxEq, not_true_eq_false, if_false, Program.bind_apply, Program.modify_apply,
        if_neg stillOpen, sendto, handshakeRequest, kept, Option.getD_none]
      rfl
  | some nlh =>
      rw [netlinkCtxAllocMsg_kept env _ _ (by simp)]
      rw [ready bound.calls (by simp [handshakeSetup, kept, callsEq])]
      simp only [ctxEq, not_true_eq_false, if_false, Program.bind_apply, Program.modify_apply,
        if_neg stillOpen, sendto, handshakeRequest, kept, Option.getD_some]
      rfl

end Apply
end TlshubEbpf.Api
