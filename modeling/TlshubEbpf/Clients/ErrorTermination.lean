import TlshubEbpf.Netlink.Exchange
import TlshubEbpf.Capture.TlshubClient
import TlshubEbpf.Api.Tlshub

/-! # What the four wait loops do after a failed system call

`if (!ret)` follows every `sendto` and `recvfrom` of the four operations.  It
catches a result of 0 and lets the -1 of an error through: a `sendto` that
failed is waited for, and a `recvfrom` that failed leaves a zeroed buffer whose
type byte 0 is that of an unknown message. -/

set_option autoImplicit false

namespace TlshubEbpf.Clients

open TlshubEbpf.Lib TlshubEbpf.Netlink TlshubEbpf.Capture TlshubEbpf.Api

/-- An operation that sends a request and waits, with the state it starts in.
The capture handshake has an open socket; the API's has one if it kept one. -/
inductive Operation where
  | clientInit (vars : ClientVars)
  | clientHandshake (sock : Nat) (destAddr : SockaddrNl) (nlh : Bool) (tuple : FlowTuple)
  | serviceInit (vars : ApiVars) (stack : MyMsg)
  | apiHandshake (sock : Option Nat) (nlh : Option NlmsgHdr) (daddr : SockaddrNl)
      (stack : MyMsg) (pods : PodTuple)

def keptContext (sock : Option Nat) (nlh : Option NlmsgHdr) (daddr : SockaddrNl) : NetlinkCtx :=
  match sock with
  | some sock => ⟨sock, nlh, daddr⟩
  | none => ⟨-1, nlh, daddr⟩

theorem keptContext_skFd (sock : Option Nat) (nlh : Option NlmsgHdr) (daddr : SockaddrNl) :
    -1 ≤ (keptContext sock nlh daddr).skFd := by
  cases sock with
  | none => simp [keptContext]
  | some sock => simp only [keptContext]; omega

def observed {S : Type} (result : Outcome Int × World S) : List Syscall × Outcome Int :=
  (result.2.calls, result.1)

def Operation.run (env : Env) : Operation → List Syscall × Outcome Int
  | .clientInit vars => observed (tlshubClientInit env (World.start vars))
  | .clientHandshake sock destAddr nlh tuple =>
      observed (Capture.tlshubHandshake env (some tuple) (World.start ⟨sock, destAddr, nlh⟩))
  | .serviceInit vars stack => observed (tlshubServiceInit env stack (World.start vars))
  | .apiHandshake sock nlh daddr stack pods =>
      observed (Api.tlshubHandshake env stack pods
        (World.start ⟨keptContext sock nlh daddr⟩))

def Operation.switch : Operation → UInt8 → Option Int
  | .clientInit _ => clientInitSwitch
  | .clientHandshake _ _ _ _ => clientHandshakeSwitch
  | .serviceInit _ _ => serviceInitSwitch
  | .apiHandshake _ _ _ _ _ => apiHandshakeSwitch

/-- No loop knows the type byte of a zeroed buffer. -/
theorem Operation.switch_zero (op : Operation) : op.switch 0 = none := by
  cases op <;> rfl

theorem quiet_nil : Quiet [] := by
  intro call member
  contradiction

theorem pure_addsQuiet {S : Type} (ret : Int) :
    AddsQuiet (pure ret : Program (World S) Int) :=
  fun w => ⟨[], quiet_nil, by simp⟩

theorem closeNetlinkSock_addsQuiet : AddsQuiet closeNetlinkSock := by
  intro w
  refine ⟨[.close w.vars.netlinkSock], by simp [Quiet, isExchangeCall], ?_⟩
  rw [closeNetlinkSock_apply]
  rfl

theorem close_addsQuiet {S α : Type} (fd : Int) (next : Program (World S) α)
    (quiet : AddsQuiet next) : AddsQuiet (do close fd; next) := by
  intro w
  obtain ⟨cleanup, quietCleanup, added⟩ := quiet (w.closed fd)
  refine ⟨.close fd :: cleanup, ?_, ?_⟩
  · simpa [Quiet, isExchangeCall] using quietCleanup
  · simp [Program.bind_apply, close, added]

theorem exit_addsQuiet {S : Type} (code : Int) :
    AddsQuiet (Program.exit code : Program (World S) Int) :=
  fun w => ⟨[], quiet_nil, by simp⟩

theorem handshakeReject_addsQuiet (ctx : NetlinkCtx) (isOpen : ctx.skFd ≠ -1) :
    AddsQuiet (do
      let ctx ← netlinkCtxCleanup ctx true
      setCtx ctx
      Program.exit (-1) : Program Thread Int) := by
  intro w
  refine ⟨[.close ctx.skFd], by simp [Quiet, isExchangeCall], ?_⟩
  simp [Program.bind_apply, netlinkCtxCleanup_open ctx w isOpen, setCtx]

/-! ## The four exchanges -/

section Exchange
variable (order : ByteOrder) (tid : UInt32) (sent : SendResult) (results : List Delivery)

def exchangeEnv : Env := scriptEnv order tid true true true sent results

theorem clientInit_exchanged (vars : ClientVars) (result : Outcome Int × Client)
    (ran : tlshubClientInit (exchangeEnv order tid sent results) (World.start vars) = result) :
    Exchanged clientInitSwitch sent results result.2.calls result.1 := by
  rw [tlshubClientInit_exchange _ _ rfl rfl rfl] at ran
  apply sendto_exchanged _ _ _ _ _ _ _ _ _ _ _ _ _ ran.symm
  · rfl
  · simp [clientInitReady, exchangeEnv]
  · simp [Quiet, clientInitReady, clientInitSetup, World.start, isExchangeCall]
  · exact closeNetlinkSock_addsQuiet
  · intro w
    rw [closeNetlinkSock_apply]
    rfl
  · exact closeNetlinkSock_addsQuiet
  · exact pure_addsQuiet

theorem clientHandshake_exchanged (sock : Nat) (destAddr : SockaddrNl) (nlh : Bool)
    (tuple : FlowTuple) (result : Outcome Int × Client)
    (ran : Capture.tlshubHandshake (exchangeEnv order tid sent results) (some tuple)
      (World.start ⟨sock, destAddr, nlh⟩) = result) :
    Exchanged clientHandshakeSwitch sent results result.2.calls result.1 := by
  rw [Capture.tlshubHandshake_exchange _ _ _ (Int.natCast_nonneg sock) (Or.inr rfl)] at ran
  apply sendto_exchanged _ _ _ _ _ _ _ _ _ _ _ _ _ ran.symm
  · rfl
  · rfl
  · simp only [Quiet, clientHandshakeReady, clientHandshakeSetup]
    split <;> simp [World.start, isExchangeCall]
  · exact pure_addsQuiet (-1)
  · exact fun w => rfl
  · exact pure_addsQuiet (-1)
  · exact pure_addsQuiet

theorem serviceInit_exchanged (vars : ApiVars) (stack : MyMsg) (result : Outcome Int × Thread)
    (ran : tlshubServiceInit (exchangeEnv order tid sent results) stack (World.start vars) =
      result) :
    Exchanged serviceInitSwitch sent results result.2.calls result.1 := by
  rw [tlshubServiceInit_exchange _ _ _ rfl rfl rfl] at ran
  apply sendto_exchanged _ _ _ _ _ _ _ _ _ _ _ _ _ ran.symm
  · rfl
  · simp [serviceInitReady, boundSocket, exchangeEnv]
  · simp [Quiet, serviceInitReady, boundSocket, World.start, isExchangeCall]
  · exact close_addsQuiet _ _ (exit_addsQuiet (-1))
  · exact fun w => rfl
  · exact pure_addsQuiet (-2)
  · exact fun verdict => close_addsQuiet _ _ (pure_addsQuiet verdict)

theorem apiHandshake_exchanged (sock : Option Nat) (nlh : Option NlmsgHdr) (daddr : SockaddrNl)
    (stack : MyMsg) (pods : PodTuple) (result : Outcome Int × Thread)
    (ran : Api.tlshubHandshake (exchangeEnv order tid sent results) stack pods
      (World.start ⟨keptContext sock nlh daddr⟩) = result) :
    Exchanged apiHandshakeSwitch sent results result.2.calls result.1 := by
  have isOpen := keptContext_skFd sock nlh daddr
  obtain ⟨fd, _, ctxEq, nonneg⟩ := handshakeCtx_eq (exchangeEnv order tid sent results)
    (World.start ⟨keptContext sock nlh daddr⟩) isOpen
  rw [Api.tlshubHandshake_exchange _ _ _ _ isOpen (fun _ => ⟨rfl, rfl⟩) (fun _ => rfl)] at ran
  apply sendto_exchanged _ _ _ _ _ _ _ _ _ _ _ _ _ ran.symm
  · rfl
  · simp only [handshakeReady]
    split <;> simp [World.start, exchangeEnv]
  · simp only [Quiet, handshakeReady, handshakeSetup, handshakeSocket]
    split <;> split <;> simp [World.start, isExchangeCall]
  · apply handshakeReject_addsQuiet
    rw [ctxEq]
    simp only [ne_eq]
    omega
  · exact fun w => rfl
  · exact pure_addsQuiet (-2)
  · exact pure_addsQuiet

/-- Each of the four operations stops at its first failed call exactly if the
`sendto` returned 0, or neither it nor a `recvfrom` before the last one did -1. -/
theorem stops_at_first_failure_iff (op : Operation) :
    StopsAtFailure (op.run (exchangeEnv order tid sent results)).1
        (op.run (exchangeEnv order tid sent results)).2 ↔
      sent.ret = 0 ∨ sent ≠ .failed ∧ NoErrorBeforeStop op.switch results := by
  apply Exchanged.stopsAtFailure_iff op.switch sent results _ _ op.switch_zero
  cases op with
  | clientInit vars => exact clientInit_exchanged order tid sent results vars _ rfl
  | clientHandshake sock destAddr nlh tuple =>
      exact clientHandshake_exchanged order tid sent results sock destAddr nlh tuple _ rfl
  | serviceInit vars stack => exact serviceInit_exchanged order tid sent results vars stack _ rfl
  | apiHandshake sock nlh daddr stack pods =>
      exact apiHandshake_exchanged order tid sent results sock nlh daddr stack pods _ rfl

end Exchange

/-- The request was not sent, and the handshake waits through two errors for ever. -/
theorem handshake_waits_after_failed_sendto :
    (Operation.clientHandshake 3 kernelAddr true ⟨1, 2, 3, 4⟩).run
        (exchangeEnv .little 42 .failed [.failed, .failed]) =
      ([.sendto 3 kernelAddr (flowRequest (exchangeEnv .little 42 .failed []) tlsServiceStart
          ⟨1, 2, 3, 4⟩) .failed,
        .recvfrom 3 .failed, .recvfrom 3 .failed], .blocked) ∧
    ¬ StopsAtFailure
      ((Operation.clientHandshake 3 kernelAddr true ⟨1, 2, 3, 4⟩).run
        (exchangeEnv .little 42 .failed [.failed, .failed])).1
      ((Operation.clientHandshake 3 kernelAddr true ⟨1, 2, 3, 4⟩).run
        (exchangeEnv .little 42 .failed [.failed, .failed])).2 := by
  have ran : (Operation.clientHandshake 3 kernelAddr true ⟨1, 2, 3, 4⟩).run
        (exchangeEnv .little 42 .failed [.failed, .failed]) =
      ([.sendto 3 kernelAddr (flowRequest (exchangeEnv .little 42 .failed []) tlsServiceStart
          ⟨1, 2, 3, 4⟩) .failed,
        .recvfrom 3 .failed, .recvfrom 3 .failed], .blocked) := by decide
  refine ⟨ran, ?_⟩
  rw [ran]
  intro stops
  have failure := stops.2 ⟨_, List.mem_cons_self, rfl⟩
  simp [isFailure] at failure

end TlshubEbpf.Clients
