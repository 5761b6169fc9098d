import TlshubEbpf.Netlink.Stream
import TlshubEbpf.Capture.TlshubClient

/-! # The capture client on streams of messages

What each of the three calls returns, reads and leaves behind when all its
system calls succeed.  `arrived` is what its socket holds after the request; the
destination becomes the sender of the last message that was read. -/

set_option autoImplicit false

namespace TlshubEbpf.Capture

open TlshubEbpf.Lib TlshubEbpf.Netlink

theorem foldl_storeDestAddr (read : List Datagram) (stop : Datagram) (vars : ClientVars) :
    ((read ++ [stop]).map Datagram.delivery).foldl (storeSource storeDestAddr) vars =
      { vars with destAddr := stop.source } := by
  induction read generalizing vars with
  | nil => rfl
  | cons d read ih =>
      rw [List.cons_append, List.map_cons, List.foldl_cons, ih]
      rfl

def isVerdict (msgType : UInt8) : Bool :=
  msgType == 0x01 || msgType == 0x02 || msgType == 0x03 || msgType == 0x05

def verdictResult (msgType : UInt8) : Int := if msgType = 0x03 then -1 else 0

theorem clientHandshakeSwitch_eq (msgType : UInt8) :
    clientHandshakeSwitch msgType =
      if isVerdict msgType then some (verdictResult msgType) else none := by
  by_cases failed : msgType = 0x03
  · subst failed
    rfl
  · simp [clientHandshakeSwitch, msgTypeHandshakeSuccessFirst, msgTypeHandshakeSuccess,
      msgTypeAlreadyConnected, msgTypeHandshakeFailed, isVerdict, verdictResult, failed, or_assoc]

theorem clientHandshakeSwitch_passes (before : List Datagram)
    (noVerdict : ∀ d ∈ before, isVerdict d.msgType = false) :
    ∀ d ∈ before, clientHandshakeSwitch d.msgType = none := by
  intro d member
  rw [clientHandshakeSwitch_eq, noVerdict d member]
  rfl

theorem clientHandshakeSwitch_halts (verdict : Datagram)
    (decides : isVerdict verdict.msgType = true) :
    clientHandshakeSwitch verdict.msgType = some (verdictResult verdict.msgType) := by
  rw [clientHandshakeSwitch_eq, if_pos decides]

/-- The state after a request on `sock` and the reads `read`, up to `stop`. -/
def afterExchange (ready : Client) (sock : Int) (request : Request) (read rest : List Datagram)
    (stop : Datagram) : Client :=
  { calls := ready.calls ++ .sendto sock ready.vars.destAddr request (.sent requestLen.toNat) ::
      (read ++ [stop]).map fun d => .recvfrom sock d.delivery
    inbox := Function.update ready.inbox sock (rest.map Datagram.delivery)
    vars := { ready.vars with destAddr := stop.source } }

section Stream
variable (order : ByteOrder) (tid : UInt32) (stream : Nat → Request → List Datagram)

theorem waitLoop_afterExchange (ready : Client) (sock : Int) (request : Request)
    (onEmpty : Program Client Int) (switch : UInt8 → Option Int) (read rest : List Datagram)
    (stop : Datagram) (verdict : Int)
    (arrived : ready.inbox sock ++ (stream (sendtoCount ready.calls) request).map
      Datagram.delivery = (read ++ stop :: rest).map Datagram.delivery)
    (passes : ∀ d ∈ read, switch d.msgType = none)
    (halts : switch stop.msgType = some verdict) :
    waitLoop sock storeDestAddr onEmpty switch pure
        (ready.afterSendto (streamEnv order tid stream) sock ready.vars.destAddr request) =
      (.returned verdict, afterExchange ready sock request read rest stop) := by
  rw [waitLoop_stream sock storeDestAddr onEmpty switch pure _ read rest stop verdict
    (by simpa using arrived) passes halts]
  simp only [Program.pure_apply, World.afterReads, foldl_storeDestAddr]
  simp [afterExchange]

theorem waitLoop_unanswered (ready : Client) (sock : Int) (request : Request)
    (onEmpty : Program Client Int) (switch : UInt8 → Option Int) (queue : List Datagram)
    (arrived : ready.inbox sock ++ (stream (sendtoCount ready.calls) request).map
      Datagram.delivery = queue.map Datagram.delivery)
    (passes : ∀ d ∈ queue, switch d.msgType = none) :
    ∃ waiting : Client,
      waitLoop sock storeDestAddr onEmpty switch pure
        (ready.afterSendto (streamEnv order tid stream) sock ready.vars.destAddr request) =
          (.blocked, waiting) ∧
      waiting.calls = ready.calls ++
        .sendto sock ready.vars.destAddr request (.sent requestLen.toNat) ::
          queue.map fun d => .recvfrom sock d.delivery := by
  refine ⟨_, waitLoop_blocked sock storeDestAddr onEmpty switch pure
    (queue.map Datagram.delivery) _ (by simpa using arrived) ?_, ?_⟩
  · intro d member
    obtain ⟨datagram, inQueue, rfl⟩ := List.mem_map.mp member
    simp [stops_delivery, passes datagram inQueue]
  · simp

theorem tlshubClientInit_stream (w : Client) :
    tlshubClientInit (streamEnv order tid stream) w =
      waitLoop (freshFd w.calls) storeDestAddr closeNetlinkSock clientInitSwitch pure
        ((clientInitReady (streamEnv order tid stream) w).afterSendto (streamEnv order tid stream)
          (freshFd w.calls) kernelAddr (initRequest (streamEnv order tid stream))) := by
  rw [tlshubClientInit_exchange _ _ rfl rfl rfl, streamEnv_peer, if_neg sent_ret_ne_zero]

theorem tlshubHandshake_stream (tuple : FlowTuple) (w : Client)
    (isOpen : 0 ≤ w.vars.netlinkSock) :
    tlshubHandshake (streamEnv order tid stream) (some tuple) w =
      waitLoop w.vars.netlinkSock storeDestAddr (pure (-1)) clientHandshakeSwitch pure
        ((clientHandshakeReady w).afterSendto (streamEnv order tid stream) w.vars.netlinkSock
          w.vars.destAddr (flowRequest (streamEnv order tid stream) tlsServiceStart tuple)) := by
  rw [tlshubHandshake_exchange _ _ _ isOpen (Or.inr rfl), streamEnv_peer,
    if_neg sent_ret_ne_zero]

theorem inbox_afterMalloc (w : Client) (request : Request) (queue : List Delivery)
    (arrived : w.inbox w.vars.netlinkSock ++
      (stream (sendtoCount w.calls) request).map Datagram.delivery = queue) :
    ((w.afterCall (.malloc true)).afterSendto (streamEnv order tid stream) w.vars.netlinkSock
      w.vars.destAddr request).inbox w.vars.netlinkSock = queue := by
  have count : sendtoCount (w.calls ++ [.malloc true]) = sendtoCount w.calls := by
    rw [sendtoCount_append]
    rfl
  simpa [count] using arrived

theorem tlshubFetchKey_stream (tuple : FlowTuple) (info : TlsKeyInfo) (w : Client)
    (isOpen : 0 ≤ w.vars.netlinkSock) (first : Datagram) (rest : List Datagram)
    (arrived : w.inbox w.vars.netlinkSock ++ (stream (sendtoCount w.calls)
      (flowRequest (streamEnv order tid stream) tlsServiceFetch tuple)).map Datagram.delivery =
        (first :: rest).map Datagram.delivery) :
    tlshubFetchKey (streamEnv order tid stream) (some tuple) (some info) w =
      (.returned (fetchResult order first.delivery info),
        afterExchange (w.afterCall (.malloc true)) w.vars.netlinkSock
          (flowRequest (streamEnv order tid stream) tlsServiceFetch tuple) [] rest first) := by
  rw [tlshubFetchKey_exchange _ _ _ _ _ isOpen rfl rfl, streamEnv_peer,
    if_neg sent_ret_ne_zero]
  rw [inbox_afterMalloc order tid stream w _ _ arrived, List.map_cons]
  simp only [streamEnv_order, World.afterReads, afterExchange]
  simp [storeSource, storeDestAddr, Datagram.delivery, Delivery.source?]

theorem tlshubFetchKey_unanswered (tuple : FlowTuple) (info : TlsKeyInfo) (w : Client)
    (isOpen : 0 ≤ w.vars.netlinkSock)
    (arrived : w.inbox w.vars.netlinkSock ++ (stream (sendtoCount w.calls)
      (flowRequest (streamEnv order tid stream) tlsServiceFetch tuple)).map Datagram.delivery =
        []) :
    ∃ waiting : Client,
      tlshubFetchKey (streamEnv order tid stream) (some tuple) (some info) w =
        (.blocked, waiting) ∧
      waiting.calls = w.calls ++ [.malloc true, .sendto w.vars.netlinkSock w.vars.destAddr
        (flowRequest (streamEnv order tid stream) tlsServiceFetch tuple)
        (.sent requestLen.toNat)] := by
  rw [tlshubFetchKey_exchange _ _ _ _ _ isOpen rfl rfl, streamEnv_peer,
    if_neg sent_ret_ne_zero, inbox_afterMalloc order tid stream w _ _ arrived]
  exact ⟨_, rfl, by simp⟩

theorem sendtoCount_clientInitReady (w : Client) :
    sendtoCount (clientInitReady (streamEnv order tid stream) w).calls =
      sendtoCount w.calls := by
  simp [clientInitReady, clientInitSetup, sendtoCount]

theorem sendtoCount_clientHandshakeReady (w : Client) :
    sendtoCount (clientHandshakeReady w).calls = sendtoCount w.calls := by
  simp only [clientHandshakeReady, clientHandshakeSetup]
  split <;> simp [sendtoCount]

theorem tlshubHandshake_reads (tuple : FlowTuple)
    (w : Client) (isOpen : 0 ≤ w.vars.netlinkSock) (before after : List Datagram)
    (verdict : Datagram)
    (arrived : w.inbox w.vars.netlinkSock ++ (stream (sendtoCount w.calls)
      (flowRequest (streamEnv order tid stream) tlsServiceStart tuple)).map Datagram.delivery =
        (before ++ verdict :: after).map Datagram.delivery)
    (noVerdict : ∀ d ∈ before, isVerdict d.msgType = false)
    (decides : isVerdict verdict.msgType = true) :
    tlshubHandshake (streamEnv order tid stream) (some tuple) w =
      (.returned (verdictResult verdict.msgType),
        afterExchange (clientHandshakeReady w) w.vars.netlinkSock
          (flowRequest (streamEnv order tid stream) tlsServiceStart tuple) before after
          verdict) := by
  rw [tlshubHandshake_stream order tid stream tuple w isOpen]
  apply waitLoop_afterExchange order tid stream (clientHandshakeReady w) w.vars.netlinkSock
  · rw [sendtoCount_clientHandshakeReady]
    exact arrived
  · exact clientHandshakeSwitch_passes before noVerdict
  · exact clientHandshakeSwitch_halts verdict decides

end Stream

theorem sendtoCount_afterExchange (ready : Client) (sock : Int) (request : Request)
    (read rest : List Datagram) (stop : Datagram) :
    sendtoCount (afterExchange ready sock request read rest stop).calls =
      sendtoCount ready.calls + 1 := by
  simp [afterExchange, sendtoCount]

theorem socketCount_afterExchange (ready : Client) (sock : Int) (request : Request)
    (read rest : List Datagram) (stop : Datagram) :
    socketCount (afterExchange ready sock request read rest stop).calls =
      socketCount ready.calls := by
  simp [afterExchange, socketCount, Function.comp_def]

end TlshubEbpf.Capture
