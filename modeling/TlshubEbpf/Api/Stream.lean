import TlshubEbpf.Netlink.Stream
import TlshubEbpf.Api.Tlshub

/-! # The API's calls on streams of messages

What the calls return and leave behind once their requests are answered by the
messages `answer`.  Nothing is assumed of the calls of any other moment. -/

set_option autoImplicit false

namespace TlshubEbpf.Api

open TlshubEbpf.Lib TlshubEbpf.Netlink

theorem foldl_storeDaddr (read : List Datagram) (stop : Datagram) (vars : ApiVars) :
    ((read ++ [stop]).map Datagram.delivery).foldl (storeSource storeDaddr) vars =
      ⟨{ vars.gNetlinkCtx with daddr := stop.source }⟩ := by
  induction read generalizing vars with
  | nil => rfl
  | cons d read ih =>
      rw [List.cons_append, List.map_cons, List.foldl_cons, ih]
      rfl

theorem foldl_kept {S : Type} (read : List Delivery) (vars : S) :
    read.foldl (storeSource fun _ kept => kept) vars = vars := by
  induction read with
  | nil => rfl
  | cons d read ih =>
      rw [List.foldl_cons]
      cases d with
      | failed => exact ih
      | message source bytes => exact ih

section Stream
variable (env : Env) (answer : List Datagram)

/-- The state after a START request and the reads `read`, up to `stop`. -/
def afterHandshake (w : Thread) (request : Request) (read rest : List Datagram)
    (stop : Datagram) : Thread :=
  { calls := (handshakeReady env w).calls ++ .sendto (handshakeCtx env w).skFd
      (handshakeCtx env w).daddr request (.sent requestLen.toNat) ::
        (read ++ [stop]).map fun d => .recvfrom (handshakeCtx env w).skFd d.delivery
    inbox := Function.update (handshakeReady env w).inbox (handshakeCtx env w).skFd
      (rest.map Datagram.delivery)
    vars := ⟨{ handshakeCtx env w with daddr := stop.source }⟩ }

theorem tlshubHandshake_answered (stack : MyMsg) (pods : PodTuple) (w : Thread)
    (read rest : List Datagram) (stop : Datagram) (verdict : Int)
    (isOpen : -1 ≤ w.vars.gNetlinkCtx.skFd) (socketOk : HandshakeSocketOk env w)
    (allocated : w.vars.gNetlinkCtx.nlh = none →
      env.mallocOk (w.calls ++ handshakeSocket env w) = true)
    (answered : env.peer (handshakeReady env w).calls (handshakeCtx env w).skFd
      (handshakeCtx env w).daddr (handshakeRequest env w stack pods) =
        (.sent requestLen.toNat, answer.map Datagram.delivery))
    (arrived : (handshakeReady env w).inbox (handshakeCtx env w).skFd ++
      answer.map Datagram.delivery = (read ++ stop :: rest).map Datagram.delivery)
    (passes : ∀ d ∈ read, apiHandshakeSwitch d.msgType = none)
    (halts : apiHandshakeSwitch stop.msgType = some verdict) :
    tlshubHandshake env stack pods w =
      (.returned verdict,
        afterHandshake env w (handshakeRequest env w stack pods) read rest stop) := by
  rw [tlshubHandshake_exchange env stack pods w isOpen socketOk allocated,
    afterSendto_answered env _ _ _ _ _ _ answered, answered, if_neg sent_ret_ne_zero,
    waitLoop_stream _ storeDaddr (pure (-2)) apiHandshakeSwitch pure _ read rest stop verdict
      (by simpa using arrived) passes halts]
  simp only [Program.pure_apply, World.afterReads, foldl_storeDaddr]
  simp [afterHandshake, handshakeReady]

def afterServiceInit (w : Thread) (request : Request) (read : List Datagram)
    (stop : Datagram) : Thread :=
  { calls := (serviceInitReady env w).calls ++
      (.sendto (freshFd w.calls) kernelAddr request (.sent requestLen.toNat) ::
        ((read ++ [stop]).map fun d => .recvfrom (freshFd w.calls) d.delivery) ++
        [.close (freshFd w.calls)])
    inbox := Function.update w.inbox (freshFd w.calls) []
    vars := w.vars }

theorem tlshubServiceInit_answered (stack : MyMsg) (w : Thread) (read rest : List Datagram)
    (stop : Datagram) (verdict : Int)
    (created : env.socketOk w.calls = true)
    (granted : env.bindOk w.opened.calls (freshFd w.calls) env.tid = true)
    (allocated : env.mallocOk (boundSocket env w).calls = true)
    (answered : env.peer (serviceInitReady env w).calls (freshFd w.calls) kernelAddr
      (serviceInitRequest env stack) =
        (.sent requestLen.toNat, (read ++ stop :: rest).map Datagram.delivery))
    (passes : ∀ d ∈ read, serviceInitSwitch d.msgType = none)
    (halts : serviceInitSwitch stop.msgType = some verdict) :
    tlshubServiceInit env stack w =
      (.returned verdict, afterServiceInit env w (serviceInitRequest env stack) read stop) := by
  rw [tlshubServiceInit_exchange env stack w created granted allocated,
    afterSendto_answered env _ _ _ _ _ _ answered, answered, if_neg sent_ret_ne_zero,
    waitLoop_stream _ _ (pure (-2)) serviceInitSwitch _ _ read rest stop verdict
      (by simp [serviceInitReady, boundSocket]) passes halts]
  simp only [Program.bind_apply, close, Program.pure_apply, World.closed, World.setQueue,
    World.afterCall, World.afterReads, foldl_kept]
  simp [afterServiceInit, serviceInitReady, boundSocket]

def afterFetch (w : Thread) (request : Request) (first : Datagram) : Thread :=
  { calls := (boundSocket env w).calls ++ [.malloc true,
      .sendto (freshFd w.calls) kernelAddr request (.sent requestLen.toNat),
      .recvfrom (freshFd w.calls) first.delivery, .close (freshFd w.calls)]
    inbox := Function.update w.inbox (freshFd w.calls) []
    vars := w.vars }

theorem tlshubFetchKey_answered (stack : MyMsg) (pods : PodTuple) (w : Thread)
    (first : Datagram) (rest : List Datagram)
    (created : env.socketOk w.calls = true)
    (granted : env.bindOk w.opened.calls (freshFd w.calls) env.tid = true)
    (allocated : env.mallocOk (boundSocket env w).calls = true)
    (answered : env.peer ((boundSocket env w).calls ++ [.malloc true]) (freshFd w.calls)
      kernelAddr (fetchRequest env stack pods) =
        (.sent requestLen.toNat, (first :: rest).map Datagram.delivery)) :
    tlshubFetchKey env stack pods w =
      (.returned (KeyBack.ofMsg env.order first.delivery.uInfo.msg),
        afterFetch env w (fetchRequest env stack pods) first) := by
  have ready := afterSendto_answered env ((boundSocket env w).afterCall (.malloc true))
    (freshFd w.calls) kernelAddr (fetchRequest env stack pods) _ _ answered
  rw [tlshubFetchKey_exchange env stack pods w _ _ created granted allocated rfl ready.symm,
    afterCall_calls, answered, if_neg sent_ret_ne_zero]
  simp only [Function.update_self, boundSocket, opened_inbox, List.nil_append, List.map_cons,
    if_neg first.delivery_ret, World.closed, World.setQueue, World.afterCall, World.afterReads,
    foldl_kept]
  simp [afterFetch, boundSocket]

theorem handshakeReady_inbox (w : Thread) :
    (handshakeReady env w).inbox (handshakeCtx env w).skFd =
      if w.vars.gNetlinkCtx.skFd = -1 then [] else w.inbox w.vars.gNetlinkCtx.skFd := by
  by_cases unset : w.vars.gNetlinkCtx.skFd = -1
  · simp [handshakeReady, handshakeCtx, unset]
  · simp [handshakeReady, handshakeCtx, unset]

theorem sendtoCount_handshakeReady (w : Thread) :
    sendtoCount (handshakeReady env w).calls = sendtoCount w.calls := by
  simp only [handshakeReady, handshakeSetup, handshakeSocket]
  split <;> split <;> simp [sendtoCount]

theorem sendtoCount_afterHandshake (w : Thread) (request : Request)
    (read rest : List Datagram) (stop : Datagram) :
    sendtoCount (afterHandshake env w request read rest stop).calls =
      sendtoCount w.calls + 1 := by
  rw [← sendtoCount_handshakeReady env w]
  simp [afterHandshake, sendtoCount]

end Stream
end TlshubEbpf.Api
