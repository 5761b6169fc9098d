import TlshubEbpf.Api.Requests
import TlshubEbpf.Capture.Requests
import TlshubEbpf.Netlink.RequestBytes

/-! # What memory that was never written to shows of itself in a request

The capture client clears the whole block and the whole `my_msg` before it
assigns to them.  The API clears the header only, and its `my_msg` is a stack
variable: whatever it does not assign goes to the kernel as it was. -/

set_option autoImplicit false

namespace TlshubEbpf.Clients

open TlshubEbpf.Lib TlshubEbpf.Netlink TlshubEbpf.Capture TlshubEbpf.Api

/-- What the stack variable and the block from `malloc` hold before the call. -/
structure PriorMemory where
  stack : MyMsg
  block : List UInt8
  wholeBlock : block.length = nlmsgSpace

/-- A call of one of the six operations.  `earlier` are the messages of the thread's
calls of the API's `tlshub_handshake` before this one: they used the same block. -/
inductive RequestCall where
  | serviceInit
  | apiHandshake (earlier : List MyMsg) (pods : PodTuple)
  | apiFetchKey (pods : PodTuple)
  | clientInit
  | clientHandshake (tuple : FlowTuple)
  | clientFetchKey (tuple : FlowTuple)

section Building
variable (env : Env) (prior : PriorMemory)

/-- `malloc_netlink_pkthdr`, and `netlink_ctx_alloc_msg` up to the process id. -/
def apiHdr : List UInt8 := prepareHdr env.order 16 prior.block

def clientHdr : List UInt8 :=
  storePid env.order env.tid (prepareHdr env.order nlmsgSpace prior.block)

def keptBlock (earlier : List MyMsg) : List UInt8 :=
  earlier.foldl (fun block msg => storeMsg env.order msg (storePid env.order env.tid block))
    (apiHdr env prior)

def RequestCall.block : RequestCall → List UInt8
  | .serviceInit =>
      storeMsg env.order (serviceInitMsg prior.stack)
        (storePid env.order env.tid (apiHdr env prior))
  | .apiHandshake earlier pods =>
      storeMsg env.order (handshakeMsg env prior.stack pods)
        (storePid env.order env.tid (keptBlock env prior earlier))
  | .apiFetchKey pods =>
      storeMsg env.order (fetchMsg env prior.stack pods)
        (storePid env.order env.tid (apiHdr env prior))
  | .clientInit => storeMsg env.order (initRequest env).body (clientHdr env prior)
  | .clientHandshake tuple =>
      storeMsg env.order (flowRequest env tlsServiceStart tuple).body (clientHdr env prior)
  | .clientFetchKey tuple =>
      storeMsg env.order (flowRequest env tlsServiceFetch tuple).body (clientHdr env prior)

def RequestCall.bytes (call : RequestCall) : List UInt8 :=
  sentBytes env.order (call.block env prior)

def RequestCall.request : RequestCall → Request
  | .serviceInit => serviceInitRequest env prior.stack
  | .apiHandshake _ pods => startRequest env prior.stack pods
  | .apiFetchKey pods => fetchRequest env prior.stack pods
  | .clientInit => initRequest env
  | .clientHandshake tuple => flowRequest env tlsServiceStart tuple
  | .clientFetchKey tuple => flowRequest env tlsServiceFetch tuple

theorem apiHdr_framed : Framed env.order 0 (apiHdr env prior) := by
  apply prepareHdr_framed
  · exact Nat.le_refl 16
  · rw [prior.wholeBlock]
    decide
  · rw [prior.wholeBlock]
    decide

theorem clientHdr_framed : Framed env.order env.tid (clientHdr env prior) := by
  apply storePid_framed env.order 0
  apply prepareHdr_framed
  · decide
  · exact Nat.le_of_eq prior.wholeBlock.symm
  · rw [prior.wholeBlock]
    decide

theorem foldl_storeMsg_framed (earlier : List MyMsg) (pid : UInt32) (block : List UInt8)
    (framed : Framed env.order pid block) :
    ∃ pid, Framed env.order pid (earlier.foldl
      (fun block msg => storeMsg env.order msg (storePid env.order env.tid block)) block) := by
  induction earlier generalizing pid block with
  | nil => exact ⟨pid, framed⟩
  | cons msg earlier ih =>
      have named := storePid_framed env.order pid env.tid block framed
      exact ih env.tid _ (storeMsg_framed env.order env.tid msg _ named).1

theorem keptBlock_framed (earlier : List MyMsg) :
    ∃ pid, Framed env.order pid (keptBlock env prior earlier) :=
  foldl_storeMsg_framed env earlier 0 _ (apiHdr_framed env prior)

theorem requestCall_bytes (call : RequestCall) :
    call.bytes env prior = (call.request env prior).bytes env.order := by
  have built : ∀ (pid : UInt32) (block : List UInt8) (msg : MyMsg),
      Framed env.order pid block →
        sentBytes env.order (storeMsg env.order msg (storePid env.order env.tid block)) =
          Request.bytes env.order ⟨⟨requestLen, 0, 0, 0, env.tid⟩, msg⟩ := by
    intro pid block msg framed
    exact (storeMsg_framed env.order env.tid msg _
      (storePid_framed env.order pid env.tid block framed)).2
  cases call with
  | serviceInit => exact built 0 _ _ (apiHdr_framed env prior)
  | apiHandshake earlier pods =>
      obtain ⟨pid, framed⟩ := keptBlock_framed env prior earlier
      exact built pid _ _ framed
  | apiFetchKey pods => exact built 0 _ _ (apiHdr_framed env prior)
  | clientInit => exact (storeMsg_framed env.order env.tid _ _ (clientHdr_framed env prior)).2
  | clientHandshake tuple =>
      exact (storeMsg_framed env.order env.tid _ _ (clientHdr_framed env prior)).2
  | clientFetchKey tuple =>
      exact (storeMsg_framed env.order env.tid _ _ (clientHdr_framed env prior)).2

end Building

def RequestCall.Sends (env : Env) (prior : PriorMemory) (call : RequestCall) : Prop :=
  match call with
  | .serviceInit => SendsOnly (call.request env prior) (tlshubServiceInit env prior.stack)
  | .apiHandshake _ pods => ∀ w : Thread, PreparedHdr w.vars.gNetlinkCtx.nlh →
      ∃ added, sent (Api.tlshubHandshake env prior.stack pods w).2 = sent w ++ added ∧
        ∀ request ∈ added, request = call.request env prior
  | .apiFetchKey pods =>
      SendsOnly (call.request env prior) (Api.tlshubFetchKey env prior.stack pods)
  | .clientInit => SendsOnly (call.request env prior) (tlshubClientInit env)
  | .clientHandshake tuple =>
      SendsOnly (call.request env prior) (Capture.tlshubHandshake env (some tuple))
  | .clientFetchKey tuple => ∀ keyInfo,
      SendsOnly (call.request env prior) (Capture.tlshubFetchKey env (some tuple) keyInfo)

theorem requestCall_sends (env : Env) (prior : PriorMemory) (call : RequestCall) :
    call.Sends env prior := by
  cases call with
  | serviceInit => exact Api.tlshubServiceInit_sendsOnly env prior.stack
  | apiHandshake earlier pods =>
      exact fun w kept => Api.tlshubHandshake_sends env prior.stack pods w kept
  | apiFetchKey pods => exact Api.tlshubFetchKey_sendsOnly env prior.stack pods
  | clientInit => exact Capture.tlshubClientInit_sendsOnly env
  | clientHandshake tuple => exact Capture.tlshubHandshake_sendsOnly env tuple
  | clientFetchKey tuple =>
      exact fun keyInfo => Capture.tlshubFetchKey_sendsOnly env tuple keyInfo

/-! ## Two runs -/

def RequestCall.LeavesAgree (first second : MyMsg) : RequestCall → Prop
  | .serviceInit =>
      first.clientPodIp = second.clientPodIp ∧ first.serverPodIp = second.serverPodIp ∧
        first.clientPodPort = second.clientPodPort ∧
          first.serverPodPort = second.serverPodPort ∧ first.padding = second.padding
  | .apiHandshake _ _ => first.padding = second.padding
  | .apiFetchKey _ => first.server = second.server ∧ first.padding = second.padding
  | .clientInit => True
  | .clientHandshake _ => True
  | .clientFetchKey _ => True

theorem requestCall_bytes_eq_iff (env : Env) (first second : PriorMemory) (call : RequestCall) :
    call.bytes env first = call.bytes env second ↔
      call.LeavesAgree first.stack second.stack := by
  rw [requestCall_bytes, requestCall_bytes]
  cases call with
  | serviceInit =>
      refine (Request.bytes_inj _ _ _ _).trans ?_
      simp [serviceInitMsg, RequestCall.LeavesAgree]
  | apiHandshake earlier pods =>
      refine (Request.bytes_inj _ _ _ _).trans ?_
      simp [handshakeMsg, RequestCall.LeavesAgree]
  | apiFetchKey pods =>
      refine (Request.bytes_inj _ _ _ _).trans ?_
      simp [fetchMsg, RequestCall.LeavesAgree]
  | clientInit => exact iff_of_true rfl trivial
  | clientHandshake tuple => exact iff_of_true rfl trivial
  | clientFetchKey tuple => exact iff_of_true rfl trivial

def flowOf (pods : PodTuple) : FlowTuple :=
  ⟨pods.clientPodIp, pods.serverPodIp, pods.clientPodPort, pods.serverPodPort⟩

theorem handshakes_bytes_eq_iff (env : Env) (api client : PriorMemory) (earlier : List MyMsg)
    (pods : PodTuple) :
    (RequestCall.apiHandshake earlier pods).bytes env api =
        (RequestCall.clientHandshake (flowOf pods)).bytes env client ↔ api.stack.padding = 0 := by
  rw [requestCall_bytes, requestCall_bytes]
  refine (Request.bytes_inj _ _ _ _).trans ?_
  simp [handshakeMsg, flowOf, MyMsg.zeroed]

theorem fetches_bytes_eq_iff (env : Env) (api client : PriorMemory) (pods : PodTuple) :
    (RequestCall.apiFetchKey pods).bytes env api =
        (RequestCall.clientFetchKey (flowOf pods)).bytes env client ↔
      api.stack.server = 0 ∧ api.stack.padding = 0 := by
  rw [requestCall_bytes, requestCall_bytes]
  refine (Request.bytes_inj _ _ _ _).trans ?_
  simp [fetchMsg, flowOf, MyMsg.zeroed]

/-- What a call sends are the bytes that it builds.  They are the same in two runs if and
only if the memory it does not assign was the same, and the clients agree if and only if
that memory was zero. -/
theorem requestBytes_same_iff (env : Env) (first second : PriorMemory) :
    (∀ (call : RequestCall) (prior : PriorMemory), call.Sends env prior ∧
      call.bytes env prior = (call.request env prior).bytes env.order) ∧
    (∀ call : RequestCall, call.bytes env first = call.bytes env second ↔
      call.LeavesAgree first.stack second.stack) ∧
    (∀ earlier pods, (RequestCall.apiHandshake earlier pods).bytes env first =
      (RequestCall.clientHandshake (flowOf pods)).bytes env second ↔
        first.stack.padding = 0) ∧
    ∀ pods, (RequestCall.apiFetchKey pods).bytes env first =
      (RequestCall.clientFetchKey (flowOf pods)).bytes env second ↔
        first.stack.server = 0 ∧ first.stack.padding = 0 :=
  ⟨fun call prior => ⟨requestCall_sends env prior call, requestCall_bytes env prior call⟩,
    requestCall_bytes_eq_iff env first second, handshakes_bytes_eq_iff env first second,
    fetches_bytes_eq_iff env first second⟩

def stackWith (server : UInt8) : PriorMemory where
  stack := { MyMsg.zeroed with server := server }
  block := List.replicate nlmsgSpace 0
  wholeBlock := List.length_replicate

theorem fetchKey_sends_stack_byte :
    let env := streamEnv .little 4242 fun _ _ => []
    let pods : PodTuple := ⟨0x0100000a, 0x0200000a, 40000, 443⟩
    (RequestCall.apiFetchKey pods).bytes env (stackWith 0) ≠
        (RequestCall.apiFetchKey pods).bytes env (stackWith 1) ∧
      (RequestCall.apiFetchKey pods).bytes env (stackWith 1) ≠
        (RequestCall.clientFetchKey (flowOf pods)).bytes env (stackWith 1) := by
  decide

end TlshubEbpf.Clients
