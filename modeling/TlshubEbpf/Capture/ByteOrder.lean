import TlshubEbpf.Capture.EventReport
import TlshubEbpf.Capture.KeyProvider
import TlshubEbpf.Capture.Requests
import TlshubEbpf.Netlink.RequestBytes

/-! # The two endpoints of a socket on their way to the kernel

The probe takes the addresses and the local port as they are and swaps the
remote port; the client takes the addresses as they are and swaps both ports;
the kernel swaps all four. -/

set_option autoImplicit false

namespace TlshubEbpf.Capture

open Lib Netlink Bpf Program

structure Endpoints where
  saddr : UInt32
  daddr : UInt32
  sport : UInt16
  dport : UInt16
  deriving DecidableEq, Repr

/-- What the fields of the socket say: all but the local port are in network order. -/
def endpointsOf (order : ByteOrder) (sk : SockCommon) : Endpoints :=
  { saddr := ntohl order sk.skcRcvSaddr
    daddr := ntohl order sk.skcDaddr
    sport := sk.skcNum
    dport := ntohs order sk.skcDport }

def builtEvent (order : ByteOrder) (sk : SockCommon) (helpers : Helpers) : TcpConnectEvent :=
  eventOf (sockInfoOf order sk helpers) helpers

def addressPart (requestBytes : List UInt8) : List UInt8 := (requestBytes.drop 16).take 12

/-- What the kernel makes of the address part, as the API's document has it. -/
def kernelReads (order : ByteOrder) (address : List UInt8) : Endpoints :=
  { saddr := ntohl order (word32 order (address.take 4))
    daddr := ntohl order (word32 order ((address.drop 4).take 4))
    sport := ntohs order (word16 order ((address.drop 8).take 2))
    dport := ntohs order (word16 order ((address.drop 10).take 2)) }

theorem addressPart_bytes (order : ByteOrder) (request : Request) :
    addressPart (request.bytes order) = request.body.addressBytes order := by
  rw [addressPart, Request.bytes, List.drop_left' (NlmsgHdr.length_bytes order request.hdr),
    MyMsg.bytes, List.append_assoc, List.take_left' (MyMsg.length_addressBytes order request.body)]

theorem kernelReads_addressBytes (order : ByteOrder) (msg : MyMsg) :
    kernelReads order (msg.addressBytes order) =
      { saddr := ntohl order msg.clientPodIp
        daddr := ntohl order msg.serverPodIp
        sport := ntohs order msg.clientPodPort
        dport := ntohs order msg.serverPodPort } := by
  have client : (msg.addressBytes order).take 4 = bytesOf32 order msg.clientPodIp := by
    simp only [MyMsg.addressBytes, List.append_assoc]
    exact List.take_left' (length_bytesOf32 order _)
  have server : ((msg.addressBytes order).drop 4).take 4 = bytesOf32 order msg.serverPodIp := by
    simp only [MyMsg.addressBytes, List.append_assoc]
    rw [List.drop_left' (length_bytesOf32 order _), List.take_left' (length_bytesOf32 order _)]
  have clientPort : ((msg.addressBytes order).drop 8).take 2 =
      bytesOf16 order msg.clientPodPort := by
    rw [MyMsg.addressBytes, List.append_assoc, List.drop_left' (by simp),
      List.take_left' (length_bytesOf16 order _)]
  have serverPort : ((msg.addressBytes order).drop 10).take 2 =
      bytesOf16 order msg.serverPodPort := by
    rw [MyMsg.addressBytes, List.drop_left' (by simp)]
    exact List.take_of_length_le (Nat.le_of_eq (length_bytesOf16 order _))
  rw [kernelReads, client, server, clientPort, serverPort, word32_bytesOf32, word32_bytesOf32,
    word16_bytesOf16, word16_bytesOf16]

section Flow
variable (env : Env)

theorem addressPart_flowRequest_eq_iff (opcode opcode' : UInt8) (tuple tuple' : FlowTuple) :
    addressPart ((flowRequest env opcode tuple).bytes env.order) =
        addressPart ((flowRequest env opcode' tuple').bytes env.order) ↔ tuple = tuple' := by
  rw [addressPart_bytes, addressPart_bytes, MyMsg.addressBytes_eq_iff]
  simp only [flowRequest, (htons_injective env.order).eq_iff]
  constructor
  · rintro ⟨saddr, daddr, sport, dport⟩
    cases tuple
    cases tuple'
    cases saddr
    cases daddr
    cases sport
    cases dport
    rfl
  · rintro rfl
    exact ⟨rfl, rfl, rfl, rfl⟩

theorem kernelReads_flowRequest (opcode : UInt8) (sk : SockCommon) (helpers : Helpers) :
    kernelReads env.order (addressPart ((flowRequest env opcode
        (flowTupleOf (builtEvent env.order sk helpers))).bytes env.order)) =
      endpointsOf env.order sk := by
  rw [addressPart_bytes, kernelReads_addressBytes]
  simp only [flowRequest, flowTupleOf, builtEvent, eventOf, sockInfoOf, ntohs, endpointsOf,
    htons_htons]

end Flow

section Handling
variable (env : Env)
  (opensslGetKey : FlowTuple → TlsKeyInfo → Program Client (Int × Option TlsKeyInfo))

/-- `key_provider_get_key` as `handle_tcp_event` calls it in the mode `MODE_TLSHUB`, with
the address of an uninitialised `key_info`. -/
def tlshubGetKey (info : TlsKeyInfo) (tuple : FlowTuple) : Program Client Int := do
  let (ret, _) ← keyProviderGetKey env opensslGetKey .tlshub (some tuple) (some info)
  return ret

def ForTuple (tuple : FlowTuple) (request : Request) : Prop :=
  request = flowRequest env tlsServiceFetch tuple ∨
    request = flowRequest env tlsServiceStart tuple

theorem keyProviderGetKey_sends (tuple : FlowTuple) (info : TlsKeyInfo) :
    Appends sent (ForTuple env tuple)
      (keyProviderGetKey env opensslGetKey .tlshub (some tuple) (some info)) := by
  have fetches : ∀ keyInfo, Appends sent (ForTuple env tuple)
      (tlshubFetchKey env (some tuple) keyInfo) := fun keyInfo =>
    appends_mono sent _ _ (fun _ same => Or.inl same) _
      (tlshubFetchKey_sendsOnly env tuple keyInfo)
  have starts : Appends sent (ForTuple env tuple) (tlshubHandshake env (some tuple)) :=
    appends_mono sent _ _ (fun _ same => Or.inr same) _ (tlshubHandshake_sendsOnly env tuple)
  have returns : ∀ result : Int × Option TlsKeyInfo,
      Appends sent (ForTuple env tuple) (pure result : Program Client _) :=
    fun result => appends_of_keeps sent _ _ (keeps_pure sent result)
  apply appends_bind sent _ _ _ (fetches _)
  rintro ⟨ret, keyInfo⟩
  refine appends_ite sent _ _ _ _ ?_ (returns _)
  apply appends_bind sent _ _ _ starts
  intro ret
  refine appends_ite sent _ _ _ _ (returns _) ?_
  apply appends_bind sent _ _ _ (fetches _)
  rintro ⟨ret, keyInfo⟩
  exact appends_ite sent _ _ _ _ (returns _) (returns _)

theorem handleTcpEvent_sends (info : TlsKeyInfo) (clock : EventClock) (event : TcpConnectEvent)
    (ctx : PerfMetricsCtx) :
    Appends sent (ForTuple env (flowTupleOf event))
      (handleTcpEvent (tlshubGetKey env opensslGetKey info) clock event ctx) := by
  apply appends_bind sent
  · apply appends_bind sent _ _ _
      (keyProviderGetKey_sends env opensslGetKey (flowTupleOf event) info)
    rintro ⟨ret, keyInfo⟩
    exact appends_of_keeps sent _ _ (keeps_pure sent ret)
  · intro ret
    exact appends_of_keeps sent _ _ (keeps_pure sent _)

/-- The kernel reads the socket's own endpoints from every request that its event
leads to, the requests of one event carry the same address part, and the address
parts of different 4-tuples differ. -/
theorem byteOrder_end_to_end (sk : SockCommon) (helpers : Helpers) (info : TlsKeyInfo)
    (clock : EventClock) (ctx : PerfMetricsCtx) (w : Client) :
    (∀ opcode, kernelReads env.order (addressPart ((flowRequest env opcode
        (flowTupleOf (builtEvent env.order sk helpers))).bytes env.order)) =
      endpointsOf env.order sk) ∧
    (∃ added, sent (handleTcpEvent (tlshubGetKey env opensslGetKey info) clock
        (builtEvent env.order sk helpers) ctx w).2 = sent w ++ added ∧
      ∀ request ∈ added,
        kernelReads env.order (addressPart (request.bytes env.order)) =
          endpointsOf env.order sk ∧
        addressPart (request.bytes env.order) = addressPart ((flowRequest env tlsServiceFetch
          (flowTupleOf (builtEvent env.order sk helpers))).bytes env.order)) ∧
    ∀ (opcode opcode' : UInt8) (tuple tuple' : FlowTuple),
      addressPart ((flowRequest env opcode tuple).bytes env.order) =
        addressPart ((flowRequest env opcode' tuple').bytes env.order) ↔ tuple = tuple' := by
  refine ⟨fun opcode => kernelReads_flowRequest env opcode sk helpers, ?_,
    addressPart_flowRequest_eq_iff env⟩
  obtain ⟨added, same, each⟩ := handleTcpEvent_sends env opensslGetKey info clock
    (builtEvent env.order sk helpers) ctx w
  refine ⟨added, same, ?_⟩
  intro request member
  rcases each request member with rfl | rfl
  · exact ⟨kernelReads_flowRequest env tlsServiceFetch sk helpers, rfl⟩
  · exact ⟨kernelReads_flowRequest env tlsServiceStart sk helpers,
      (addressPart_flowRequest_eq_iff env _ _ _ _).mpr rfl⟩

end Handling
end TlshubEbpf.Capture
