import TlshubEbpf.Capture.TlshubClient
import TlshubEbpf.Netlink.Requests

/-! # The requests of the capture program's client

Each of the three functions sends its own request, and nothing else. -/

set_option autoImplicit false

namespace TlshubEbpf.Capture

open TlshubEbpf.Lib TlshubEbpf.Netlink Program

section Sending
variable (env : Env)

theorem setNetlinkSock_sendsNothing (fd : Int) : SendsNothing (setNetlinkSock fd) :=
  keeps_modify sent _ fun _ => rfl

theorem closeNetlinkSock_sendsNothing : SendsNothing closeNetlinkSock := by
  apply keeps_bind sent _ _ (keeps_get sent _)
  intro sock
  apply keeps_bind sent _ _ (sendsNothing_close sock)
  intro _
  exact keeps_bind sent _ _ (setNetlinkSock_sendsNothing (-1)) fun _ => keeps_pure sent (-1)

theorem tlshubClientInit_sendsOnly : SendsOnly (initRequest env) (tlshubClientInit env) := by
  have closes : SendsOnly (initRequest env) closeNetlinkSock :=
    sendsOnly_of_nothing _ _ closeNetlinkSock_sendsNothing
  apply sendsOnly_after _ _ _ (sendsNothing_socket env)
  intro sock
  apply sendsOnly_after _ _ _ (setNetlinkSock_sendsNothing sock)
  intro _
  apply appends_ite sent _ _ _ _ (sendsOnly_pure _ _)
  apply sendsOnly_after _ _ _ (sendsNothing_bind env sock env.tid)
  intro bound
  apply appends_ite sent _ _ _ _ closes
  refine sendsOnly_after _ _ _ (keeps_modify sent _ fun _ => rfl) fun _ => ?_
  apply sendsOnly_after _ _ _ (sendsNothing_malloc env)
  intro nlh
  apply appends_ite sent _ _ _ _ closes
  apply sendsOnly_after _ _ _ (keeps_get sent _)
  intro dest
  apply appends_bind sent _ _ _ (sendsOnly_sendto env sock dest _)
  intro ret
  apply appends_ite sent _ _ _ _ closes
  exact sendsOnly_of_nothing _ _ (sendsNothing_waitLoop sock storeDestAddr closeNetlinkSock
    clientInitSwitch pure closeNetlinkSock_sendsNothing fun verdict => keeps_pure sent verdict)

theorem tlshubFetchKey_sendsOnly (tuple : FlowTuple) (keyInfo : Option TlsKeyInfo) :
    SendsOnly (flowRequest env tlsServiceFetch tuple)
      (tlshubFetchKey env (some tuple) keyInfo) := by
  apply sendsOnly_after _ _ _ (keeps_get sent _)
  intro sock
  cases keyInfo with
  | none => exact sendsOnly_pure _ _
  | some info =>
      apply appends_ite sent _ _ _ _ (sendsOnly_pure _ _)
      apply sendsOnly_after _ _ _ (sendsNothing_malloc env)
      intro nlh
      apply appends_ite sent _ _ _ _ (sendsOnly_pure _ _)
      apply sendsOnly_after _ _ _ (keeps_get sent _)
      intro dest
      apply appends_bind sent _ _ _ (sendsOnly_sendto env sock dest _)
      intro ret
      apply appends_ite sent _ _ _ _ (sendsOnly_pure _ _)
      apply sendsOnly_after _ _ _ (sendsNothing_recvfrom sock storeDestAddr)
      intro received
      apply appends_ite sent _ _ _ _ (sendsOnly_pure _ _)
      exact appends_ite sent _ _ _ _ (sendsOnly_pure _ _) (sendsOnly_pure _ _)

theorem handshakeBuffer_sendsNothing : SendsNothing (handshakeBuffer env) := by
  apply keeps_bind sent _ _ (keeps_get sent _)
  intro nlh
  apply keeps_ite sent _ _ _ (keeps_pure sent true)
  apply keeps_bind sent _ _ (sendsNothing_malloc env)
  intro nlh
  exact keeps_bind sent _ _ (keeps_modify sent _ fun _ => rfl) fun _ => keeps_pure sent nlh

theorem tlshubHandshake_sendsOnly (tuple : FlowTuple) :
    SendsOnly (flowRequest env tlsServiceStart tuple) (tlshubHandshake env (some tuple)) := by
  apply sendsOnly_after _ _ _ (keeps_get sent _)
  intro sock
  apply appends_ite sent _ _ _ _ (sendsOnly_pure _ _)
  apply sendsOnly_after _ _ _ (handshakeBuffer_sendsNothing env)
  intro nlh
  apply appends_ite sent _ _ _ _ (sendsOnly_pure _ _)
  apply sendsOnly_after _ _ _ (keeps_get sent _)
  intro dest
  apply appends_bind sent _ _ _ (sendsOnly_sendto env sock dest _)
  intro ret
  apply appends_ite sent _ _ _ _ (sendsOnly_pure _ _)
  exact sendsOnly_of_nothing _ _ (sendsNothing_waitLoop sock storeDestAddr (pure (-1))
    clientHandshakeSwitch pure (keeps_pure sent (-1)) fun verdict => keeps_pure sent verdict)

end Sending
end TlshubEbpf.Capture
