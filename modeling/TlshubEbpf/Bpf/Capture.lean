import TlshubEbpf.Lib.BoundedMap
import TlshubEbpf.Netlink.Message

/-! # The probes of `capture.bpf.c`

Three probes share two hash maps keyed by the address of a `struct sock` and a
perf buffer read in user space.  None of them looks at the result of a helper
that updates a map or writes to the buffer. -/

set_option autoImplicit false

namespace TlshubEbpf.Bpf

open Lib Netlink

def maxEntries : Nat := 10240

def afInet : UInt16 := 2

structure SockInfo where
  saddr : UInt32
  daddr : UInt32
  sport : UInt16
  dport : UInt16
  pid : UInt32
  deriving DecidableEq, Repr

structure TcpConnectEvent where
  saddr : UInt32
  daddr : UInt32
  sport : UInt16
  dport : UInt16
  pid : UInt32
  timestamp : UInt64
  deriving DecidableEq, Repr

/-- The fields of `sk->__sk_common` that are read, the port fields as stored. -/
structure SockCommon where
  skcFamily : UInt16
  skcRcvSaddr : UInt32
  skcDaddr : UInt32
  skcNum : UInt16
  skcDport : UInt16
  deriving DecidableEq, Repr

structure Helpers where
  currentPidTgid : UInt64
  ktimeGetNs : UInt64
  bufferTakes : Bool
  deriving DecidableEq, Repr

structure BpfState where
  connTrackMap : BoundedMap UInt64 UInt32 maxEntries
  sockInfoMap : BoundedMap UInt64 SockInfo maxEntries
  /-- Events given to `bpf_perf_event_output`, the latest first, with its success. -/
  outputs : List (TcpConnectEvent × Bool)

def BpfState.loaded : BpfState :=
  ⟨BoundedMap.empty, BoundedMap.empty, []⟩

def BpfState.delivered (s : BpfState) : List TcpConnectEvent :=
  (s.outputs.filter (·.2)).map (·.1)

def BpfState.trackState (s : BpfState) (sockPtr : UInt64) : Option UInt32 :=
  s.connTrackMap.lookup sockPtr

def bpfGetCurrentPid (helpers : Helpers) : UInt32 :=
  (helpers.currentPidTgid >>> 32).toUInt32

def kprobeTcpV4Connect (sockPtr : UInt64) (s : BpfState) : BpfState :=
  let state : UInt32 := 1
  { s with connTrackMap := s.connTrackMap.updateOrKeep sockPtr state }

/-- Both branches only print: the probe does not have the socket. -/
def kretprobeTcpV4Connect (ret : Int) (s : BpfState) : BpfState :=
  if ret ≠ 0 then s else s

def sockInfoOf (order : ByteOrder) (sk : SockCommon) (helpers : Helpers) : SockInfo :=
  { saddr := sk.skcRcvSaddr
    daddr := sk.skcDaddr
    sport := sk.skcNum
    dport := htons order sk.skcDport
    pid := bpfGetCurrentPid helpers }

def eventOf (info : SockInfo) (helpers : Helpers) : TcpConnectEvent :=
  { saddr := info.saddr
    daddr := info.daddr
    sport := info.sport
    dport := info.dport
    pid := info.pid
    timestamp := helpers.ktimeGetNs }

def kprobeTcpSendmsg (order : ByteOrder) (sockPtr : UInt64) (sk : SockCommon)
    (helpers : Helpers) (s : BpfState) : BpfState :=
  if s.connTrackMap.lookup sockPtr ≠ some 1 then
    s
  else if sk.skcFamily ≠ afInet then
    s
  else
    let info := sockInfoOf order sk helpers
    let newState : UInt32 := 2
    -- also where the buffer does not take the event: nobody reads the result
    { connTrackMap := s.connTrackMap.updateOrKeep sockPtr newState
      sockInfoMap := s.sockInfoMap.updateOrKeep sockPtr info
      outputs := (eventOf info helpers, helpers.bufferTakes) :: s.outputs }

/-! ## What the probes leave in the maps and the buffer -/

section Probes
variable (order : ByteOrder) (sockPtr other : UInt64) (sk : SockCommon) (helpers : Helpers)
  (s : BpfState)

theorem kprobeTcpV4Connect_trackState (room : s.connTrackMap.HasRoom sockPtr) :
    (kprobeTcpV4Connect sockPtr s).trackState sockPtr = some 1 := by
  unfold kprobeTcpV4Connect BpfState.trackState
  exact BoundedMap.lookup_updateOrKeep_self _ _ _ room

theorem kprobeTcpV4Connect_full (full : ¬ s.connTrackMap.HasRoom sockPtr) :
    kprobeTcpV4Connect sockPtr s = s := by
  unfold kprobeTcpV4Connect
  dsimp only
  rw [BoundedMap.updateOrKeep_full _ _ _ full]

theorem trackState_of_full (full : ¬ s.connTrackMap.HasRoom sockPtr) :
    s.trackState sockPtr = none :=
  BoundedMap.lookup_of_not_hasRoom _ _ full

theorem kprobeTcpV4Connect_trackState_other (distinct : other ≠ sockPtr) :
    (kprobeTcpV4Connect sockPtr s).trackState other = s.trackState other := by
  unfold kprobeTcpV4Connect BpfState.trackState
  exact BoundedMap.lookup_updateOrKeep_other _ _ _ _ distinct

@[simp] theorem kretprobeTcpV4Connect_eq (ret : Int) : kretprobeTcpV4Connect ret s = s := by
  unfold kretprobeTcpV4Connect
  rw [ite_self]

def Sends (s : BpfState) (sockPtr : UInt64) (sk : SockCommon) : Prop :=
  s.trackState sockPtr = some 1 ∧ sk.skcFamily = afInet

instance : Decidable (Sends s sockPtr sk) :=
  inferInstanceAs (Decidable (_ ∧ _))

theorem kprobeTcpSendmsg_silent (silent : ¬ Sends s sockPtr sk) :
    kprobeTcpSendmsg order sockPtr sk helpers s = s := by
  unfold kprobeTcpSendmsg
  by_cases tracked : s.connTrackMap.lookup sockPtr = some 1
  · have family : sk.skcFamily ≠ afInet := fun family => silent ⟨tracked, family⟩
    rw [if_neg (not_not_intro tracked), if_pos family]
  · rw [if_pos tracked]

theorem kprobeTcpSendmsg_sends (sends : Sends s sockPtr sk) :
    kprobeTcpSendmsg order sockPtr sk helpers s =
      { connTrackMap := s.connTrackMap.updateOrKeep sockPtr 2
        sockInfoMap := s.sockInfoMap.updateOrKeep sockPtr (sockInfoOf order sk helpers)
        outputs := (eventOf (sockInfoOf order sk helpers) helpers, helpers.bufferTakes) ::
          s.outputs } := by
  have tracked : s.connTrackMap.lookup sockPtr = some 1 := sends.1
  have family : sk.skcFamily = afInet := sends.2
  unfold kprobeTcpSendmsg
  rw [if_neg (not_not_intro tracked), if_neg (not_not_intro family)]

theorem kprobeTcpSendmsg_trackState (sends : Sends s sockPtr sk) :
    (kprobeTcpSendmsg order sockPtr sk helpers s).trackState sockPtr = some 2 := by
  rw [kprobeTcpSendmsg_sends order sockPtr sk helpers s sends]
  exact BoundedMap.lookup_updateOrKeep_self _ _ _
    (BoundedMap.hasRoom_of_lookup _ _ _ sends.1)

theorem kprobeTcpSendmsg_trackState_other (distinct : other ≠ sockPtr) :
    (kprobeTcpSendmsg order sockPtr sk helpers s).trackState other = s.trackState other := by
  by_cases sends : Sends s sockPtr sk
  · rw [kprobeTcpSendmsg_sends order sockPtr sk helpers s sends]
    exact BoundedMap.lookup_updateOrKeep_other _ _ _ _ distinct
  · rw [kprobeTcpSendmsg_silent order sockPtr sk helpers s sends]

theorem kprobeTcpSendmsg_outputs_eq_iff :
    (kprobeTcpSendmsg order sockPtr sk helpers s).outputs = s.outputs ↔
      ¬ Sends s sockPtr sk := by
  constructor
  · intro same sends
    rw [kprobeTcpSendmsg_sends order sockPtr sk helpers s sends] at same
    exact List.cons_ne_self _ _ same
  · intro silent
    rw [kprobeTcpSendmsg_silent order sockPtr sk helpers s silent]

end Probes
end TlshubEbpf.Bpf
