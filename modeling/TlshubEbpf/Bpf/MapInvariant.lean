import Mathlib.Data.List.Induction
import TlshubEbpf.Bpf.Capture

/-! # How the two maps belong together

The probes are called on any socket pointers in any order, each of them to its
end.  `sock_info_map` gets a key only where `conn_track_map` holds it, and state 2
is written together with the record of the event. -/

set_option autoImplicit false

namespace TlshubEbpf.Bpf

open Lib Netlink

inductive ProbeCall where
  | connect (sockPtr : UInt64)
  | connectReturn (ret : Int)
  | sendmsg (sockPtr : UInt64) (sk : SockCommon) (helpers : Helpers)

/-- Beside the maps, the events sent, each with its socket, the latest first. -/
structure Hooks where
  bpf : BpfState
  sent : List (UInt64 × TcpConnectEvent)

def Hooks.loaded : Hooks := ⟨BpfState.loaded, []⟩

def Hooks.call (order : ByteOrder) (s : Hooks) : ProbeCall → Hooks
  | .connect sockPtr => { s with bpf := kprobeTcpV4Connect sockPtr s.bpf }
  | .connectReturn ret => { s with bpf := kretprobeTcpV4Connect ret s.bpf }
  | .sendmsg sockPtr sk helpers =>
      { bpf := kprobeTcpSendmsg order sockPtr sk helpers s.bpf
        sent :=
          if Sends s.bpf sockPtr sk then
            (sockPtr, eventOf (sockInfoOf order sk helpers) helpers) :: s.sent
          else
            s.sent }

def Hooks.run (order : ByteOrder) (calls : List ProbeCall) : Hooks :=
  calls.foldl (Hooks.call order) Hooks.loaded

def Hooks.latestEvent (s : Hooks) (sockPtr : UInt64) : Option TcpConnectEvent :=
  s.sent.lookup sockPtr

def recordOf (event : TcpConnectEvent) : SockInfo :=
  { saddr := event.saddr
    daddr := event.daddr
    sport := event.sport
    dport := event.dport
    pid := event.pid }

structure Linked (s : Hooks) : Prop where
  outputs : s.sent.map Prod.snd = s.bpf.outputs.map Prod.fst
  included : ∀ sockPtr ∈ s.bpf.sockInfoMap.entries,
    s.bpf.trackState sockPtr = some 1 ∨ s.bpf.trackState sockPtr = some 2
  captured : ∀ sockPtr, s.bpf.trackState sockPtr = some 2 →
    ∃ event, s.latestEvent sockPtr = some event ∧
      s.bpf.sockInfoMap.lookup sockPtr = some (recordOf event)

theorem loaded_linked : Linked Hooks.loaded where
  outputs := rfl
  included := by
    intro sockPtr held
    exact absurd held (AList.notMem_empty sockPtr)
  captured := by
    intro sockPtr state2
    have untracked : Hooks.loaded.bpf.trackState sockPtr = none :=
      BoundedMap.lookup_empty sockPtr
    rw [untracked] at state2
    cases state2

section Calls
variable (order : ByteOrder) (s : Hooks)

theorem Linked.hasRoom (linked : Linked s) (sockPtr : UInt64) (sk : SockCommon)
    (sends : Sends s.bpf sockPtr sk) : s.bpf.sockInfoMap.HasRoom sockPtr := by
  apply BoundedMap.hasRoom_of_included _ s.bpf.connTrackMap
  · intro key held
    rcases linked.included key held with state1 | state2
    · exact BoundedMap.mem_of_lookup _ key 1 state1
    · exact BoundedMap.mem_of_lookup _ key 2 state2
  · exact BoundedMap.mem_of_lookup _ sockPtr 1 sends.1

theorem connect_linked (sockPtr : UInt64) (linked : Linked s) :
    Linked (s.call order (.connect sockPtr)) := by
  by_cases room : s.bpf.connTrackMap.HasRoom sockPtr
  case neg =>
    rw [Hooks.call, kprobeTcpV4Connect_full sockPtr s.bpf room]
    exact linked
  case pos =>
    have here := kprobeTcpV4Connect_trackState sockPtr s.bpf room
    refine ⟨linked.outputs, ?_, ?_⟩
    · intro other held
      rcases eq_or_ne other sockPtr with rfl | distinct
      · exact Or.inl here
      · rw [Hooks.call, kprobeTcpV4Connect_trackState_other sockPtr other s.bpf distinct]
        exact linked.included other held
    · intro other state2
      rcases eq_or_ne other sockPtr with rfl | distinct
      · rw [Hooks.call, here] at state2
        simp at state2
      · rw [Hooks.call, kprobeTcpV4Connect_trackState_other sockPtr other s.bpf distinct] at state2
        exact linked.captured other state2

theorem sendmsg_linked (sockPtr : UInt64) (sk : SockCommon) (helpers : Helpers)
    (linked : Linked s) : Linked (s.call order (.sendmsg sockPtr sk helpers)) := by
  by_cases sends : Sends s.bpf sockPtr sk
  case neg =>
    rw [Hooks.call, kprobeTcpSendmsg_silent order sockPtr sk helpers s.bpf sends, if_neg sends]
    exact linked
  case pos =>
    have room := linked.hasRoom s sockPtr sk sends
    have here := kprobeTcpSendmsg_trackState order sockPtr sk helpers s.bpf sends
    have elsewhere := fun other distinct =>
      kprobeTcpSendmsg_trackState_other order sockPtr other sk helpers s.bpf distinct
    rw [kprobeTcpSendmsg_sends order sockPtr sk helpers s.bpf sends] at here elsewhere
    rw [Hooks.call, kprobeTcpSendmsg_sends order sockPtr sk helpers s.bpf sends, if_pos sends]
    refine ⟨congrArg (List.cons _) linked.outputs, ?_, ?_⟩
    · intro other held
      rcases eq_or_ne other sockPtr with rfl | distinct
      · exact Or.inr here
      · rw [elsewhere other distinct]
        exact linked.included other
          ((BoundedMap.mem_updateOrKeep_other _ sockPtr other _ distinct).mp held)
    · intro other state2
      unfold Hooks.latestEvent
      rcases eq_or_ne other sockPtr with rfl | distinct
      · exact ⟨_, List.lookup_cons_self, BoundedMap.lookup_updateOrKeep_self _ _ _ room⟩
      · rw [elsewhere other distinct] at state2
        obtain ⟨event, latest, record⟩ := linked.captured other state2
        refine ⟨event, ?_, ?_⟩
        · rw [List.lookup_cons, beq_eq_false_iff_ne.mpr distinct]
          exact latest
        · rw [BoundedMap.lookup_updateOrKeep_other _ _ _ _ distinct]
          exact record

theorem call_linked (call : ProbeCall) (linked : Linked s) : Linked (s.call order call) := by
  cases call with
  | connect sockPtr => exact connect_linked order s sockPtr linked
  | connectReturn ret =>
      rw [Hooks.call, kretprobeTcpV4Connect_eq]
      exact linked
  | sendmsg sockPtr sk helpers => exact sendmsg_linked order s sockPtr sk helpers linked

end Calls

theorem run_linked (order : ByteOrder) (calls : List ProbeCall) :
    Linked (Hooks.run order calls) := by
  unfold Hooks.run
  induction calls using List.reverseRecOn with
  | nil => exact loaded_linked
  | append_singleton calls call ih =>
      rw [List.foldl_append]
      exact call_linked order _ call ih

/-- In every state the records belong to tracked sockets, the next record finds room,
and a captured socket has the record of its latest event. -/
theorem run_maps_linked (order : ByteOrder) (calls : List ProbeCall) :
    let s := Hooks.run order calls
    (∀ sockPtr ∈ s.bpf.sockInfoMap.entries,
      s.bpf.trackState sockPtr = some 1 ∨ s.bpf.trackState sockPtr = some 2) ∧
    (∀ sockPtr sk helpers, Sends s.bpf sockPtr sk →
      (s.bpf.sockInfoMap.update sockPtr (sockInfoOf order sk helpers)).isSome = true) ∧
    (∀ sockPtr, s.bpf.trackState sockPtr = some 2 →
      ∃ event, s.latestEvent sockPtr = some event ∧
        s.bpf.sockInfoMap.lookup sockPtr = some (recordOf event)) ∧
    s.sent.map Prod.snd = s.bpf.outputs.map Prod.fst := by
  intro s
  have linked : Linked s := run_linked order calls
  refine ⟨linked.included, ?_, linked.captured, linked.outputs⟩
  intro sockPtr sk helpers sends
  rw [BoundedMap.update, dif_pos (linked.hasRoom s sockPtr sk sends)]
  rfl

end TlshubEbpf.Bpf
