import TlshubEbpf.Bpf.Sockets

/-! # Which sockets events are sent for

A state 1 in `conn_track_map` stems from a `tcp_v4_connect` of the socket now at
the address or of one that had the address before, whatever became of it.  So an
event is sent for a socket that never connected as soon as such a socket sends. -/

set_option autoImplicit false

namespace TlshubEbpf.Bpf

open Lib Netlink

def System.HasConnected (s : System) (sockPtr : UInt64) : Prop :=
  ∃ life ∈ s.sockets.lookup sockPtr, life.everConnected = true

/-- An event sent to user space is for a socket that has connected. -/
def SendsSoundly (before : System) (event : HookEvent) (after : System) : Prop :=
  after.bpf.outputs = before.bpf.outputs ∨ before.HasConnected event.sockPtr

instance (before : System) (event : HookEvent) (after : System) :
    Decidable (SendsSoundly before event after) :=
  inferInstanceAs (Decidable (_ = _ ∨ ∃ life ∈ _, _))

/-- An IPv4 socket that sends has connected, or neither it nor an earlier socket at
its address has left a state 1 in `conn_track_map`. -/
def SendsAfterConnect (before : System) : HookEvent → Prop
  | .sendmsg sockPtr sk _ =>
      sk.skcFamily = afInet → ∀ life ∈ before.sockets.lookup sockPtr,
        life.everConnected = true ∨ life.recorded = false ∧ life.inherited = false
  | _ => True

/-! ## Where a state 1 comes from -/

/-- State 1 has a cause in the life of the socket, and until the socket has
connected the cause lasts. -/
structure Tracked (state : Option UInt32) (life : Life) : Prop where
  caused : state = some 1 → life.recorded = true ∨ life.inherited = true
  lasts : life.everConnected = false → life.recorded = true ∨ life.inherited = true →
    state = some 1

theorem allocated_tracked (state : Option UInt32) : Tracked state (Life.allocated state) where
  caused state1 := Or.inr (decide_eq_true state1)
  lasts _ cause := by
    cases cause with
    | inl recorded => cases recorded
    | inr inherited => exact of_decide_eq_true inherited

section Probes
variable (order : ByteOrder) (s : BpfState) (sockPtr : UInt64) (life : Life)

theorem connectEntered_tracked (tracked : Tracked (s.trackState sockPtr) life) :
    Tracked ((kprobeTcpV4Connect sockPtr s).trackState sockPtr)
      (life.connectEntered (decide (s.connTrackMap.HasRoom sockPtr))) := by
  by_cases room : s.connTrackMap.HasRoom sockPtr
  · rw [kprobeTcpV4Connect_trackState sockPtr s room]
    exact ⟨fun _ => Or.inl (decide_eq_true room), fun _ _ => rfl⟩
  · have untracked := trackState_of_full sockPtr s room
    rw [kprobeTcpV4Connect_full sockPtr s room]
    rw [untracked] at tracked ⊢
    constructor
    · intro state1
      cases state1
    · intro unconnected cause
      cases cause with
      | inl recorded => exact absurd (of_decide_eq_true recorded) room
      | inr inherited => exact tracked.lasts unconnected (Or.inr inherited)

theorem connectReturned_tracked (state : Option UInt32) (ret : Int) (tracked : Tracked state life) :
    Tracked state (life.connectReturned ret) where
  caused := tracked.caused
  lasts unconnected := tracked.lasts (Bool.or_eq_false_iff.mp unconnected).1

theorem sent_tracked (sk : SockCommon) (helpers : Helpers) (delivered : Bool)
    (tracked : Tracked (s.trackState sockPtr) life)
    (allowed : sk.skcFamily = afInet →
      life.everConnected = true ∨ life.recorded = false ∧ life.inherited = false) :
    Tracked ((kprobeTcpSendmsg order sockPtr sk helpers s).trackState sockPtr)
      (life.sent sk helpers delivered) := by
  by_cases sends : Sends s sockPtr sk
  · have connected : life.everConnected = true := by
      cases allowed sends.2 with
      | inl connected => exact connected
      | inr none =>
          have cause := tracked.caused sends.1
          rw [none.1, none.2] at cause
          simp at cause
    rw [kprobeTcpSendmsg_trackState order sockPtr sk helpers s sends]
    constructor
    · intro state1
      simp at state1
    · intro unconnected
      cases connected.symm.trans unconnected
  · rw [kprobeTcpSendmsg_silent order sockPtr sk helpers s sends]
    exact ⟨tracked.caused, tracked.lasts⟩

end Probes

theorem step_tracked (order : ByteOrder) (s : System) (event : HookEvent) (next : System)
    (each : EachSocket Tracked s) (allowed : SendsAfterConnect s event)
    (taken : step order s event = some next) : EachSocket Tracked next := by
  refine step_eachSocket order s next Tracked event taken each ?_
  intro life' live
  cases event with
  | alloc sockPtr =>
      rw [step_alloc order s next sockPtr taken] at live ⊢
      rw [HookEvent.sockPtr, AList.lookup_insert] at live
      rw [← Option.mem_some.mp live]
      exact allocated_tracked _
  | connectEnter sockPtr =>
      obtain ⟨life, found, rfl⟩ := step_connectEnter order s next sockPtr taken
      rw [HookEvent.sockPtr, AList.lookup_insert] at live
      rw [← Option.mem_some.mp live]
      exact connectEntered_tracked s.bpf sockPtr life (each sockPtr life found)
  | connectReturn sockPtr ret =>
      obtain ⟨life, found, -, rfl⟩ := step_connectReturn order s next sockPtr ret taken
      rw [HookEvent.sockPtr, AList.lookup_insert] at live
      rw [← Option.mem_some.mp live]
      exact connectReturned_tracked life _ ret (each sockPtr life found)
  | sendmsg sockPtr sk helpers =>
      obtain ⟨life, found, rfl⟩ := step_sendmsg order s next sockPtr sk helpers taken
      rw [HookEvent.sockPtr, AList.lookup_insert] at live
      rw [← Option.mem_some.mp live]
      exact sent_tracked order s.bpf sockPtr life sk helpers _ (each sockPtr life found)
        fun family => allowed family life found
  | close sockPtr =>
      rw [step_close order s next sockPtr taken] at live
      rw [HookEvent.sockPtr, AList.lookup_erase] at live
      cases live

theorem step_sendsSoundly_iff (order : ByteOrder) (s : System) (event : HookEvent)
    (next : System) (each : EachSocket Tracked s) (taken : step order s event = some next) :
    SendsSoundly s event next ↔ SendsAfterConnect s event := by
  cases event with
  | alloc sockPtr =>
      rw [step_alloc order s next sockPtr taken]
      exact iff_of_true (Or.inl rfl) trivial
  | connectEnter sockPtr =>
      obtain ⟨life, -, rfl⟩ := step_connectEnter order s next sockPtr taken
      exact iff_of_true (Or.inl rfl) trivial
  | connectReturn sockPtr ret =>
      obtain ⟨life, -, -, rfl⟩ := step_connectReturn order s next sockPtr ret taken
      exact iff_of_true (Or.inl rfl) trivial
  | close sockPtr =>
      rw [step_close order s next sockPtr taken]
      exact iff_of_true (Or.inl rfl) trivial
  | sendmsg sockPtr sk helpers =>
      obtain ⟨life, found, rfl⟩ := step_sendmsg order s next sockPtr sk helpers taken
      have tracked := each sockPtr life found
      unfold SendsSoundly SendsAfterConnect System.HasConnected
      simp only [HookEvent.sockPtr, kprobeTcpSendmsg_outputs_eq_iff, found, Option.mem_some,
        forall_eq', exists_eq_left']
      constructor
      · intro sound family
        cases sound with
        | inr connected => exact Or.inl connected
        | inl silent =>
            cases connected : life.everConnected with
            | true => exact Or.inl rfl
            | false =>
                refine Or.inr ?_
                have uncaused : ¬ (life.recorded = true ∨ life.inherited = true) :=
                  fun cause => silent ⟨tracked.lasts connected cause, family⟩
                simpa using uncaused
      · intro allowed
        by_cases sends : Sends s.bpf sockPtr sk
        · refine Or.inr ?_
          cases allowed sends.2 with
          | inl connected => exact connected
          | inr uncaused =>
              have cause := tracked.caused sends.1
              rw [uncaused.1, uncaused.2] at cause
              simp at cause
        · exact Or.inl sends

/-- The events of a run are all for sockets that have connected if and only if no
socket sends that has not connected while it or an earlier socket at its address
has left a state 1. -/
theorem run_sendsSoundly_iff (order : ByteOrder) (events : List HookEvent) :
    (∀ t ∈ run order events, SendsSoundly t.before t.event t.after) ↔
      ∀ t ∈ run order events, SendsAfterConnect t.before t.event := by
  unfold run
  refine transitions_good_iff (step order) (EachSocket Tracked) SendsAfterConnect SendsSoundly
    ?_ ?_ System.loaded (loaded_eachSocket Tracked) events
  · intro s event next each taken
    exact step_sendsSoundly_iff order s event next each taken
  · intro s event next each allowed taken
    exact step_tracked order s event next each allowed taken

/-- `tcp_v4_connect` returns `-ENETUNREACH`, and the socket sends. -/
def failedConnect : List HookEvent :=
  [.alloc 64, .connectEnter 64, .connectReturn 64 (-101), .sendmsg 64 ipv4Sock (helpersWhere true)]

/-- A socket connects and is closed unused, and one accepted at its address sends. -/
def reusedAddress : List HookEvent :=
  [.alloc 64, .connectEnter 64, .connectReturn 64 0, .close 64, .alloc 64,
    .sendmsg 64 ipv4Sock (helpersWhere true)]

theorem sends_for_unconnected :
    (¬ ∀ t ∈ run .little failedConnect, SendsSoundly t.before t.event t.after) ∧
      ¬ ∀ t ∈ run .little reusedAddress, SendsSoundly t.before t.event t.after := by
  decide

end TlshubEbpf.Bpf
