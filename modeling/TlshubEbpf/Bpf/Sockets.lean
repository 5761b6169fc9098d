import TlshubEbpf.Bpf.Capture
import TlshubEbpf.Lib.Transitions

/-! # Sockets under the probes

Sockets are allocated at an address, connect, send and are closed, each event
running the probe attached to it to completion.  An address may be given to a new
socket once the old one is closed, and nothing is done to the maps then. -/

set_option autoImplicit false

namespace TlshubEbpf.Bpf

open Lib Netlink

structure Life where
  /-- `conn_track_map` held state 1 for the address when the socket was allocated. -/
  inherited : Bool
  /-- `conn_track_map` had room for the address at the latest `tcp_v4_connect`. -/
  recorded : Bool
  connecting : Bool
  connected : Bool
  everConnected : Bool
  /-- Whether the perf buffer took events at the first IPv4 `tcp_sendmsg` after the
  latest `tcp_v4_connect`. -/
  firstTaken : Option Bool
  reported : Bool
  deriving DecidableEq, Repr

structure System where
  bpf : BpfState
  sockets : AList (fun _ : UInt64 => Life)

def System.loaded : System :=
  ⟨BpfState.loaded, ∅⟩

def System.liveSockets (s : System) : Nat :=
  s.sockets.entries.length

inductive HookEvent where
  | alloc (sockPtr : UInt64)
  | connectEnter (sockPtr : UInt64)
  | connectReturn (sockPtr : UInt64) (ret : Int)
  | sendmsg (sockPtr : UInt64) (sk : SockCommon) (helpers : Helpers)
  | close (sockPtr : UInt64)

def HookEvent.sockPtr : HookEvent → UInt64
  | .alloc sockPtr => sockPtr
  | .connectEnter sockPtr => sockPtr
  | .connectReturn sockPtr _ => sockPtr
  | .sendmsg sockPtr _ _ => sockPtr
  | .close sockPtr => sockPtr

def Life.allocated (state : Option UInt32) : Life :=
  { inherited := decide (state = some 1)
    recorded := false
    connecting := false
    connected := false
    everConnected := false
    firstTaken := none
    reported := false }

def Life.connectEntered (life : Life) (room : Bool) : Life :=
  { life with
    recorded := room
    connecting := true
    connected := false
    firstTaken := none
    reported := false }

def Life.connectReturned (life : Life) (ret : Int) : Life :=
  { life with
    connecting := false
    connected := decide (ret = 0)
    everConnected := life.everConnected || decide (ret = 0) }

def Life.sent (life : Life) (sk : SockCommon) (helpers : Helpers) (delivered : Bool) : Life :=
  { life with
    firstTaken :=
      if sk.skcFamily = afInet then some (life.firstTaken.getD helpers.bufferTakes)
      else life.firstTaken
    reported := life.reported || delivered }

def step (order : ByteOrder) (s : System) : HookEvent → Option System
  | .alloc sockPtr =>
      match s.sockets.lookup sockPtr with
      | some _ => none
      | none =>
          some { s with
            sockets := s.sockets.insert sockPtr (Life.allocated (s.bpf.trackState sockPtr)) }
  | .connectEnter sockPtr =>
      match s.sockets.lookup sockPtr with
      | none => none
      | some life =>
          if life.connecting then
            none
          else
            some
              { bpf := kprobeTcpV4Connect sockPtr s.bpf
                sockets := s.sockets.insert sockPtr
                  (life.connectEntered (decide (s.bpf.connTrackMap.HasRoom sockPtr))) }
  | .connectReturn sockPtr ret =>
      match s.sockets.lookup sockPtr with
      | none => none
      | some life =>
          if life.connecting then
            some
              { bpf := kretprobeTcpV4Connect ret s.bpf
                sockets := s.sockets.insert sockPtr (life.connectReturned ret) }
          else
            none
  | .sendmsg sockPtr sk helpers =>
      match s.sockets.lookup sockPtr with
      | none => none
      | some life =>
          let bpf := kprobeTcpSendmsg order sockPtr sk helpers s.bpf
          some
            { bpf := bpf
              sockets := s.sockets.insert sockPtr
                (life.sent sk helpers (decide (bpf.delivered ≠ s.bpf.delivered))) }
  | .close sockPtr =>
      match s.sockets.lookup sockPtr with
      | none => none
      | some life =>
          if life.connecting then none
          else some { s with sockets := s.sockets.erase sockPtr }

def run (order : ByteOrder) (events : List HookEvent) : List (Transition System HookEvent) :=
  transitions (step order) System.loaded events

def ipv4Sock : SockCommon :=
  { skcFamily := afInet, skcRcvSaddr := 0, skcDaddr := 0, skcNum := 40000, skcDport := 47873 }

def helpersWhere (bufferTakes : Bool) : Helpers :=
  { currentPidTgid := 0, ktimeGetNs := 0, bufferTakes := bufferTakes }

/-! ## What one event does -/

section Steps
variable (order : ByteOrder) (s next : System) (sockPtr : UInt64)

theorem step_alloc (taken : step order s (.alloc sockPtr) = some next) :
    next = { s with
      sockets := s.sockets.insert sockPtr (Life.allocated (s.bpf.trackState sockPtr)) } := by
  unfold step at taken
  cases found : s.sockets.lookup sockPtr with
  | some life => simp [found] at taken
  | none =>
      simp only [found] at taken
      exact (Option.some.inj taken).symm

theorem step_connectEnter (taken : step order s (.connectEnter sockPtr) = some next) :
    ∃ life, s.sockets.lookup sockPtr = some life ∧ next =
      { bpf := kprobeTcpV4Connect sockPtr s.bpf
        sockets := s.sockets.insert sockPtr
          (life.connectEntered (decide (s.bpf.connTrackMap.HasRoom sockPtr))) } := by
  unfold step at taken
  cases found : s.sockets.lookup sockPtr with
  | none => simp [found] at taken
  | some life =>
      simp only [found] at taken
      split at taken
      · cases taken
      · exact ⟨life, rfl, (Option.some.inj taken).symm⟩

theorem step_connectReturn (ret : Int)
    (taken : step order s (.connectReturn sockPtr ret) = some next) :
    ∃ life, s.sockets.lookup sockPtr = some life ∧ life.connecting = true ∧ next =
      { s with sockets := s.sockets.insert sockPtr (life.connectReturned ret) } := by
  unfold step at taken
  cases found : s.sockets.lookup sockPtr with
  | none => simp [found] at taken
  | some life =>
      simp only [found, kretprobeTcpV4Connect_eq] at taken
      split at taken
      case isTrue connecting => exact ⟨life, rfl, connecting, (Option.some.inj taken).symm⟩
      case isFalse => cases taken

theorem step_sendmsg (sk : SockCommon) (helpers : Helpers)
    (taken : step order s (.sendmsg sockPtr sk helpers) = some next) :
    ∃ life, s.sockets.lookup sockPtr = some life ∧ next =
      { bpf := kprobeTcpSendmsg order sockPtr sk helpers s.bpf
        sockets := s.sockets.insert sockPtr
          (life.sent sk helpers (decide
            ((kprobeTcpSendmsg order sockPtr sk helpers s.bpf).delivered ≠ s.bpf.delivered))) } := by
  unfold step at taken
  cases found : s.sockets.lookup sockPtr with
  | none => simp [found] at taken
  | some life =>
      simp only [found] at taken
      exact ⟨life, rfl, (Option.some.inj taken).symm⟩

theorem step_close (taken : step order s (.close sockPtr) = some next) :
    next = { s with sockets := s.sockets.erase sockPtr } := by
  unfold step at taken
  cases found : s.sockets.lookup sockPtr with
  | none => simp [found] at taken
  | some life =>
      simp only [found] at taken
      split at taken
      · cases taken
      · exact (Option.some.inj taken).symm

theorem step_other (event : HookEvent) (taken : step order s event = some next)
    (other : UInt64) (distinct : other ≠ event.sockPtr) :
    next.bpf.trackState other = s.bpf.trackState other ∧
      next.sockets.lookup other = s.sockets.lookup other := by
  cases event with
  | alloc sockPtr =>
      rw [step_alloc order s next sockPtr taken]
      exact ⟨rfl, AList.lookup_insert_ne distinct⟩
  | connectEnter sockPtr =>
      obtain ⟨life, -, rfl⟩ := step_connectEnter order s next sockPtr taken
      exact ⟨kprobeTcpV4Connect_trackState_other sockPtr other s.bpf distinct,
        AList.lookup_insert_ne distinct⟩
  | connectReturn sockPtr ret =>
      obtain ⟨life, -, -, rfl⟩ := step_connectReturn order s next sockPtr ret taken
      exact ⟨rfl, AList.lookup_insert_ne distinct⟩
  | sendmsg sockPtr sk helpers =>
      obtain ⟨life, -, rfl⟩ := step_sendmsg order s next sockPtr sk helpers taken
      exact ⟨kprobeTcpSendmsg_trackState_other order sockPtr other sk helpers s.bpf distinct,
        AList.lookup_insert_ne distinct⟩
  | close sockPtr =>
      rw [step_close order s next sockPtr taken]
      exact ⟨rfl, AList.lookup_erase_ne distinct⟩

def EachSocket (property : Option UInt32 → Life → Prop) (s : System) : Prop :=
  ∀ sockPtr, ∀ life ∈ s.sockets.lookup sockPtr, property (s.bpf.trackState sockPtr) life

theorem loaded_eachSocket (property : Option UInt32 → Life → Prop) :
    EachSocket property System.loaded := by
  intro sockPtr life live
  cases live

/-- An event has to be followed for its own socket only. -/
theorem step_eachSocket (property : Option UInt32 → Life → Prop) (event : HookEvent)
    (taken : step order s event = some next) (each : EachSocket property s)
    (own : ∀ life ∈ next.sockets.lookup event.sockPtr,
      property (next.bpf.trackState event.sockPtr) life) :
    EachSocket property next := by
  intro sockPtr life live
  by_cases same : sockPtr = event.sockPtr
  · subst same
    exact own life live
  · obtain ⟨state, lives⟩ := step_other order s next event taken sockPtr same
    rw [lives] at live
    rw [state]
    exact each sockPtr life live

end Steps
end TlshubEbpf.Bpf
