import TlshubEbpf.Bpf.Sockets

/-! # Connections that are not reported

A connection is reported by the first IPv4 `tcp_sendmsg` after its
`tcp_v4_connect`, which looks for state 1 and leaves state 2 whether or not the
perf buffer takes the event.  It is lost where the map had no room for state 1 or
the buffer did not take that event. -/

set_option autoImplicit false

namespace TlshubEbpf.Bpf

open Lib Netlink

/-- After a `tcp_sendmsg` of a connected IPv4 socket, an event of its connection
has been delivered or the socket is still tracked with state 1. -/
def ReportsOrTracks (before : System) (event : HookEvent) (after : System) : Prop :=
  match event with
  | .sendmsg sockPtr sk _ =>
      (∃ life ∈ before.sockets.lookup sockPtr, life.connected = true) → sk.skcFamily = afInet →
        (∃ life ∈ after.sockets.lookup sockPtr, life.reported = true) ∨
          after.bpf.trackState sockPtr = some 1
  | _ => True

instance (before : System) (event : HookEvent) (after : System) :
    Decidable (ReportsOrTracks before event after) :=
  match event with
  | .sendmsg .. => inferInstanceAs (Decidable ((∃ life ∈ _, _) → _ → _))
  | .alloc _ => inferInstanceAs (Decidable True)
  | .connectEnter _ => inferInstanceAs (Decidable True)
  | .connectReturn .. => inferInstanceAs (Decidable True)
  | .close _ => inferInstanceAs (Decidable True)

/-- The map had room when the connect of a connected IPv4 socket that sends was
entered, and the buffer takes its first event. -/
def RecordedAndTaken (before : System) : HookEvent → Prop
  | .sendmsg sockPtr sk helpers =>
      sk.skcFamily = afInet → ∀ life ∈ before.sockets.lookup sockPtr, life.connected = true →
        life.recorded = true ∧ life.firstTaken.getD helpers.bufferTakes = true
  | _ => True

/-- What the map holds for a connection, and whether it has been reported. -/
def accountOf (life : Life) : Option UInt32 × Bool :=
  if life.recorded then
    match life.firstTaken with
    | none => (some 1, false)
    | some taken => (some 2, taken)
  else
    (none, false)

def Accounted (state : Option UInt32) (life : Life) : Prop :=
  life.connecting = true ∨ life.connected = true → (state, life.reported) = accountOf life

section Probes
variable (order : ByteOrder) (s : BpfState) (sockPtr : UInt64) (life : Life)

theorem connectEntered_accounted :
    Accounted ((kprobeTcpV4Connect sockPtr s).trackState sockPtr)
      (life.connectEntered (decide (s.connTrackMap.HasRoom sockPtr))) := by
  intro _
  by_cases room : s.connTrackMap.HasRoom sockPtr
  · rw [kprobeTcpV4Connect_trackState sockPtr s room]
    simp [accountOf, Life.connectEntered, room]
  · rw [kprobeTcpV4Connect_full sockPtr s room, trackState_of_full sockPtr s room]
    simp [accountOf, Life.connectEntered, room]

theorem connectReturned_accounted (state : Option UInt32) (ret : Int)
    (connecting : life.connecting = true) (accounted : Accounted state life) :
    Accounted state (life.connectReturned ret) :=
  fun _ => accounted (Or.inl connecting)

theorem kprobeTcpSendmsg_delivered_iff (sk : SockCommon) (helpers : Helpers) :
    (kprobeTcpSendmsg order sockPtr sk helpers s).delivered ≠ s.delivered ↔
      Sends s sockPtr sk ∧ helpers.bufferTakes = true := by
  by_cases sends : Sends s sockPtr sk
  · rw [kprobeTcpSendmsg_sends order sockPtr sk helpers s sends]
    cases taken : helpers.bufferTakes <;> simp [BpfState.delivered, sends]
  · rw [kprobeTcpSendmsg_silent order sockPtr sk helpers s sends]
    simp [sends]

theorem sends_account (sk : SockCommon) (sends : Sends s sockPtr sk)
    (account : (s.trackState sockPtr, life.reported) = accountOf life) :
    life.recorded = true ∧ life.firstTaken = none := by
  rw [sends.1] at account
  unfold accountOf at account
  cases recorded : life.recorded with
  | false => simp [recorded] at account
  | true =>
      cases first : life.firstTaken with
      | none => exact ⟨rfl, rfl⟩
      | some taken => simp [recorded, first] at account

theorem sent_account (sk : SockCommon) (helpers : Helpers)
    (account : (s.trackState sockPtr, life.reported) = accountOf life) :
    let after := kprobeTcpSendmsg order sockPtr sk helpers s
    let sent := life.sent sk helpers (decide (after.delivered ≠ s.delivered))
    (after.trackState sockPtr, sent.reported) = accountOf sent := by
  by_cases sends : Sends s sockPtr sk
  · obtain ⟨recorded, first⟩ := sends_account s sockPtr life sk sends account
    have unreported : life.reported = false := by
      simpa [accountOf, recorded, first] using congrArg Prod.snd account
    simp only [kprobeTcpSendmsg_delivered_iff, kprobeTcpSendmsg_trackState order sockPtr sk
      helpers s sends]
    simp [accountOf, Life.sent, recorded, first, unreported, sends, sends.2]
  · simp only [kprobeTcpSendmsg_silent order sockPtr sk helpers s sends]
    by_cases family : sk.skcFamily = afInet
    · have untracked : s.trackState sockPtr ≠ some 1 := fun tracked => sends ⟨tracked, family⟩
      cases recorded : life.recorded with
      | false => simpa [accountOf, Life.sent, recorded] using account
      | true =>
          cases first : life.firstTaken with
          | none => simp [accountOf, recorded, first, untracked] at account
          | some taken => simpa [accountOf, Life.sent, recorded, first, family] using account
    · simpa [accountOf, Life.sent, family] using account

end Probes

theorem step_accounted (order : ByteOrder) (s : System) (event : HookEvent) (next : System)
    (each : EachSocket Accounted s) (taken : step order s event = some next) :
    EachSocket Accounted next := by
  refine step_eachSocket order s next Accounted event taken each ?_
  intro life' live
  cases event with
  | alloc sockPtr =>
      rw [step_alloc order s next sockPtr taken] at live ⊢
      rw [HookEvent.sockPtr, AList.lookup_insert] at live
      rw [← Option.mem_some.mp live]
      intro begun
      simp [Life.allocated] at begun
  | connectEnter sockPtr =>
      obtain ⟨life, found, rfl⟩ := step_connectEnter order s next sockPtr taken
      rw [HookEvent.sockPtr, AList.lookup_insert] at live
      rw [← Option.mem_some.mp live]
      exact connectEntered_accounted s.bpf sockPtr life
  | connectReturn sockPtr ret =>
      obtain ⟨life, found, connecting, rfl⟩ := step_connectReturn order s next sockPtr ret taken
      rw [HookEvent.sockPtr, AList.lookup_insert] at live
      rw [← Option.mem_some.mp live]
      exact connectReturned_accounted life _ ret connecting (each sockPtr life found)
  | sendmsg sockPtr sk helpers =>
      obtain ⟨life, found, rfl⟩ := step_sendmsg order s next sockPtr sk helpers taken
      rw [HookEvent.sockPtr, AList.lookup_insert] at live
      rw [← Option.mem_some.mp live]
      intro begun
      exact sent_account order s.bpf sockPtr life sk helpers (each sockPtr life found begun)
  | close sockPtr =>
      rw [step_close order s next sockPtr taken] at live
      rw [HookEvent.sockPtr, AList.lookup_erase] at live
      cases live

/-! ## Runs -/

theorem sent_reported_iff (order : ByteOrder) (s : BpfState) (sockPtr : UInt64) (life : Life)
    (sk : SockCommon) (helpers : Helpers) (family : sk.skcFamily = afInet)
    (account : (s.trackState sockPtr, life.reported) = accountOf life) :
    let after := kprobeTcpSendmsg order sockPtr sk helpers s
    let sent := life.sent sk helpers (decide (after.delivered ≠ s.delivered))
    sent.reported = true ∨ after.trackState sockPtr = some 1 ↔
      life.recorded = true ∧ life.firstTaken.getD helpers.bufferTakes = true := by
  intro after sent
  have settled := sent_account order s sockPtr life sk helpers account
  rw [Prod.ext_iff] at settled
  obtain ⟨state, reported⟩ := settled
  dsimp only at state reported
  rw [show after.trackState sockPtr = (accountOf sent).1 from state,
    show sent.reported = (accountOf sent).2 from reported]
  cases recorded : life.recorded with
  | false => simp [accountOf, sent, Life.sent, recorded]
  | true => simp [accountOf, sent, Life.sent, recorded, family]

theorem step_reportsOrTracks_iff (order : ByteOrder) (s : System) (event : HookEvent)
    (next : System) (each : EachSocket Accounted s) (taken : step order s event = some next) :
    ReportsOrTracks s event next ↔ RecordedAndTaken s event := by
  cases event with
  | alloc sockPtr => exact Iff.rfl
  | connectEnter sockPtr => exact Iff.rfl
  | connectReturn sockPtr ret => exact Iff.rfl
  | close sockPtr => exact Iff.rfl
  | sendmsg sockPtr sk helpers =>
      obtain ⟨life, found, rfl⟩ := step_sendmsg order s next sockPtr sk helpers taken
      simp only [ReportsOrTracks, RecordedAndTaken, found, AList.lookup_insert, Option.mem_some,
        forall_eq', exists_eq_left']
      constructor
      · intro kept family connected
        have account := each sockPtr life found (Or.inr connected)
        exact (sent_reported_iff order s.bpf sockPtr life sk helpers family account).mp
          (kept connected family)
      · intro recordedAndTaken connected family
        have account := each sockPtr life found (Or.inr connected)
        exact (sent_reported_iff order s.bpf sockPtr life sk helpers family account).mpr
          (recordedAndTaken family connected)

/-- No connection of a run is lost if and only if each that sends over IPv4 found
room in the map when its connect was entered, and room in the buffer the first
time that it sent. -/
theorem run_reportsOrTracks_iff (order : ByteOrder) (events : List HookEvent) :
    (∀ t ∈ run order events, ReportsOrTracks t.before t.event t.after) ↔
      ∀ t ∈ run order events, RecordedAndTaken t.before t.event := by
  unfold run
  refine transitions_good_iff (step order) (EachSocket Accounted) RecordedAndTaken
    ReportsOrTracks ?_ ?_ System.loaded (loaded_eachSocket Accounted) events
  · intro s event next each taken
    exact step_reportsOrTracks_iff order s event next each taken
  · intro s event next each _ taken
    exact step_accounted order s event next each taken

def visit (sockPtr : UInt64) : List HookEvent :=
  [.alloc sockPtr, .connectEnter sockPtr, .connectReturn sockPtr 0, .close sockPtr]

/-- Sockets at the addresses below `n`, each closed before the next is allocated. -/
def visits : Nat → List HookEvent
  | 0 => []
  | n + 1 => visits n ++ visit (UInt64.ofNat n)

def visited : Nat → BpfState
  | 0 => BpfState.loaded
  | n + 1 => kprobeTcpV4Connect (UInt64.ofNat n) (visited n)

theorem visited_keys (n : Nat) (within : n ≤ maxEntries) :
    (visited n).connTrackMap.entries.keys.length = n ∧
      ∀ key ∈ (visited n).connTrackMap.entries.keys, key.toNat < n := by
  induction n with
  | zero => exact ⟨rfl, fun key held => by cases held⟩
  | succ n ih =>
      obtain ⟨count, bounded⟩ := ih (by omega)
      have word : (UInt64.ofNat n).toNat = n := by
        unfold maxEntries at within
        exact UInt64.toNat_ofNat_of_lt' (by unfold UInt64.size; omega)
      have new : UInt64.ofNat n ∉ (visited n).connTrackMap.entries := by
        intro held
        have lt := bounded _ (AList.mem_keys.mp held)
        omega
      have keys : (visited (n + 1)).connTrackMap.entries.keys =
          UInt64.ofNat n :: (visited n).connTrackMap.entries.keys :=
        BoundedMap.keys_updateOrKeep_new _ _ _ new (by omega)
      rw [keys, List.length_cons, count]
      refine ⟨rfl, ?_⟩
      intro key held
      cases List.mem_cons.mp held with
      | inl same => rw [same, word]; omega
      | inr older =>
          have lt := bounded key older
          omega

theorem visited_full :
    ¬ (visited maxEntries).connTrackMap.HasRoom (UInt64.ofNat maxEntries) := by
  obtain ⟨count, bounded⟩ := visited_keys maxEntries (Nat.le_refl _)
  intro room
  cases room with
  | inl held =>
      have lt := bounded _ (AList.mem_keys.mp held)
      exact absurd lt (by decide)
  | inr free => omega

section Alone
variable (order : ByteOrder) (bpf : BpfState) (sockPtr : UInt64) (life : Life)

@[simp] theorem lookup_alone :
    (AList.singleton sockPtr life : AList fun _ => Life).lookup sockPtr = some life := by
  rw [← AList.insert_empty, AList.lookup_insert]

theorem erase_alone : (AList.singleton sockPtr life : AList fun _ => Life).erase sockPtr = ∅ := by
  apply AList.ext
  exact List.kerase_cons_eq rfl

theorem alloc_alone :
    step order ⟨bpf, ∅⟩ (.alloc sockPtr) =
      some ⟨bpf, AList.singleton sockPtr (Life.allocated (bpf.trackState sockPtr))⟩ := by
  simp [step]

theorem connectEnter_alone (idle : life.connecting = false) :
    step order ⟨bpf, AList.singleton sockPtr life⟩ (.connectEnter sockPtr) =
      some ⟨kprobeTcpV4Connect sockPtr bpf, AList.singleton sockPtr
        (life.connectEntered (decide (bpf.connTrackMap.HasRoom sockPtr)))⟩ := by
  simp [step, idle]

theorem connectReturn_alone (ret : Int) (connecting : life.connecting = true) :
    step order ⟨bpf, AList.singleton sockPtr life⟩ (.connectReturn sockPtr ret) =
      some ⟨bpf, AList.singleton sockPtr (life.connectReturned ret)⟩ := by
  simp [step, connecting]

theorem sendmsg_alone (sk : SockCommon) (helpers : Helpers)
    (untracked : bpf.trackState sockPtr = none) :
    step order ⟨bpf, AList.singleton sockPtr life⟩ (.sendmsg sockPtr sk helpers) =
      some ⟨bpf, AList.singleton sockPtr (life.sent sk helpers false)⟩ := by
  have silent : ¬ Sends bpf sockPtr sk := by
    intro sends
    cases untracked.symm.trans sends.1
  simp [step, kprobeTcpSendmsg_silent order sockPtr sk helpers bpf silent]

theorem close_alone (idle : life.connecting = false) :
    step order ⟨bpf, AList.singleton sockPtr life⟩ (.close sockPtr) = some ⟨bpf, ∅⟩ := by
  simp [step, idle, erase_alone]

theorem visit_reaches :
    (visit sockPtr).foldlM (step order) ⟨bpf, ∅⟩ =
      some ⟨kprobeTcpV4Connect sockPtr bpf, ∅⟩ := by
  unfold visit
  rw [List.foldlM_cons, alloc_alone, Option.bind_eq_bind, Option.bind_some, List.foldlM_cons,
    connectEnter_alone _ _ _ _ rfl, Option.bind_eq_bind, Option.bind_some, List.foldlM_cons,
    connectReturn_alone _ _ _ _ _ rfl, Option.bind_eq_bind, Option.bind_some, List.foldlM_cons,
    close_alone _ _ _ _ rfl]
  rfl

theorem visit_few :
    ∀ t ∈ transitions (step order) ⟨bpf, ∅⟩ (visit sockPtr), t.after.liveSockets ≤ 1 := by
  simp [visit, transitions, alloc_alone, connectEnter_alone, connectReturn_alone, close_alone,
    Life.allocated, Life.connectEntered, Life.connectReturned, System.liveSockets]

end Alone

theorem visits_reach (order : ByteOrder) (n : Nat) :
    (visits n).foldlM (step order) System.loaded = some ⟨visited n, ∅⟩ := by
  induction n with
  | zero => rfl
  | succ n ih =>
      unfold visits visited
      rw [List.foldlM_append, ih, Option.bind_eq_bind, Option.bind_some]
      exact visit_reaches order (visited n) (UInt64.ofNat n)

theorem visits_few (order : ByteOrder) (n : Nat) :
    ∀ t ∈ run order (visits n), t.after.liveSockets ≤ 1 := by
  induction n with
  | zero => intro t visited; cases visited
  | succ n ih =>
      unfold run visits
      rw [transitions_append _ _ _ _ _ (visits_reach order n)]
      intro t visited
      cases List.mem_append.mp visited with
      | inl earlier => exact ih t earlier
      | inr last => exact visit_few order _ _ t last

def connectAndSend (sockPtr : UInt64) (helpers : Helpers) : List HookEvent :=
  [.alloc sockPtr, .connectEnter sockPtr, .connectReturn sockPtr 0,
    .sendmsg sockPtr ipv4Sock helpers]

def sendAfterVisits : List HookEvent :=
  visits maxEntries ++ connectAndSend (UInt64.ofNat maxEntries) (helpersWhere true)

theorem connectAndSend_full (order : ByteOrder) (bpf : BpfState) (sockPtr : UInt64)
    (helpers : Helpers) (full : ¬ bpf.connTrackMap.HasRoom sockPtr) :
    (∀ t ∈ transitions (step order) ⟨bpf, ∅⟩ (connectAndSend sockPtr helpers),
      t.after.liveSockets ≤ 1) ∧
    ¬ ∀ t ∈ transitions (step order) ⟨bpf, ∅⟩ (connectAndSend sockPtr helpers),
      ReportsOrTracks t.before t.event t.after := by
  have untracked := trackState_of_full sockPtr bpf full
  simp [connectAndSend, transitions, alloc_alone, connectEnter_alone, connectReturn_alone,
    sendmsg_alone, kprobeTcpV4Connect_full sockPtr bpf full, untracked, Life.allocated,
    Life.connectEntered, Life.connectReturned, Life.sent, System.liveSockets, ReportsOrTracks,
    ipv4Sock]

theorem connections_lost :
    ((∀ t ∈ run .little (connectAndSend 64 (helpersWhere false)),
        t.after.liveSockets ≤ maxEntries) ∧
      ¬ ∀ t ∈ run .little (connectAndSend 64 (helpersWhere false)),
        ReportsOrTracks t.before t.event t.after) ∧
    (∀ t ∈ run .little sendAfterVisits, t.after.liveSockets ≤ maxEntries) ∧
      ¬ ∀ t ∈ run .little sendAfterVisits, ReportsOrTracks t.before t.event t.after := by
  refine ⟨by decide, ?_⟩
  obtain ⟨few, lost⟩ := connectAndSend_full .little (visited maxEntries) _ (helpersWhere true)
    visited_full
  have split : run .little sendAfterVisits = run .little (visits maxEntries) ++
      transitions (step .little) ⟨visited maxEntries, ∅⟩
        (connectAndSend (UInt64.ofNat maxEntries) (helpersWhere true)) :=
    transitions_append _ _ _ _ _ (visits_reach .little maxEntries)
  rw [split]
  constructor
  · intro t taken
    have one : t.after.liveSockets ≤ 1 := by
      cases List.mem_append.mp taken with
      | inl earlier => exact visits_few .little maxEntries t earlier
      | inr last => exact few t last
    exact Nat.le_trans one (by decide)
  · intro kept
    exact lost fun t last => kept t (List.mem_append_right _ last)

end TlshubEbpf.Bpf
