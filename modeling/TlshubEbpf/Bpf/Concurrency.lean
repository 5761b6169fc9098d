import TlshubEbpf.Bpf.Sockets
import TlshubEbpf.Lib.Interleaving

/-! # Probes that interleave

An invocation of `kprobe_tcp_sendmsg` is the sequence of its helper calls, and
those of other invocations may come between any two of them.  The state that
marks a socket as reported is looked up by the first call and written by the last. -/

set_option autoImplicit false

namespace TlshubEbpf.Bpf

open Lib Netlink

inductive HelperCall where
  | updateSockInfoMap
  | perfEventOutput
  | updateConnTrackMap
  deriving DecidableEq, Repr

structure Invocation where
  sockPtr : UInt64
  sk : SockCommon
  helpers : Helpers
  next : HelperCall
  /-- Whether a connect of the socket has been entered since the lookup. -/
  superseded : Bool
  deriving DecidableEq, Repr

structure Probes where
  bpf : BpfState
  inFlight : List Invocation
  entered : List UInt64
  emitted : List UInt64

def Probes.loaded : Probes :=
  ⟨BpfState.loaded, [], [], []⟩

inductive ProbeEvent where
  | connect (sockPtr : UInt64)
  | lookup (sockPtr : UInt64) (sk : SockCommon) (helpers : Helpers)
  | helperCall (position : Nat)
  deriving DecidableEq, Repr

def lookupCall (sockPtr : UInt64) (sk : SockCommon) (helpers : Helpers) (s : BpfState) :
    Option Invocation :=
  if s.connTrackMap.lookup sockPtr ≠ some 1 then
    none
  else if sk.skcFamily ≠ afInet then
    none
  else
    some ⟨sockPtr, sk, helpers, .updateSockInfoMap, false⟩

def Invocation.call (order : ByteOrder) (invocation : Invocation) (s : BpfState) :
    BpfState × Option Invocation :=
  let info := sockInfoOf order invocation.sk invocation.helpers
  match invocation.next with
  | .updateSockInfoMap =>
      ({ s with sockInfoMap := s.sockInfoMap.updateOrKeep invocation.sockPtr info },
        some { invocation with next := .perfEventOutput })
  | .perfEventOutput =>
      ({ s with outputs := (eventOf info invocation.helpers, invocation.helpers.bufferTakes) ::
          s.outputs },
        some { invocation with next := .updateConnTrackMap })
  | .updateConnTrackMap =>
      ({ s with connTrackMap := s.connTrackMap.updateOrKeep invocation.sockPtr 2 }, none)

def Invocation.emits (invocation : Invocation) : List UInt64 :=
  if invocation.next = .perfEventOutput then [invocation.sockPtr] else []

def Invocation.supersede (sockPtr : UInt64) (invocation : Invocation) : Invocation :=
  if invocation.sockPtr = sockPtr then { invocation with superseded := true } else invocation

def Probes.step (order : ByteOrder) (s : Probes) : ProbeEvent → Option Probes
  | .connect sockPtr =>
      some
        { s with
          bpf := kprobeTcpV4Connect sockPtr s.bpf
          inFlight := s.inFlight.map (Invocation.supersede sockPtr)
          entered := sockPtr :: s.entered }
  | .lookup sockPtr sk helpers =>
      some { s with inFlight := (lookupCall sockPtr sk helpers s.bpf).toList ++ s.inFlight }
  | .helperCall position =>
      match s.inFlight[position]? with
      | none => none
      | some invocation =>
          let (bpf, rest) := invocation.call order s.bpf
          some
            { s with
              bpf := bpf
              inFlight := settle s.inFlight position rest
              emitted := invocation.emits ++ s.emitted }

def Probes.run (order : ByteOrder) (events : List ProbeEvent) :
    List (Transition Probes ProbeEvent) :=
  transitions (Probes.step order) Probes.loaded events

def AtMostOneEventEach (s : Probes) : Prop :=
  ∀ sockPtr, s.emitted.count sockPtr ≤ s.entered.count sockPtr

theorem atMostOneEventEach_emitted (s : Probes) :
    (∀ sockPtr ∈ s.emitted, s.emitted.count sockPtr ≤ s.entered.count sockPtr) ↔
      AtMostOneEventEach s := by
  constructor
  · intro emitted sockPtr
    by_cases member : sockPtr ∈ s.emitted
    · exact emitted sockPtr member
    · rw [List.count_eq_zero_of_not_mem member]
      exact Nat.zero_le _
  · intro each sockPtr _
    exact each sockPtr

instance (s : Probes) : Decidable (AtMostOneEventEach s) :=
  @decidable_of_iff _ _ (atMostOneEventEach_emitted s) (List.decidableBAll _ _)

/-- A lookup that makes an invocation send finds none in flight on its socket since
the latest connect of that socket. -/
def LooksUpAlone (s : Probes) : ProbeEvent → Prop
  | .lookup sockPtr sk _ =>
      Sends s.bpf sockPtr sk →
        ∀ other ∈ s.inFlight, other.sockPtr = sockPtr → other.superseded = true
  | _ => True

instance (s : Probes) (event : ProbeEvent) : Decidable (LooksUpAlone s event) :=
  match event with
  | .lookup .. => inferInstanceAs (Decidable (_ → ∀ other ∈ s.inFlight, _))
  | .connect _ => inferInstanceAs (Decidable True)
  | .helperCall _ => inferInstanceAs (Decidable True)

/-- The helper calls of an invocation one after the other, whatever else is in
flight, are the probe. -/
def RunsProbe (order : ByteOrder) (s : Probes) : Prop :=
  ∀ sockPtr sk helpers, ∃ calls emitted,
    (ProbeEvent.lookup sockPtr sk helpers :: List.replicate calls (.helperCall 0)).foldlM
        (Probes.step order) s =
      some { s with
        bpf := kprobeTcpSendmsg order sockPtr sk helpers s.bpf
        emitted := emitted }

section Uninterrupted
variable (order : ByteOrder) (sockPtr : UInt64) (sk : SockCommon) (helpers : Helpers) (s : Probes)

theorem lookupCall_silent (silent : ¬ Sends s.bpf sockPtr sk) :
    lookupCall sockPtr sk helpers s.bpf = none := by
  unfold lookupCall
  by_cases tracked : s.bpf.connTrackMap.lookup sockPtr = some 1
  · have family : sk.skcFamily ≠ afInet := fun family => silent ⟨tracked, family⟩
    rw [if_neg (not_not_intro tracked), if_pos family]
  · rw [if_pos tracked]

theorem lookupCall_sends (sends : Sends s.bpf sockPtr sk) :
    lookupCall sockPtr sk helpers s.bpf =
      some ⟨sockPtr, sk, helpers, .updateSockInfoMap, false⟩ := by
  have tracked : s.bpf.connTrackMap.lookup sockPtr = some 1 := sends.1
  have family : sk.skcFamily = afInet := sends.2
  unfold lookupCall
  rw [if_neg (not_not_intro tracked), if_neg (not_not_intro family)]

theorem step_lookup_silent (silent : ¬ Sends s.bpf sockPtr sk) :
    s.step order (.lookup sockPtr sk helpers) = some s := by
  unfold Probes.step
  dsimp only
  rw [lookupCall_silent sockPtr sk helpers s silent]
  rfl

theorem step_lookup_sends (sends : Sends s.bpf sockPtr sk) :
    s.step order (.lookup sockPtr sk helpers) =
      some { s with
        inFlight := ⟨sockPtr, sk, helpers, .updateSockInfoMap, false⟩ :: s.inFlight } := by
  unfold Probes.step
  dsimp only
  rw [lookupCall_sends sockPtr sk helpers s sends]
  rfl

omit sockPtr sk helpers in
theorem calls_kprobeTcpSendmsg : RunsProbe order s := by
  intro sockPtr sk helpers
  by_cases sends : Sends s.bpf sockPtr sk
  · refine ⟨3, sockPtr :: s.emitted, ?_⟩
    rw [kprobeTcpSendmsg_sends order sockPtr sk helpers s.bpf sends, List.foldlM_cons,
      step_lookup_sends order sockPtr sk helpers s sends]
    rfl
  · refine ⟨0, s.emitted, ?_⟩
    rw [kprobeTcpSendmsg_silent order sockPtr sk helpers s.bpf sends, List.foldlM_cons,
      step_lookup_silent order sockPtr sk helpers s sends]
    rfl

end Uninterrupted

/-! ## Events that invocations have still to emit -/

def Invocation.owes (sockPtr : UInt64) (invocation : Invocation) : Bool :=
  invocation.sockPtr = sockPtr ∧ invocation.next ≠ .updateConnTrackMap

def Invocation.current (sockPtr : UInt64) (invocation : Invocation) : Bool :=
  invocation.sockPtr = sockPtr ∧ invocation.superseded = false

def Probes.owed (s : Probes) (sockPtr : UInt64) : Nat :=
  s.inFlight.countP (Invocation.owes sockPtr)

/-- The event that the latest connect of a socket can still lead to. -/
def Probes.unclaimed (s : Probes) (sockPtr : UInt64) : Nat :=
  if s.bpf.trackState sockPtr = some 1 ∧ s.inFlight.countP (Invocation.current sockPtr) = 0 then
    1
  else
    0

/-- Every event emitted, owed or still possible has a connect of its own. -/
def Balanced (s : Probes) : Prop :=
  ∀ sockPtr, s.emitted.count sockPtr + s.owed sockPtr + s.unclaimed sockPtr ≤
    s.entered.count sockPtr

section Invocations
variable (sockPtr other : UInt64) (invocation : Invocation)

@[simp] theorem owes_supersede :
    (invocation.supersede other).owes sockPtr = invocation.owes sockPtr := by
  unfold Invocation.supersede
  split <;> rfl

@[simp] theorem current_supersede_other (distinct : sockPtr ≠ other) :
    (invocation.supersede other).current sockPtr = invocation.current sockPtr := by
  unfold Invocation.supersede Invocation.current
  split
  · rename_i same
    simp [same, Ne.symm distinct]
  · rfl

variable (order : ByteOrder) (s : BpfState)

theorem call_owes :
    invocation.emits.count sockPtr + (invocation.call order s).2.toList.countP
        (Invocation.owes sockPtr) =
      [invocation].countP (Invocation.owes sockPtr) := by
  unfold Invocation.emits Invocation.call Invocation.owes
  cases next : invocation.next <;> by_cases same : invocation.sockPtr = sockPtr <;>
    simp [same, next]

theorem updateConnTrackMap_trackState :
    BpfState.trackState { s with connTrackMap := s.connTrackMap.updateOrKeep sockPtr 2 } sockPtr ≠
      some 1 := by
  unfold BpfState.trackState
  dsimp only
  by_cases room : s.connTrackMap.HasRoom sockPtr
  · rw [BoundedMap.lookup_updateOrKeep_self _ _ _ room]
    decide
  · rw [BoundedMap.updateOrKeep_full _ _ _ room, BoundedMap.lookup_of_not_hasRoom _ _ room]
    exact Option.some_ne_none _ |>.symm

theorem call_trackState_one
    (one : (invocation.call order s).1.trackState sockPtr = some 1) :
    s.trackState sockPtr = some 1 ∧
      (invocation.call order s).2.toList.countP (Invocation.current sockPtr) =
        [invocation].countP (Invocation.current sockPtr) := by
  unfold Invocation.call at one ⊢
  cases next : invocation.next with
  | updateSockInfoMap =>
      rw [next] at one
      exact ⟨one, rfl⟩
  | perfEventOutput =>
      rw [next] at one
      exact ⟨one, rfl⟩
  | updateConnTrackMap =>
      rw [next] at one
      dsimp only at one ⊢
      by_cases same : sockPtr = invocation.sockPtr
      · subst same
        exact absurd one (updateConnTrackMap_trackState invocation.sockPtr s)
      · have elsewhere : invocation.current sockPtr = false := by
          simp [Invocation.current, Ne.symm same]
        have kept := BoundedMap.lookup_updateOrKeep_other s.connTrackMap invocation.sockPtr sockPtr
          2 same
        exact ⟨kept.symm.trans one, by simp [elsewhere]⟩

end Invocations

section Steps
variable (order : ByteOrder) (s next : Probes)

theorem connect_balanced (sockPtr : UInt64) (balanced : Balanced s)
    (taken : s.step order (.connect sockPtr) = some next) : Balanced next := by
  obtain rfl := Option.some.inj taken
  intro other
  have before := balanced other
  have owed : (s.inFlight.map (Invocation.supersede sockPtr)).countP (Invocation.owes other) =
      s.owed other := by
    unfold Probes.owed
    rw [List.countP_map]
    exact congrArg (fun p => s.inFlight.countP p) (funext fun x => owes_supersede other sockPtr x)
  unfold Probes.owed Probes.unclaimed at *
  dsimp only
  rw [owed]
  by_cases same : other = sockPtr
  · subst same
    rw [List.count_cons_self]
    split <;> omega
  · have current : (s.inFlight.map (Invocation.supersede sockPtr)).countP
        (Invocation.current other) = s.inFlight.countP (Invocation.current other) := by
      rw [List.countP_map]
      exact congrArg (fun p => s.inFlight.countP p)
        (funext fun x => current_supersede_other other sockPtr x same)
    rw [current, kprobeTcpV4Connect_trackState_other sockPtr other s.bpf same,
      List.count_cons_of_ne (Ne.symm same)]
    exact before

theorem lookup_balanced (sockPtr : UInt64) (sk : SockCommon) (helpers : Helpers)
    (balanced : Balanced s) (alone : LooksUpAlone s (.lookup sockPtr sk helpers))
    (taken : s.step order (.lookup sockPtr sk helpers) = some next) : Balanced next := by
  by_cases sends : Sends s.bpf sockPtr sk
  · rw [step_lookup_sends order sockPtr sk helpers s sends] at taken
    obtain rfl := Option.some.inj taken
    intro other
    have before := balanced other
    unfold Probes.owed Probes.unclaimed at *
    dsimp only
    by_cases same : other = sockPtr
    · subst same
      have superseded : s.inFlight.countP (Invocation.current other) = 0 := by
        rw [List.countP_eq_zero]
        intro invocation member
        have old := alone sends invocation member
        simpa [Invocation.current] using old
      rw [if_pos ⟨sends.1, superseded⟩] at before
      simp only [List.countP_cons, Invocation.owes, Invocation.current]
      simp
      omega
    · simp only [List.countP_cons, Invocation.owes, Invocation.current, Ne.symm same]
      simpa [Invocation.owes, Invocation.current] using before
  · rw [step_lookup_silent order sockPtr sk helpers s sends] at taken
    obtain rfl := Option.some.inj taken
    exact balanced

theorem helperCall_balanced (position : Nat) (balanced : Balanced s)
    (taken : s.step order (.helperCall position) = some next) : Balanced next := by
  unfold Probes.step at taken
  dsimp only at taken
  cases found : s.inFlight[position]? with
  | none => rw [found] at taken; cases taken
  | some invocation =>
      rw [found] at taken
      obtain rfl := Option.some.inj taken
      intro sockPtr
      have before := balanced sockPtr
      have owed := countP_settle (Invocation.owes sockPtr) s.inFlight position invocation found
        (invocation.call order s.bpf).2
      have paid := call_owes sockPtr invocation order s.bpf
      have kept := call_trackState_one sockPtr invocation order s.bpf
      have current := countP_settle (Invocation.current sockPtr) s.inFlight position invocation
        found (invocation.call order s.bpf).2
      unfold Probes.owed Probes.unclaimed at *
      dsimp only
      rw [List.count_append]
      split
      · rename_i one
        obtain ⟨tracked, same⟩ := kept one.1
        rw [if_pos ⟨tracked, by omega⟩] at before
        omega
      · omega

theorem step_balanced (event : ProbeEvent) (balanced : Balanced s)
    (alone : LooksUpAlone s event) (taken : s.step order event = some next) : Balanced next := by
  cases event with
  | connect sockPtr => exact connect_balanced order s next sockPtr balanced taken
  | lookup sockPtr sk helpers =>
      exact lookup_balanced order s next sockPtr sk helpers balanced alone taken
  | helperCall position => exact helperCall_balanced order s next position balanced taken

theorem balanced_atMostOneEventEach (balanced : Balanced s) : AtMostOneEventEach s := by
  intro sockPtr
  have sum := balanced sockPtr
  omega

end Steps

theorem loaded_balanced : Balanced Probes.loaded := by
  intro sockPtr
  have untracked : BpfState.loaded.trackState sockPtr = none := rfl
  simp [Probes.loaded, Probes.owed, Probes.unclaimed, untracked]

/-- Where no invocation looks up a socket that another one in flight has found in
state 1 since its latest connect, no socket has more events than connects. -/
theorem run_atMostOneEventEach (order : ByteOrder) (events : List ProbeEvent)
    (alone : ∀ t ∈ Probes.run order events, LooksUpAlone t.before t.event) :
    ∀ t ∈ Probes.run order events, AtMostOneEventEach t.after ∧ RunsProbe order t.after := by
  intro t taken
  have balanced := transitions_inv (Probes.step order) Balanced LooksUpAlone
    (fun s event next balanced alone taken =>
      step_balanced order s next event balanced alone taken)
    Probes.loaded loaded_balanced events alone t taken
  exact ⟨balanced_atMostOneEventEach t.after balanced.2, calls_kprobeTcpSendmsg order t.after⟩

/-- Sends on two sockets take turns; the first socket connects again while its send is
in flight, and sends once more before that one is done. -/
def sendsInTurn (first second : UInt64) (helpers : Helpers) : List ProbeEvent :=
  [.connect first, .connect second, .lookup first ipv4Sock helpers,
    .lookup second ipv4Sock helpers, .helperCall 1, .helperCall 0, .helperCall 1, .helperCall 0,
    .connect first, .lookup first ipv4Sock helpers, .helperCall 0, .helperCall 2, .helperCall 0,
    .helperCall 1, .helperCall 0]

theorem sendsInTurn_atMostOneEventEach :
    (Probes.run .little (sendsInTurn 64 128 (helpersWhere true))).length = 15 ∧
      ∀ t ∈ Probes.run .little (sendsInTurn 64 128 (helpersWhere true)),
        AtMostOneEventEach t.after ∧ RunsProbe .little t.after :=
  ⟨by decide, run_atMostOneEventEach .little _ (by decide)⟩

def sendsAtOnce (sockPtr : UInt64) (helpers : Helpers) : List ProbeEvent :=
  [.connect sockPtr, .lookup sockPtr ipv4Sock helpers, .lookup sockPtr ipv4Sock helpers,
    .helperCall 0, .helperCall 1, .helperCall 0, .helperCall 1]

theorem connection_emitted_twice :
    (∃ t ∈ Probes.run .little (sendsAtOnce 64 (helpersWhere true)),
      t.after.entered = [64] ∧ t.after.emitted = [64, 64] ∧ t.after.bpf.delivered.length = 2) ∧
    ¬ ∀ t ∈ Probes.run .little (sendsAtOnce 64 (helpersWhere true)),
      AtMostOneEventEach t.after := by
  have last : ∃ t ∈ Probes.run .little (sendsAtOnce 64 (helpersWhere true)),
      t.after.entered = [64] ∧ t.after.emitted = [64, 64] ∧ t.after.bpf.delivered.length = 2 := by
    refine ⟨_, List.mem_of_getElem? (i := 6) rfl, ?_, ?_, ?_⟩
    · decide
    · decide
    · decide
  refine ⟨last, ?_⟩
  obtain ⟨t, member, entered, emitted, _⟩ := last
  intro always
  have once := always t member 64
  rw [entered, emitted] at once
  exact absurd once (by decide)

end TlshubEbpf.Bpf
