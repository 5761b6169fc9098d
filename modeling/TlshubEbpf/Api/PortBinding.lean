import TlshubEbpf.Api.Stream

/-! # One port id for three kinds of sockets

All three API functions bind to the thread id, and a netlink port id has at most
one live socket.  `tlshub_service_init` and `tlshub_fetch_key` close their
sockets, `tlshub_handshake` keeps its own for the life of the thread.  The two
phases of a thread, before and after its first handshake, are told apart by the
live bound sockets that its trace leaves. -/

set_option autoImplicit false

namespace TlshubEbpf.Api

open TlshubEbpf.Lib TlshubEbpf.Netlink

def liveStep (live : List (Int × UInt32)) : Syscall → List (Int × UInt32)
  | .bind fd nlPid ret => if ret = 0 then (fd, nlPid) :: live else live
  | .close fd => live.filter fun bound => bound.1 ≠ fd
  | _ => live

def liveBound (calls : List Syscall) : List (Int × UInt32) := calls.foldl liveStep []

theorem liveBound_append (calls more : List Syscall) :
    liveBound (calls ++ more) = more.foldl liveStep (liveBound calls) :=
  List.foldl_append

theorem foldl_liveStep_reads (live : List (Int × UInt32)) (fd : Int) (read : List Datagram) :
    (read.map fun d => Syscall.recvfrom fd d.delivery).foldl liveStep live = live := by
  induction read with
  | nil => rfl
  | cons d read ih =>
      rw [List.map_cons, List.foldl_cons]
      exact ih

theorem foldl_liveStep_malloc (live : List (Int × UInt32)) (p : Prop) [Decidable p] :
    (if p then [Syscall.malloc true] else []).foldl liveStep live = live := by
  split <;> rfl

/-! ## The kernel module and the calls of a thread -/

structure AnsweringKernel where
  stream : Nat → Request → List Datagram
  completesInit : ∀ n request, request.body.opcode = tlsServiceInit →
    ∃ d ∈ stream n request, (serviceInitSwitch d.msgType).isSome = true
  decidesStart : ∀ n request, request.body.opcode = tlsServiceStart →
    ∃ d ∈ stream n request, (apiHandshakeSwitch d.msgType).isSome = true
  repliesToFetch : ∀ n request, request.body.opcode = tlsServiceFetch →
    ∃ first rest, stream n request = first :: rest

inductive ApiCall where
  | serviceInit (stack : MyMsg)
  | handshake (stack : MyMsg) (pods : PodTuple)
  | fetchKey (stack : MyMsg) (pods : PodTuple)

inductive ApiResult where
  | ret (ret : Int)
  | key (key : KeyBack)
  deriving DecidableEq

def ApiCall.exec (env : Env) : ApiCall → Program Thread ApiResult
  | .serviceInit stack => do
      let ret ← tlshubServiceInit env stack
      return .ret ret
  | .handshake stack pods => do
      let ret ← tlshubHandshake env stack pods
      return .ret ret
  | .fetchKey stack pods => do
      let key ← tlshubFetchKey env stack pods
      return .key key

def ApiCall.isHandshake : ApiCall → Bool
  | .handshake _ _ => true
  | _ => false

section Thread
variable (order : ByteOrder) (tid : UInt32) (kernel : AnsweringKernel)

/-- A `bind` fails exactly if a live socket is bound to the port id. -/
def portEnv : Env :=
  { streamEnv order tid kernel.stream with
    bindOk := fun calls _ nlPid => decide (nlPid ∉ (liveBound calls).map Prod.snd) }

def execCall (call : ApiCall) : Program Thread ApiResult := call.exec (portEnv order tid kernel)

def BindsSucceed (calls : List Syscall) : Prop :=
  ∀ fd nlPid ret, .bind fd nlPid ret ∈ calls → ret = 0

def ReturnsAnswer (call : ApiCall) (w : Thread) : Prop :=
  match call with
  | .fetchKey stack pods =>
      let fetch := fetchRequest (portEnv order tid kernel) stack pods
      requests (execCall order tid kernel call w).2.calls = requests w.calls ++ [fetch] ∧
        ∃ first, (kernel.stream (sendtoCount w.calls) fetch).head? = some first ∧
          (execCall order tid kernel call w).1 =
            .returned (.key (KeyBack.ofMsg order first.delivery.uInfo.msg))
  | _ => True

/-- No handshake yet: no socket is kept and none is bound. -/
structure BeforeHandshake (w : Thread) : Prop where
  unset : w.vars.gNetlinkCtx.skFd = -1
  noneBound : liveBound w.calls = []

structure AfterHandshake (w : Thread) : Prop where
  isOpen : 0 ≤ w.vars.gNetlinkCtx.skFd
  older : w.vars.gNetlinkCtx.skFd < freshFd w.calls
  bound : liveBound w.calls = [(w.vars.gNetlinkCtx.skFd, tid)]
  queue : ∃ queue : List Datagram,
    w.inbox w.vars.gNetlinkCtx.skFd = queue.map Datagram.delivery

theorem bindOk_before (w : Thread) (before : BeforeHandshake w) :
    (portEnv order tid kernel).bindOk w.opened.calls (freshFd w.calls)
      (portEnv order tid kernel).tid = true := by
  simp [portEnv, liveBound_append, before.noneBound, liveStep]

theorem bindOk_after (w : Thread) (after : AfterHandshake tid w) :
    (portEnv order tid kernel).bindOk w.opened.calls (freshFd w.calls)
      (portEnv order tid kernel).tid = false := by
  simp [portEnv, liveBound_append, after.bound, liveStep]

theorem portEnv_peer (calls : List Syscall) (fd : Int) (dest : SockaddrNl) (request : Request) :
    (portEnv order tid kernel).peer calls fd dest request =
      (.sent requestLen.toNat,
        (kernel.stream (sendtoCount calls) request).map Datagram.delivery) := rfl

def Returns (call : ApiCall) (w : Thread) (post : List Syscall → Thread → Prop) : Prop :=
  ∃ value w' made, execCall order tid kernel call w = (.returned value, w') ∧
    w'.calls = w.calls ++ made ∧ post made w'

theorem bindsSucceed_append (calls more : List Syscall) :
    BindsSucceed (calls ++ more) ↔ BindsSucceed calls ∧ BindsSucceed more := by
  simp only [BindsSucceed, List.mem_append]
  constructor
  · intro succeed
    exact ⟨fun fd nlPid ret member => succeed fd nlPid ret (Or.inl member),
      fun fd nlPid ret member => succeed fd nlPid ret (Or.inr member)⟩
  · rintro ⟨first, last⟩ fd nlPid ret (inCalls | inMore)
    · exact first fd nlPid ret inCalls
    · exact last fd nlPid ret inMore

theorem serviceInit_before (stack : MyMsg) (w : Thread) (before : BeforeHandshake w) :
    Returns order tid kernel (.serviceInit stack) w fun made w' =>
      BindsSucceed made ∧ BeforeHandshake w' := by
  obtain ⟨read, stop, rest, answer, halts, passes⟩ :=
    exists_first_stop (fun d : Datagram => (serviceInitSwitch d.msgType).isSome) _
      (kernel.completesInit (sendtoCount w.calls)
        (serviceInitRequest (portEnv order tid kernel) stack) rfl)
  obtain ⟨verdict, stop_verdict⟩ := Option.isSome_iff_exists.mp halts
  have count : sendtoCount (serviceInitReady (portEnv order tid kernel) w).calls =
      sendtoCount w.calls := by
    simp [serviceInitReady, boundSocket, sendtoCount]
  have ran := tlshubServiceInit_answered (portEnv order tid kernel) stack w read rest stop verdict
    rfl (bindOk_before order tid kernel w before) rfl
    (by rw [portEnv_peer, count, answer])
    (fun d member => by simpa using passes d member) stop_verdict
  have returned : execCall order tid kernel (.serviceInit stack) w = (.returned (.ret verdict),
      afterServiceInit (portEnv order tid kernel) w
        (serviceInitRequest (portEnv order tid kernel) stack) read stop) := by
    simp only [execCall, ApiCall.exec, Program.bind_apply, ran]
    rfl
  have calls : (afterServiceInit (portEnv order tid kernel) w
      (serviceInitRequest (portEnv order tid kernel) stack) read stop).calls =
        w.calls ++ ([.socket (freshFd w.calls), .bind (freshFd w.calls) tid 0, .malloc true,
          .sendto (freshFd w.calls) kernelAddr
            (serviceInitRequest (portEnv order tid kernel) stack) (.sent requestLen.toNat)] ++
          ((read ++ [stop]).map fun d => .recvfrom (freshFd w.calls) d.delivery) ++
          [.close (freshFd w.calls)]) := by
    simp [afterServiceInit, serviceInitReady, boundSocket, portEnv]
  refine ⟨_, _, _, returned, calls, ?_, before.unset, ?_⟩
  · simp [BindsSucceed]
  · rw [calls, liveBound_append, before.noneBound]
    simp [liveStep, foldl_liveStep_reads]

theorem fetchKey_before (stack : MyMsg) (pods : PodTuple) (w : Thread)
    (before : BeforeHandshake w) :
    (Returns order tid kernel (.fetchKey stack pods) w fun made w' =>
      BindsSucceed made ∧ BeforeHandshake w') ∧
      ReturnsAnswer order tid kernel (.fetchKey stack pods) w := by
  obtain ⟨first, rest, answer⟩ := kernel.repliesToFetch (sendtoCount w.calls)
    (fetchRequest (portEnv order tid kernel) stack pods) rfl
  have count : sendtoCount ((boundSocket (portEnv order tid kernel) w).calls ++ [.malloc true]) =
      sendtoCount w.calls := by
    simp [boundSocket, sendtoCount]
  have ran := tlshubFetchKey_answered (portEnv order tid kernel) stack pods w first rest rfl
    (bindOk_before order tid kernel w before) rfl (by rw [portEnv_peer, count, answer])
  have returned : execCall order tid kernel (.fetchKey stack pods) w =
      (.returned (.key (KeyBack.ofMsg order first.delivery.uInfo.msg)),
        afterFetch (portEnv order tid kernel) w
          (fetchRequest (portEnv order tid kernel) stack pods) first) := by
    simp only [execCall, ApiCall.exec, Program.bind_apply, ran]
    rfl
  have calls : (afterFetch (portEnv order tid kernel) w
      (fetchRequest (portEnv order tid kernel) stack pods) first).calls =
        w.calls ++ [.socket (freshFd w.calls), .bind (freshFd w.calls) tid 0, .malloc true,
          .sendto (freshFd w.calls) kernelAddr
            (fetchRequest (portEnv order tid kernel) stack pods) (.sent requestLen.toNat),
          .recvfrom (freshFd w.calls) first.delivery, .close (freshFd w.calls)] := by
    simp [afterFetch, boundSocket, portEnv]
  constructor
  · refine ⟨_, _, _, returned, calls, ?_, before.unset, ?_⟩
    · simp [BindsSucceed]
    · rw [calls, liveBound_append, before.noneBound]
      simp [liveStep]
  · refine ⟨?_, first, by rw [answer]; rfl, by rw [returned]⟩
    rw [returned, calls, requests_append]
    rfl

theorem handshakeCtx_before (w : Thread) (before : BeforeHandshake w) :
    (handshakeCtx (portEnv order tid kernel) w).skFd = freshFd w.calls := by
  simp [handshakeCtx, before.unset]

theorem handshakeCtx_after (w : Thread) (after : AfterHandshake tid w) :
    (handshakeCtx (portEnv order tid kernel) w).skFd = w.vars.gNetlinkCtx.skFd := by
  have nonneg := after.isOpen
  simp only [handshakeCtx]
  rw [if_neg (by omega)]

theorem skFd_of_phase (w : Thread) (phase : BeforeHandshake w ∨ AfterHandshake tid w) :
    -1 ≤ w.vars.gNetlinkCtx.skFd := by
  cases phase with
  | inl before => exact Int.le_of_eq before.unset.symm
  | inr after =>
      have nonneg := after.isOpen
      omega

/-- The kernel decides a handshake, in front of whatever the kept socket still holds. -/
theorem handshake_returns (stack : MyMsg) (pods : PodTuple) (w : Thread)
    (phase : BeforeHandshake w ∨ AfterHandshake tid w) :
    ∃ verdict read rest stop, execCall order tid kernel (.handshake stack pods) w =
      (.returned (.ret verdict), afterHandshake (portEnv order tid kernel) w
        (handshakeRequest (portEnv order tid kernel) w stack pods) read rest stop) := by
  have isOpen := skFd_of_phase tid w phase
  have socketOk : HandshakeSocketOk (portEnv order tid kernel) w := by
    intro unset
    rcases phase with before | after
    · exact ⟨rfl, bindOk_before order tid kernel w before⟩
    · have nonneg := after.isOpen
      omega
  obtain ⟨queue, inboxEq⟩ : ∃ queue : List Datagram,
      (handshakeReady (portEnv order tid kernel) w).inbox
        (handshakeCtx (portEnv order tid kernel) w).skFd = queue.map Datagram.delivery := by
    rw [handshakeReady_inbox]
    rcases phase with before | after
    · exact ⟨[], if_pos before.unset⟩
    · obtain ⟨queue, inboxEq⟩ := after.queue
      have nonneg := after.isOpen
      exact ⟨queue, (if_neg (by omega)).trans inboxEq⟩
  obtain ⟨d, member, decides⟩ := kernel.decidesStart (sendtoCount w.calls)
    (handshakeRequest (portEnv order tid kernel) w stack pods) rfl
  obtain ⟨read, stop, rest, answer, halts, passes⟩ :=
    exists_first_stop (fun d : Datagram => (apiHandshakeSwitch d.msgType).isSome)
      (queue ++ kernel.stream (sendtoCount w.calls)
        (handshakeRequest (portEnv order tid kernel) w stack pods))
      ⟨d, List.mem_append_right queue member, decides⟩
  obtain ⟨verdict, stop_verdict⟩ := Option.isSome_iff_exists.mp halts
  have ran := tlshubHandshake_answered (portEnv order tid kernel) _ stack pods w read rest stop
    verdict isOpen socketOk (fun _ => rfl)
    (by rw [portEnv_peer, sendtoCount_handshakeReady])
    (by rw [inboxEq, ← List.map_append, answer])
    (fun d member => by simpa using passes d member) stop_verdict
  refine ⟨verdict, read, rest, stop, ?_⟩
  simp only [execCall, ApiCall.exec, Program.bind_apply, ran]
  rfl

theorem handshake_step (stack : MyMsg) (pods : PodTuple) (w : Thread)
    (phase : BeforeHandshake w ∨ AfterHandshake tid w) :
    Returns order tid kernel (.handshake stack pods) w fun made w' =>
      BindsSucceed made ∧ AfterHandshake tid w' := by
  obtain ⟨verdict, read, rest, stop, returned⟩ :=
    handshake_returns order tid kernel stack pods w phase
  have calls : (afterHandshake (portEnv order tid kernel) w
      (handshakeRequest (portEnv order tid kernel) w stack pods) read rest stop).calls =
        w.calls ++ (handshakeSetup (portEnv order tid kernel) w ++
          .sendto (handshakeCtx (portEnv order tid kernel) w).skFd
            (handshakeCtx (portEnv order tid kernel) w).daddr
            (handshakeRequest (portEnv order tid kernel) w stack pods) (.sent requestLen.toNat) ::
          (read ++ [stop]).map fun d =>
            .recvfrom (handshakeCtx (portEnv order tid kernel) w).skFd d.delivery) := by
    simp only [afterHandshake, handshakeReady, List.append_assoc]
  obtain ⟨fd, daddr, ctxEq, nonneg⟩ := handshakeCtx_eq (portEnv order tid kernel) w
    (skFd_of_phase tid w phase)
  refine ⟨_, _, _, returned, calls, ?_, ?_, ?_, ?_, rest, Function.update_self ..⟩
  · simp only [BindsSucceed, handshakeSetup, handshakeSocket]
    split <;> split <;> simp
  · simp only [afterHandshake, ctxEq]
    exact nonneg
  · rw [calls]
    rcases phase with before | after
    · simp only [afterHandshake, handshakeCtx_before order tid kernel w before]
      apply freshFd_lt _ _ (freshFd w.calls)
      simp [handshakeSetup, handshakeSocket, before.unset]
    · have older := after.older
      simp only [afterHandshake, handshakeCtx_after order tid kernel w after, freshFd_append]
      omega
  · rw [calls, liveBound_append, List.foldl_append, List.foldl_cons, handshakeSetup,
      List.foldl_append]
    simp only [liveStep, foldl_liveStep_reads, foldl_liveStep_malloc, afterHandshake]
    rcases phase with before | after
    · rw [handshakeCtx_before order tid kernel w before, before.noneBound, handshakeSocket,
        if_pos before.unset]
      rfl
    · have nonneg := after.isOpen
      rw [handshakeCtx_after order tid kernel w after, after.bound, handshakeSocket,
        if_neg (by omega)]
      rfl

theorem other_after (call : ApiCall) (other : call.isHandshake = false) (w : Thread)
    (after : AfterHandshake tid w) :
    Returns order tid kernel call w fun made w' =>
      ¬ BindsSucceed made ∧ AfterHandshake tid w' := by
  have refused := bindOk_after order tid kernel w after
  have returned : ∃ value, execCall order tid kernel call w = (.returned value,
      (w.opened.afterCall (.bind (freshFd w.calls) tid (-1))).closed (freshFd w.calls)) := by
    cases call with
    | serviceInit stack =>
        refine ⟨.ret (-1), ?_⟩
        simp only [execCall, ApiCall.exec, Program.bind_apply,
          tlshubServiceInit_not_bound _ stack w rfl refused]
        rfl
    | handshake stack pods => contradiction
    | fetchKey stack pods =>
        refine ⟨.key KeyBack.zeroed, ?_⟩
        simp only [execCall, ApiCall.exec, Program.bind_apply,
          tlshubFetchKey_no_ctx _ stack pods w _ _
            (netlinkCtxInit_not_bound _ NetlinkCtx.initial w rfl rfl refused)]
        rfl
  obtain ⟨value, returned⟩ := returned
  have calls : ((w.opened.afterCall (.bind (freshFd w.calls) tid (-1))).closed
      (freshFd w.calls)).calls =
        w.calls ++ [.socket (freshFd w.calls), .bind (freshFd w.calls) tid (-1),
          .close (freshFd w.calls)] := by
    simp
  have older := after.older
  have apart : w.vars.gNetlinkCtx.skFd ≠ freshFd w.calls := by omega
  refine ⟨value, _, _, returned, calls, ?_, after.isOpen, ?_, ?_, ?_⟩
  · intro succeed
    have zero := succeed (freshFd w.calls) tid (-1) (by simp)
    contradiction
  · rw [calls]
    exact Int.lt_trans older (freshFd_lt _ _ (freshFd w.calls) (by simp))
  · rw [calls, liveBound_append, after.bound]
    simp [liveStep, apart]
  · obtain ⟨queue, inboxEq⟩ := after.queue
    refine ⟨queue, ?_⟩
    simp [apart, inboxEq]

/-! ## Whole sequences of calls -/

def RunSucceeds (calls : List ApiCall) (w : Thread) : Prop :=
  BindsSucceed (Program.runAll (execCall order tid kernel) calls w).2.calls ∧
    ∀ entry ∈ Program.history (execCall order tid kernel) calls w,
      ReturnsAnswer order tid kernel entry.1 entry.2

def OnlyHandshakesFollow (calls : List ApiCall) : Prop :=
  calls.Pairwise fun earlier later => earlier.isHandshake = true → later.isHandshake = true

theorem onlyHandshakesFollow_handshake (stack : MyMsg) (pods : PodTuple) (rest : List ApiCall) :
    OnlyHandshakesFollow (.handshake stack pods :: rest) ↔
      ∀ call ∈ rest, call.isHandshake = true := by
  rw [OnlyHandshakesFollow, List.pairwise_cons]
  constructor
  · intro pairs call member
    exact pairs.1 call member rfl
  · intro all
    refine ⟨fun call member _ => all call member, ?_⟩
    apply List.pairwise_of_forall_mem_list
    intro earlier _ later inRest _
    exact all later inRest

theorem runSucceeds_cons (call : ApiCall) (rest : List ApiCall) (w w' : Thread)
    (value : ApiResult)
    (returned : execCall order tid kernel call w = (.returned value, w')) :
    RunSucceeds order tid kernel (call :: rest) w ↔
      ReturnsAnswer order tid kernel call w ∧ RunSucceeds order tid kernel rest w' := by
  simp only [RunSucceeds, Program.runAll_cons_returned _ call rest w w' value returned]
  constructor
  · rintro ⟨binds, answers⟩
    refine ⟨answers (call, w) ((Program.mem_history_cons _ _ _ _ _).mpr (Or.inl rfl)), binds, ?_⟩
    intro entry member
    exact answers entry
      ((Program.mem_history_cons _ _ _ _ _).mpr (Or.inr ⟨value, w', returned, member⟩))
  · rintro ⟨here, binds, answers⟩
    refine ⟨binds, ?_⟩
    intro entry member
    rcases (Program.mem_history_cons _ _ _ _ _).mp member with rfl | ⟨value', next, ran, inRest⟩
    · exact here
    · rw [returned] at ran
      cases ran
      exact answers entry inRest

theorem runSucceeds_after (calls : List ApiCall) : ∀ w : Thread, AfterHandshake tid w →
    (RunSucceeds order tid kernel calls w ↔
      BindsSucceed w.calls ∧ ∀ call ∈ calls, call.isHandshake = true) := by
  induction calls with
  | nil => intro w _; simp [RunSucceeds, Program.runAll, Program.history]
  | cons call rest ih =>
      intro w after
      cases kind : call.isHandshake with
      | true =>
          obtain ⟨stack, pods, rfl⟩ : ∃ stack pods, call = .handshake stack pods := by
            cases call with
            | handshake stack pods => exact ⟨stack, pods, rfl⟩
            | serviceInit stack => contradiction
            | fetchKey stack pods => contradiction
          obtain ⟨value, w', made, returned, made_eq, succeed, after'⟩ :=
            handshake_step order tid kernel stack pods w (Or.inr after)
          rw [runSucceeds_cons order tid kernel _ rest w w' value returned, ih w' after', made_eq,
            bindsSucceed_append]
          simp [ReturnsAnswer, succeed, kind]
      | false =>
          obtain ⟨value, w', made, returned, made_eq, failed, after'⟩ :=
            other_after order tid kernel call kind w after
          rw [runSucceeds_cons order tid kernel _ rest w w' value returned, ih w' after', made_eq,
            bindsSucceed_append]
          simp [failed, kind]

theorem runSucceeds_before (calls : List ApiCall) : ∀ w : Thread, BeforeHandshake w →
    (RunSucceeds order tid kernel calls w ↔
      BindsSucceed w.calls ∧ OnlyHandshakesFollow calls) := by
  induction calls with
  | nil =>
      intro w _
      simp [RunSucceeds, Program.runAll, Program.history, OnlyHandshakesFollow]
  | cons call rest ih =>
      intro w before
      cases call with
      | serviceInit stack =>
          obtain ⟨value, w', made, returned, made_eq, succeed, before'⟩ :=
            serviceInit_before order tid kernel stack w before
          rw [runSucceeds_cons order tid kernel _ rest w w' value returned, ih w' before',
            made_eq, bindsSucceed_append]
          simp [ReturnsAnswer, succeed, OnlyHandshakesFollow, ApiCall.isHandshake]
      | fetchKey stack pods =>
          obtain ⟨⟨value, w', made, returned, made_eq, succeed, before'⟩, answer⟩ :=
            fetchKey_before order tid kernel stack pods w before
          rw [runSucceeds_cons order tid kernel _ rest w w' value returned, ih w' before',
            made_eq, bindsSucceed_append]
          simp [answer, succeed, OnlyHandshakesFollow, ApiCall.isHandshake]
      | handshake stack pods =>
          obtain ⟨value, w', made, returned, made_eq, succeed, after⟩ :=
            handshake_step order tid kernel stack pods w (Or.inl before)
          rw [runSucceeds_cons order tid kernel _ rest w w' value returned,
            runSucceeds_after order tid kernel rest w' after, made_eq, bindsSucceed_append]
          rw [onlyHandshakesFollow_handshake]
          simp [ReturnsAnswer, succeed]

/-- From a new thread every bind succeeds and every fetch returns the kernel's
answer exactly if only handshakes follow the first handshake. -/
theorem run_succeeds_iff_only_handshakes_follow (calls : List ApiCall) :
    RunSucceeds order tid kernel calls (World.start ApiVars.initial) ↔
      OnlyHandshakesFollow calls := by
  have before : BeforeHandshake (World.start ApiVars.initial) := ⟨rfl, rfl⟩
  have noBinds : BindsSucceed (World.start ApiVars.initial).calls := by
    intro fd nlPid ret member
    contradiction
  rw [runSucceeds_before order tid kernel calls _ before]
  exact and_iff_right noBinds

end Thread

def promptKernel : AnsweringKernel where
  stream := fun _ request =>
    if request.body.opcode = tlsServiceInit then [Datagram.bare 0x07]
    else if request.body.opcode = tlsServiceStart then [Datagram.bare 0x01]
    else [Datagram.keyed kernelAddr 0 7]
  completesInit := by
    intro n request opcode
    rw [if_pos opcode]
    exact ⟨Datagram.bare 0x07, by simp, by decide⟩
  decidesStart := by
    intro n request opcode
    rw [if_neg (by rw [opcode]; decide), if_pos opcode]
    exact ⟨Datagram.bare 0x01, by simp, by decide⟩
  repliesToFetch := by
    intro n request opcode
    rw [if_neg (by rw [opcode]; decide), if_neg (by rw [opcode]; decide)]
    exact ⟨_, _, rfl⟩

/-- The documented order of calls: the fetch cannot bind and reports a key of zeros. -/
theorem fetchKey_fails_after_handshake :
    (Program.runAll (execCall .little 42 promptKernel)
        [.handshake .zeroed ⟨1, 2, 3, 4⟩, .fetchKey .zeroed ⟨1, 2, 3, 4⟩]
        (World.start ApiVars.initial)).1.map Prod.snd =
      [.returned (.ret 0), .returned (.key ⟨0, Vector.replicate 32 0⟩)] ∧
    ¬ RunSucceeds .little 42 promptKernel
      [.handshake .zeroed ⟨1, 2, 3, 4⟩, .fetchKey .zeroed ⟨1, 2, 3, 4⟩]
      (World.start ApiVars.initial) := by
  refine ⟨by decide, ?_⟩
  rintro ⟨binds, _⟩
  have failed : Syscall.bind 4 42 (-1) ∈ (Program.runAll (execCall .little 42 promptKernel)
      [.handshake .zeroed ⟨1, 2, 3, 4⟩, .fetchKey .zeroed ⟨1, 2, 3, 4⟩]
      (World.start ApiVars.initial)).2.calls := by decide
  have zero := binds 4 42 (-1) failed
  contradiction

end TlshubEbpf.Api
