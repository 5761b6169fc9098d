import TlshubEbpf.Capture.ProviderLifecycle
import TlshubEbpf.Lib.Triple

/-! # One initialisation of the key provider and the cleanup after it

None of the operations crashes or ends the process; they return or wait for a message.
Whatever the initialisation returns and whatever keys are asked for afterwards, a cleanup
leaves neither a socket nor an `SSL_CTX`. -/

set_option autoImplicit false

namespace TlshubEbpf.Capture

open Lib Netlink Program

theorem returnsOrWaits_recvfrom {S : Type} (fd : Int) (addr : SockaddrNl → S → S) :
    ReturnsOrWaits (recvfrom fd addr) := by
  intro w _
  unfold recvfrom
  cases w.inbox fd with
  | nil => trivial
  | cons d rest => trivial

theorem returnsOrWaits_waitLoop {S : Type} (fd : Int) (addr : SockaddrNl → S → S)
    (onEmpty : Program (World S) Int) (switch : UInt8 → Option Int)
    (finish : Int → Program (World S) Int) (empty : ReturnsOrWaits onEmpty)
    (finished : ∀ verdict, ReturnsOrWaits (finish verdict)) :
    ReturnsOrWaits (waitLoop fd addr onEmpty switch finish) := by
  apply returnsOrWaits_whileTrue
  refine returnsOrWaits_bind _ _ (returnsOrWaits_recvfrom fd addr) fun result => ?_
  refine returnsOrWaits_ite _ _ _ ?_ ?_
  · exact returnsOrWaits_bind _ _ empty fun stop => returnsOrWaits_pure (some stop)
  · cases switch result.2.msgType with
    | none => exact returnsOrWaits_pure none
    | some verdict =>
        exact returnsOrWaits_bind _ _ (finished verdict) fun stop =>
          returnsOrWaits_pure (some stop)

theorem returnsOrWaits_socket (env : Env) :
    ReturnsOrWaits (socket env : Program Client Int) := by
  intro w _
  unfold socket
  split <;> trivial

theorem returnsOrWaits_closeNetlinkSock : ReturnsOrWaits closeNetlinkSock := by
  intro w _
  rw [closeNetlinkSock_apply]
  trivial

theorem returnsOrWaits_clientInit (env : Env) : ReturnsOrWaits (tlshubClientInit env) := by
  have closed := returnsOrWaits_closeNetlinkSock
  unfold tlshubClientInit
  refine returnsOrWaits_bind _ _ (returnsOrWaits_socket env) fun sock => ?_
  refine returnsOrWaits_bind _ _ (returnsOrWaits_modify _) fun _ => ?_
  refine returnsOrWaits_ite _ _ _ (returnsOrWaits_pure _) ?_
  refine returnsOrWaits_bind _ _ (fun _ _ => trivial) fun bound => ?_
  refine returnsOrWaits_ite _ _ _ closed ?_
  refine returnsOrWaits_bind _ _ (returnsOrWaits_modify _) fun _ => ?_
  refine returnsOrWaits_bind _ _ (fun _ _ => trivial) fun nlh => ?_
  refine returnsOrWaits_ite _ _ _ closed ?_
  refine returnsOrWaits_bind _ _ (returnsOrWaits_get _) fun dest => ?_
  refine returnsOrWaits_bind _ _ (fun _ _ => trivial) fun ret => ?_
  exact returnsOrWaits_ite _ _ _ closed
    (returnsOrWaits_waitLoop _ _ _ _ _ closed fun verdict => returnsOrWaits_pure verdict)

theorem returnsOrWaits_fetchKey (env : Env) (tuple : Option FlowTuple)
    (keyInfo : Option TlsKeyInfo) : ReturnsOrWaits (tlshubFetchKey env tuple keyInfo) := by
  have failed : ReturnsOrWaits (pure ((-1 : Int), keyInfo) : Program Client _) :=
    returnsOrWaits_pure _
  unfold tlshubFetchKey
  refine returnsOrWaits_bind _ _ (returnsOrWaits_get _) fun sock => ?_
  split
  · refine returnsOrWaits_ite _ _ _ failed ?_
    refine returnsOrWaits_bind _ _ (fun _ _ => trivial) fun nlh => ?_
    refine returnsOrWaits_ite _ _ _ failed ?_
    refine returnsOrWaits_bind _ _ (returnsOrWaits_get _) fun dest => ?_
    refine returnsOrWaits_bind _ _ (fun _ _ => trivial) fun ret => ?_
    refine returnsOrWaits_ite _ _ _ failed ?_
    refine returnsOrWaits_bind _ _ (returnsOrWaits_recvfrom _ _) fun read => ?_
    refine returnsOrWaits_ite _ _ _ failed ?_
    exact returnsOrWaits_ite _ _ _ failed (returnsOrWaits_pure _)
  · exact failed

theorem returnsOrWaits_handshake (env : Env) (tuple : Option FlowTuple) :
    ReturnsOrWaits (tlshubHandshake env tuple) := by
  have failed : ReturnsOrWaits (pure (-1 : Int) : Program Client _) := returnsOrWaits_pure _
  have buffer : ReturnsOrWaits (handshakeBuffer env) := by
    unfold handshakeBuffer
    refine returnsOrWaits_bind _ _ (returnsOrWaits_get _) fun kept => ?_
    refine returnsOrWaits_ite _ _ _ (returnsOrWaits_pure _) ?_
    refine returnsOrWaits_bind _ _ (fun _ _ => trivial) fun nlh => ?_
    exact returnsOrWaits_bind _ _ (returnsOrWaits_modify _) fun _ => returnsOrWaits_pure _
  unfold tlshubHandshake
  refine returnsOrWaits_bind _ _ (returnsOrWaits_get _) fun sock => ?_
  split
  · refine returnsOrWaits_ite _ _ _ failed ?_
    refine returnsOrWaits_bind _ _ buffer fun nlh => ?_
    refine returnsOrWaits_ite _ _ _ failed ?_
    refine returnsOrWaits_bind _ _ (returnsOrWaits_get _) fun dest => ?_
    refine returnsOrWaits_bind _ _ (fun _ _ => trivial) fun ret => ?_
    exact returnsOrWaits_ite _ _ _ failed
      (returnsOrWaits_waitLoop _ _ _ _ _ failed fun verdict => returnsOrWaits_pure verdict)
  · exact failed

theorem returnsOrWaits_opensslGetKey (sslCtx : Option Int) (answers : SslAnswers)
    (tuple : FlowTuple) (info : TlsKeyInfo) :
    ReturnsOrWaits (opensslGetKey sslCtx answers tuple info) := by
  have failed : ReturnsOrWaits (pure ((-1 : Int), some info) : Program Client _) :=
    returnsOrWaits_pure _
  unfold opensslGetKey
  refine returnsOrWaits_ite _ _ _ failed ?_
  refine returnsOrWaits_ite _ _ _ failed ?_
  exact returnsOrWaits_ite _ _ _ failed (returnsOrWaits_pure _)

theorem returnsOrWaits_onClient {α : Type} (p : Program Client α) (inside : ReturnsOrWaits p) :
    ReturnsOrWaits (onClient p) := by
  intro s _
  have met := inside s.client trivial
  unfold onClient
  rcases ran : p s.client with ⟨outcome, client⟩
  rw [ran] at met
  exact met.carry fun _ _ _ => trivial

theorem returnsOrWaits_providerGetKey (env : Env) (answers : SslAnswers)
    (tuple : Option FlowTuple) (keyInfo : Option TlsKeyInfo) :
    ReturnsOrWaits (providerGetKey env answers tuple keyInfo) := by
  intro s holds
  refine returnsOrWaits_onClient _ ?_ s holds
  unfold keyProviderGetKey
  split
  · cases s.currentMode with
    | tlshub =>
        refine returnsOrWaits_bind _ _ (returnsOrWaits_fetchKey env _ _) fun fetched => ?_
        refine returnsOrWaits_ite _ _ _ ?_ (returnsOrWaits_pure _)
        refine returnsOrWaits_bind _ _ (returnsOrWaits_handshake env _) fun verdict => ?_
        refine returnsOrWaits_ite _ _ _ (returnsOrWaits_pure _) ?_
        refine returnsOrWaits_bind _ _ (returnsOrWaits_fetchKey env _ _) fun refetched => ?_
        exact returnsOrWaits_ite _ _ _ (returnsOrWaits_pure _) (returnsOrWaits_pure _)
    | openssl => exact returnsOrWaits_opensslGetKey _ _ _ _
    | boringssl => exact returnsOrWaits_opensslGetKey _ _ _ _
    | unknown value => exact returnsOrWaits_pure _
  · exact returnsOrWaits_pure _

theorem returnsOrWaits_keyProviderInit (env : Env) (ctxNew : Bool) (mode : KeyProviderMode) :
    ReturnsOrWaits (keyProviderInit env ctxNew mode) := by
  have sslCtx : ReturnsOrWaits (initSslCtx ctxNew) := by
    unfold initSslCtx
    refine returnsOrWaits_bind _ _ ?_ fun ctx =>
      returnsOrWaits_ite _ _ _ (returnsOrWaits_pure _) (returnsOrWaits_pure _)
    cases ctxNew <;> exact fun _ _ => trivial
  unfold keyProviderInit
  refine returnsOrWaits_bind _ _ (returnsOrWaits_modify _) fun _ => ?_
  cases mode with
  | tlshub => exact returnsOrWaits_onClient _ (returnsOrWaits_clientInit env)
  | openssl => exact sslCtx
  | boringssl => exact sslCtx
  | unknown value => exact returnsOrWaits_pure _

theorem closeNetlinkSock_holding (w w' : Client) (fd ret : Int) (held : List Int)
    (before : clientHolding w = (fd, fd :: held))
    (ran : closeNetlinkSock w = (.returned ret, w')) : clientHolding w' = (-1, held) := by
  obtain ⟨sock, opened⟩ := Prod.mk.inj before
  rw [closeNetlinkSock_apply] at ran
  rw [← (Prod.mk.inj ran).2]
  simp [clientHolding, holding, sock, opened]

theorem tlshubClientInit_fails (env : Env) (w w' : Client) (ret : Int)
    (ran : tlshubClientInit env w = (.returned ret, w')) (failed : ret ≠ 0) :
    clientHolding w' = (-1, openSockets w.calls) := by
  have isOpen : ¬ freshFd w.calls < 0 := by
    have nonneg := freshFd_nonneg w.calls
    omega
  cases created : env.socketOk w.calls with
  | false =>
      simp [tlshubClientInit, Program.bind_apply, socket_refused env w created,
        setNetlinkSock] at ran
      rw [← ran.2]
      simp [clientHolding, holding, openSockets, trackOpen]
  | true =>
      cases granted : env.bindOk (w.calls ++ [.socket (freshFd w.calls)]) (freshFd w.calls)
        env.tid with
      | false =>
          simp [tlshubClientInit, Program.bind_apply, socket_created env w created,
            setNetlinkSock, isOpen, Netlink.bind, granted, closeNetlinkSock_apply] at ran
          rw [← ran.2]
          simp [clientHolding, holding, openSockets, trackOpen, freshFd_nonneg]
      | true =>
          cases allocated : env.mallocOk (w.calls ++
            [.socket (freshFd w.calls), .bind (freshFd w.calls) env.tid 0]) with
          | false =>
              simp [tlshubClientInit, Program.bind_apply, socket_created env w created,
                setNetlinkSock, isOpen, Netlink.bind, granted, malloc, allocated,
                closeNetlinkSock_apply] at ran
              rw [← ran.2]
              simp [clientHolding, holding, openSockets, trackOpen, freshFd_nonneg]
          | true =>
              have ready : clientHolding (clientInitReady env w) =
                  (freshFd w.calls, freshFd w.calls :: openSockets w.calls) := by
                simp [clientHolding, holding, clientInitReady, clientInitSetup, openSockets,
                  trackOpen, freshFd_nonneg]
              have sent : clientHolding ((clientInitReady env w).afterSendto env
                  (freshFd w.calls) kernelAddr (initRequest env)) = _ :=
                (keeps_sendto ClientVars.netlinkSock env (freshFd w.calls) kernelAddr
                  (initRequest env) (clientInitReady env w)).trans ready
              rw [tlshubClientInit_exchange env w created granted allocated] at ran
              split at ran
              · exact closeNetlinkSock_holding _ w' _ ret _ sent ran
              · obtain ⟨read, stop, rest, _, halts, _, left⟩ :=
                  waitLoop_returned _ _ _ _ _ _ _ _ ran
                split at left
                · have received := (holding_afterReads ClientVars.netlinkSock (freshFd w.calls)
                    storeDestAddr storeDestAddr_netlinkSock _ (read ++ [stop]) rest).trans sent
                  exact closeNetlinkSock_holding _ w' _ ret _ received left
                · rename_i nonzero
                  rw [Program.pure_apply] at left
                  have verdict := (Prod.mk.inj left).1
                  exfalso
                  apply failed
                  have decided : (clientInitSwitch stop.uInfo.msgType).isSome := by
                    simpa [stops, nonzero] using halts
                  unfold clientInitSwitch at verdict decided
                  split at verdict
                  · exact (Outcome.returned.inj verdict).symm
                  · rename_i other
                    rw [if_neg other] at decided
                    cases decided

/-! ## Cleanup -/

/-- The resource of the current mode is acquired once at most, and the other one not. -/
def Provider.Closable (p : Provider) : Prop :=
  ∀ r, ∃ times, (p.slot r).Acquired times ∧ times ≤ 1 ∧
    (p.currentMode.resource ≠ some r → times = 0)

theorem slot_vacant (slot : Slot Int) (stored : slot.stored = none) (opened : slot.opened = []) :
    slot.Acquired 0 where
  opened := by rw [opened]; rfl
  stored := Or.inl stored
  holds_iff := by
    constructor
    · rintro ⟨handle, held, _⟩
      rw [stored] at held
      cases held
    · exact fun absurdity => absurd rfl absurdity

theorem closable_of_vacant (p : Provider) (stored : ∀ r, (p.slot r).stored = none)
    (opened : ∀ r, (p.slot r).opened = []) : p.Closable :=
  fun r => ⟨0, slot_vacant _ (stored r) (opened r), Nat.zero_le 1, fun _ => rfl⟩

theorem start_vacant (r : Resource) :
    (Provider.start.slot r).stored = none ∧ (Provider.start.slot r).opened = [] := by
  cases r <;> exact ⟨rfl, rfl⟩

theorem keyProviderInit_fails (env : Env) (ctxNew : Bool) (mode : KeyProviderMode)
    (s' : Provider) (ret : Int)
    (ran : keyProviderInit env ctxNew mode Provider.start = (.returned ret, s'))
    (failed : ret ≠ 0) (r : Resource) :
    (s'.slot r).stored = none ∧ (s'.slot r).opened = [] := by
  unfold keyProviderInit at ran
  rw [Program.bind_apply, Program.modify_apply] at ran
  have sslFails : ∀ s : Provider, s.slot = Provider.start.slot →
      initSslCtx ctxNew s = (.returned ret, s') →
        (s'.slot r).stored = none ∧ (s'.slot r).opened = [] := by
    intro s same left
    cases ctxNew with
    | true =>
        simp only [initSslCtx, sslCtxNew, Program.bind_apply, if_true, reduceCtorEq, if_false,
          Program.pure_apply, Prod.mk.injEq, Outcome.returned.injEq] at left
        exact absurd left.1.symm failed
    | false =>
        simp only [initSslCtx, sslCtxNew, Program.bind_apply, Bool.false_eq_true, if_false,
          if_true, Program.pure_apply, Prod.mk.injEq] at left
        rw [← left.2]
        have kept := congrFun same r
        cases r with
        | netlinkSocket => exact kept ▸ start_vacant .netlinkSocket
        | sslCtx =>
            refine ⟨rfl, ?_⟩
            exact (congrArg Slot.opened kept).trans (start_vacant .sslCtx).2
  cases mode with
  | tlshub =>
      unfold onClient at ran
      have client := congrArg Prod.fst ran
      have state := congrArg Prod.snd ran
      dsimp only at client state
      have fails := tlshubClientInit_fails env _ _ ret (Prod.ext client rfl) failed
      rw [← state]
      cases r with
      | netlinkSocket =>
          have socket := congrArg socketSlot fails
          have slot : ∀ s : Provider, s.slot .netlinkSocket = socketSlot (clientHolding s.client) :=
            fun _ => rfl
          rw [slot]
          dsimp only
          rw [socket]
          exact ⟨rfl, rfl⟩
      | sslCtx => exact ⟨rfl, rfl⟩
  | openssl => exact sslFails _ (funext fun r => by cases r <;> rfl) ran
  | boringssl => exact sslFails _ (funext fun r => by cases r <;> rfl) ran
  | unknown value =>
      simp only [Program.pure_apply, Prod.mk.injEq] at ran
      rw [← ran.2]
      cases r <;> exact ⟨rfl, rfl⟩

/-- Whatever an initialisation returns, a cleanup after it leaves nothing open. -/
theorem keyProviderInit_closable (env : Env) (ctxNew : Bool) (mode : KeyProviderMode) :
    Triple (· = Provider.start) (keyProviderInit env ctxNew mode) fun _ s => s.Closable := by
  have ends : Triple (· = Provider.start) (keyProviderInit env ctxNew mode) fun _ _ => True :=
    triple_conseq _ _ _ _ _ (returnsOrWaits_keyProviderInit env ctxNew mode)
      (fun _ _ => trivial) fun _ _ _ => trivial
  refine triple_of_returned _ _ _ ends ?_
  rintro s rfl ret s' ran
  by_cases succeeded : ret = 0
  · subst succeeded
    obtain ⟨current, needed, handle, resource, slots⟩ :=
      keyProviderInit_slots env ctxNew mode Provider.start s' ran
    intro r
    rw [current, resource, slots]
    by_cases same : r = needed
    · subst same
      have vacant := slot_vacant _ (start_vacant r).1 (start_vacant r).2
      rw [Function.update_self]
      exact ⟨1, Slot.acquire_acquired handle vacant, Nat.le_refl 1, fun other => absurd rfl other⟩
    · rw [Function.update_of_ne same]
      exact ⟨0, slot_vacant _ (start_vacant r).1 (start_vacant r).2, Nat.zero_le 1, fun _ => rfl⟩
  · have vacant := keyProviderInit_fails env ctxNew mode s' ret ran succeeded
    exact closable_of_vacant s' (fun r => (vacant r).1) fun r => (vacant r).2

theorem providerGetKey_closable (env : Env) (answers : SslAnswers) (tuple : Option FlowTuple)
    (keyInfo : Option TlsKeyInfo) (s : Provider) (closable : s.Closable) :
    (providerGetKey env answers tuple keyInfo s).2.Closable := by
  obtain ⟨slots, mode⟩ := providerGetKey_slots env answers tuple keyInfo s
  intro r
  rw [slots, mode]
  exact closable r

theorem keyProviderCleanup_closes (s : Provider) (closable : s.Closable) (r : Resource) :
    ((keyProviderCleanup s).2.slot r).opened = [] := by
  have slots := keyProviderCleanup_slots s
  obtain ⟨times, acquired, once, other⟩ := closable r
  rw [slots]
  cases needed : s.currentMode.resource with
  | none =>
      have zero := other (by rw [needed]; exact (Option.some_ne_none r).symm)
      exact List.length_eq_zero_iff.mp (acquired.opened.trans zero)
  | some current =>
      by_cases same : r = current
      · subst same
        dsimp only
        rw [Function.update_self]
        exact List.length_eq_zero_iff.mp (Slot.release_acquired acquired once).opened
      · dsimp only
        rw [Function.update_of_ne same]
        have zero := other (by rw [needed]; exact fun equal => same (Option.some.inj equal).symm)
        exact List.length_eq_zero_iff.mp (acquired.opened.trans zero)

theorem keyProviderCleanup_returns (s : Provider) :
    (keyProviderCleanup s).1 = .returned () := by
  unfold keyProviderCleanup
  rw [Program.bind_apply, Program.get_apply]
  dsimp only
  cases s.currentMode with
  | tlshub =>
      obtain ⟨w', ran, -⟩ := tlshubClientCleanup_closes s.client
      unfold onClient
      dsimp only
      rw [ran]
  | openssl => rfl
  | boringssl => rfl
  | unknown value => rfl

end TlshubEbpf.Capture
