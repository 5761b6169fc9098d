import TlshubEbpf.Capture.KeyProvider
import TlshubEbpf.Lib.Slot
import TlshubEbpf.Lib.Transitions
import TlshubEbpf.Netlink.OpenSockets

/-! # The two resources of the key provider (`key_provider.c`)

`key_provider_init` acquires the netlink socket or an `SSL_CTX`, by its argument.
`key_provider_get_key` uses, and `key_provider_cleanup` releases, the one that the
mode of the moment stands for, and `key_provider_set_mode` changes that mode. -/

set_option autoImplicit false

namespace TlshubEbpf.Capture

open TlshubEbpf.Lib TlshubEbpf.Netlink

/-- The static variables of both files, and the `SSL_CTX` objects of the process. -/
structure Provider where
  client : Client
  currentMode : KeyProviderMode
  sslCtx : Option Int
  /-- How many `SSL_CTX` objects have been created; the next one has this number. -/
  created : Nat
  live : List Int

def Provider.start : Provider :=
  ⟨World.start ClientVars.initial, .tlshub, none, 0, []⟩

def onClient {α : Type} (p : Program Client α) : Program Provider α := fun s =>
  ((p s.client).1, { s with client := (p s.client).2 })

def sslCtxNew (ok : Bool) : Program Provider (Option Int) := fun s =>
  if ok then
    let ctx : Int := s.created
    (.returned (some ctx),
      { s with sslCtx := some ctx, created := s.created + 1, live := ctx :: s.live })
  else
    (.returned none, { s with sslCtx := none })

/-- The initialisation that MODE_OPENSSL and MODE_BORINGSSL share. -/
def initSslCtx (ctxNew : Bool) : Program Provider Int := do
  let sslCtx ← sslCtxNew ctxNew
  if sslCtx = none then
    return -1
  return 0

def keyProviderInit (env : Env) (ctxNew : Bool) (mode : KeyProviderMode) :
    Program Provider Int := do
  Program.modify fun s => { s with currentMode := mode }
  match mode with
  | .tlshub => onClient (tlshubClientInit env)
  | .openssl => initSslCtx ctxNew
  | .boringssl => initSslCtx ctxNew
  | .unknown _ => return -1

def tlshubClientCleanup : Program Client Unit := do
  let sock ← Program.get fun w => w.vars.netlinkSock
  if 0 ≤ sock then
    close sock
    setNetlinkSock (-1)

def freeSslCtx : Program Provider Unit :=
  Program.modify fun s =>
    match s.sslCtx with
    | some ctx => { s with sslCtx := none, live := s.live.erase ctx }
    | none => s

def keyProviderCleanup : Program Provider Unit := do
  let mode ← Program.get fun s => s.currentMode
  match mode with
  | .tlshub => onClient tlshubClientCleanup
  | .openssl => freeSslCtx
  | .boringssl => freeSslCtx
  | .unknown _ => return ()

def keyProviderSetMode (mode : KeyProviderMode) : Program Provider Unit :=
  Program.modify fun s => { s with currentMode := mode }

structure SslAnswers where
  sslNew : Bool
  exported : Int
  keyMaterial : Vector UInt8 64

/-- Sixteen bytes of key and twelve of iv are written, the rest is left. -/
def fillOpensslKey (material : Vector UInt8 64) (info : TlsKeyInfo) : TlsKeyInfo :=
  { key := Vector.ofFn fun i => if i.val < 16 then material[i.val] else info.key[i.val]
    iv := Vector.ofFn fun i => if i.val < 12 then material[16 + i.val] else info.iv[i.val]
    keyLen := 16
    ivLen := 12 }

def opensslGetKey (sslCtx : Option Int) (answers : SslAnswers) (_tuple : FlowTuple)
    (info : TlsKeyInfo) : Program Client (Int × Option TlsKeyInfo) := do
  if sslCtx = none then
    return (-1, some info)
  if answers.sslNew = false then
    return (-1, some info)
  if answers.exported ≠ 1 then
    return (-1, some info)
  return (0, some (fillOpensslKey answers.keyMaterial info))

def providerGetKey (env : Env) (answers : SslAnswers) (tuple : Option FlowTuple)
    (keyInfo : Option TlsKeyInfo) : Program Provider (Int × Option TlsKeyInfo) := fun s =>
  onClient (keyProviderGetKey env (opensslGetKey s.sslCtx answers) s.currentMode tuple keyInfo) s

/-! ## Resources over a run -/

inductive Resource where
  | netlinkSocket
  | sslCtx
  deriving DecidableEq, Repr

def KeyProviderMode.resource : KeyProviderMode → Option Resource
  | .tlshub => some .netlinkSocket
  | .openssl => some .sslCtx
  | .boringssl => some .sslCtx
  | .unknown _ => none

def storedSocket (sock : Int) : Option Int :=
  if 0 ≤ sock then some sock else none

def Provider.slot (s : Provider) : Resource → Slot Int
  | .netlinkSocket => ⟨storedSocket s.client.vars.netlinkSock, openSockets s.client.calls⟩
  | .sslCtx => ⟨s.sslCtx, s.live⟩

structure Lifecycle where
  provider : Provider
  acquired : List Resource

def Lifecycle.start : Lifecycle := ⟨Provider.start, []⟩

inductive ProviderEvent where
  | init (env : Env) (ctxNew : Bool) (mode : KeyProviderMode)
  | setMode (mode : KeyProviderMode)
  | getKey (env : Env) (answers : SslAnswers) (tuple : Option FlowTuple)
      (keyInfo : Option TlsKeyInfo)
  | cleanup

/-- An initialisation that fails, or a call that does not return, ends the run. -/
def Lifecycle.step (s : Lifecycle) : ProviderEvent → Option Lifecycle
  | .init env ctxNew mode =>
      match keyProviderInit env ctxNew mode s.provider with
      | (.returned ret, provider) =>
          if ret = 0 then some ⟨provider, mode.resource.toList ++ s.acquired⟩ else none
      | _ => none
  | .setMode mode => some ⟨(keyProviderSetMode mode s.provider).2, s.acquired⟩
  | .getKey env answers tuple keyInfo =>
      match providerGetKey env answers tuple keyInfo s.provider with
      | (.returned _, provider) => some ⟨provider, s.acquired⟩
      | _ => none
  | .cleanup => some ⟨(keyProviderCleanup s.provider).2, []⟩

/-- Between an initialisation and the next cleanup the current mode has its
resource, and after a cleanup nothing is left open. -/
def ResourcesManaged (event : ProviderEvent) (after : Lifecycle) : Prop :=
  match event with
  | .cleanup => ∀ r, (after.provider.slot r).opened = []
  | _ => after.acquired ≠ [] →
      ∀ r ∈ after.provider.currentMode.resource, (after.provider.slot r).Holds

instance (p : Resource → Prop) [DecidablePred p] : Decidable (∀ r, p r) :=
  decidable_of_iff (p .netlinkSocket ∧ p .sslCtx) <| by
    constructor
    · intro both r
      cases r with
      | netlinkSocket => exact both.1
      | sslCtx => exact both.2
    · intro all
      exact ⟨all _, all _⟩

instance (event : ProviderEvent) (after : Lifecycle) :
    Decidable (ResourcesManaged event after) :=
  match event with
  | .cleanup => inferInstanceAs (Decidable (∀ _ : Resource, _ = _))
  | .init .. => inferInstanceAs (Decidable (_ → ∀ r ∈ _, _))
  | .setMode _ => inferInstanceAs (Decidable (_ → ∀ r ∈ _, _))
  | .getKey .. => inferInstanceAs (Decidable (_ → ∀ r ∈ _, _))

/-- A switch is made to a mode whose resource has been acquired, and a cleanup
under the mode of the only initialisation since the last one. -/
def ModeAgrees (before : Lifecycle) : ProviderEvent → Prop
  | .setMode mode => before.acquired ≠ [] → ∀ r ∈ mode.resource, r ∈ before.acquired
  | .cleanup =>
      before.acquired = [] ∨ before.acquired = before.provider.currentMode.resource.toList
  | _ => True

/-! ## What each operation does to the sockets -/

def clientHolding : Client → Int × List Int :=
  holding ClientVars.netlinkSock

def socketSlot (held : Int × List Int) : Slot Int :=
  ⟨storedSocket held.1, held.2⟩

theorem storeDestAddr_netlinkSock (source : SockaddrNl) (vars : ClientVars) :
    (storeDestAddr source vars).netlinkSock = vars.netlinkSock := rfl

open Program in
theorem keeps_fetchKey (env : Env) (tuple : Option FlowTuple) (keyInfo : Option TlsKeyInfo) :
    Keeps clientHolding (tlshubFetchKey env tuple keyInfo) := by
  have failed : Keeps clientHolding (pure ((-1 : Int), keyInfo)) := keeps_pure _ _
  unfold tlshubFetchKey
  refine keeps_bind _ _ _ (keeps_get _ _) fun sock => ?_
  split
  · refine keeps_ite _ _ _ _ failed ?_
    refine keeps_bind _ _ _ (keeps_malloc _ env) fun nlh => ?_
    refine keeps_ite _ _ _ _ failed ?_
    refine keeps_bind _ _ _ (keeps_get _ _) fun dest => ?_
    refine keeps_bind _ _ _ (keeps_sendto _ env sock dest _) fun ret => ?_
    refine keeps_ite _ _ _ _ failed ?_
    refine keeps_bind _ _ _ (keeps_recvfrom _ sock _ storeDestAddr_netlinkSock) fun read => ?_
    refine keeps_ite _ _ _ _ failed ?_
    exact keeps_ite _ _ _ _ failed (keeps_pure _ _)
  · exact failed

open Program in
theorem keeps_handshakeBuffer (env : Env) : Keeps clientHolding (handshakeBuffer env) := by
  unfold handshakeBuffer
  refine keeps_bind _ _ _ (keeps_get _ _) fun kept => ?_
  refine keeps_ite _ _ _ _ (keeps_pure _ _) ?_
  refine keeps_bind _ _ _ (keeps_malloc _ env) fun nlh => ?_
  exact keeps_bind _ _ _ (keeps_modify _ _ fun w => rfl) fun _ => keeps_pure _ _

open Program in
theorem keeps_handshake (env : Env) (tuple : Option FlowTuple) :
    Keeps clientHolding (tlshubHandshake env tuple) := by
  have failed : Keeps clientHolding (pure (-1 : Int)) := keeps_pure _ _
  unfold tlshubHandshake
  refine keeps_bind _ _ _ (keeps_get _ _) fun sock => ?_
  split
  · refine keeps_ite _ _ _ _ failed ?_
    refine keeps_bind _ _ _ (keeps_handshakeBuffer env) fun nlh => ?_
    refine keeps_ite _ _ _ _ failed ?_
    refine keeps_bind _ _ _ (keeps_get _ _) fun dest => ?_
    refine keeps_bind _ _ _ (keeps_sendto _ env sock dest _) fun ret => ?_
    refine keeps_ite _ _ _ _ failed ?_
    exact keeps_waitLoop _ sock _ storeDestAddr_netlinkSock _ _ _ failed fun verdict =>
      keeps_pure _ verdict
  · exact failed

open Program in
theorem keeps_opensslGetKey (sslCtx : Option Int) (answers : SslAnswers) (tuple : FlowTuple)
    (info : TlsKeyInfo) :
    Keeps clientHolding (opensslGetKey sslCtx answers tuple info) := by
  have failed : Keeps clientHolding (pure ((-1 : Int), some info)) := keeps_pure _ _
  unfold opensslGetKey
  refine keeps_ite _ _ _ _ failed ?_
  refine keeps_ite _ _ _ _ failed ?_
  exact keeps_ite _ _ _ _ failed (keeps_pure _ _)

open Program in
theorem keeps_keyProviderGetKey (env : Env)
    (openssl : FlowTuple → TlsKeyInfo → Program Client (Int × Option TlsKeyInfo))
    (kept : ∀ tuple info, Keeps clientHolding (openssl tuple info)) (mode : KeyProviderMode)
    (tuple : Option FlowTuple) (keyInfo : Option TlsKeyInfo) :
    Keeps clientHolding (keyProviderGetKey env openssl mode tuple keyInfo) := by
  unfold keyProviderGetKey
  split
  · cases mode with
    | tlshub =>
        refine keeps_bind _ _ _ (keeps_fetchKey env _ _) fun fetched => ?_
        refine keeps_ite _ _ _ _ ?_ (keeps_pure _ _)
        refine keeps_bind _ _ _ (keeps_handshake env _) fun verdict => ?_
        refine keeps_ite _ _ _ _ (keeps_pure _ _) ?_
        refine keeps_bind _ _ _ (keeps_fetchKey env _ _) fun refetched => ?_
        exact keeps_ite _ _ _ _ (keeps_pure _ _) (keeps_pure _ _)
    | openssl => exact kept _ _
    | boringssl => exact kept _ _
    | unknown value => exact keeps_pure _ _
  · exact keeps_pure _ _

theorem providerGetKey_slots (env : Env) (answers : SslAnswers) (tuple : Option FlowTuple)
    (keyInfo : Option TlsKeyInfo) (s : Provider) :
    (providerGetKey env answers tuple keyInfo s).2.slot = s.slot ∧
      (providerGetKey env answers tuple keyInfo s).2.currentMode = s.currentMode := by
  refine ⟨?_, rfl⟩
  have kept := keeps_keyProviderGetKey env (opensslGetKey s.sslCtx answers)
    (keeps_opensslGetKey s.sslCtx answers) s.currentMode tuple keyInfo s.client
  funext r
  cases r with
  | netlinkSocket => exact congrArg socketSlot kept
  | sslCtx => rfl

theorem tlshubClientInit_opens (env : Env) (w w' : Client)
    (ran : tlshubClientInit env w = (.returned 0, w')) :
    clientHolding w' = (freshFd w.calls, freshFd w.calls :: openSockets w.calls) := by
  have nonneg := freshFd_nonneg w.calls
  have isOpen : ¬ freshFd w.calls < 0 := by omega
  cases created : env.socketOk w.calls with
  | false =>
      simp [tlshubClientInit, Program.bind_apply, socket_refused env w created,
        setNetlinkSock] at ran
  | true =>
      cases granted : env.bindOk (w.calls ++ [.socket (freshFd w.calls)]) (freshFd w.calls)
        env.tid with
      | false =>
          simp [tlshubClientInit, Program.bind_apply, socket_created env w created,
            setNetlinkSock, isOpen, Netlink.bind, granted, closeNetlinkSock_apply] at ran
      | true =>
          cases allocated : env.mallocOk (w.calls ++
            [.socket (freshFd w.calls), .bind (freshFd w.calls) env.tid 0]) with
          | false =>
              simp [tlshubClientInit, Program.bind_apply, socket_created env w created,
                setNetlinkSock, isOpen, Netlink.bind, granted, malloc, allocated,
                closeNetlinkSock_apply] at ran
          | true =>
              rw [tlshubClientInit_exchange env w created granted allocated] at ran
              split at ran
              · rw [closeNetlinkSock_apply] at ran
                simp at ran
              · obtain ⟨read, stop, rest, _, _, _, left⟩ := waitLoop_returned _ _ _ _ _ _ _ _ ran
                split at left
                · rw [closeNetlinkSock_apply] at left
                  simp at left
                · rw [Program.pure_apply] at left
                  rw [← (Prod.mk.inj left).2]
                  unfold clientHolding
                  rw [holding_afterReads _ _ _ storeDestAddr_netlinkSock]
                  simp [holding, openSockets, trackOpen, clientInitReady, clientInitSetup, nonneg]

theorem slot_update_socket (s s' : Provider) (slot : Slot Int)
    (here : s'.slot .netlinkSocket = slot) (elsewhere : s'.slot .sslCtx = s.slot .sslCtx) :
    s'.slot = Function.update s.slot .netlinkSocket slot := by
  funext r
  cases r with
  | netlinkSocket => rw [Function.update_self, here]
  | sslCtx => rw [Function.update_of_ne Resource.noConfusion, elsewhere]

theorem slot_update_sslCtx (s s' : Provider) (slot : Slot Int)
    (here : s'.slot .sslCtx = slot)
    (elsewhere : s'.slot .netlinkSocket = s.slot .netlinkSocket) :
    s'.slot = Function.update s.slot .sslCtx slot := by
  funext r
  cases r with
  | netlinkSocket => rw [Function.update_of_ne Resource.noConfusion, elsewhere]
  | sslCtx => rw [Function.update_self, here]

theorem initSslCtx_slots (ctxNew : Bool) (s s' : Provider)
    (ran : initSslCtx ctxNew s = (.returned 0, s')) :
    s'.currentMode = s.currentMode ∧
      s'.slot = Function.update s.slot .sslCtx ((s.slot .sslCtx).acquire s.created) := by
  cases ctxNew with
  | false => simp [initSslCtx, sslCtxNew, Program.bind_apply] at ran
  | true =>
      simp only [initSslCtx, sslCtxNew, Program.bind_apply, if_true, reduceCtorEq, if_false,
        Program.pure_apply, Prod.mk.injEq, true_and] at ran
      subst ran
      exact ⟨rfl, slot_update_sslCtx _ _ _ rfl rfl⟩

theorem keyProviderInit_slots (env : Env) (ctxNew : Bool) (mode : KeyProviderMode)
    (s s' : Provider) (ran : keyProviderInit env ctxNew mode s = (.returned 0, s')) :
    s'.currentMode = mode ∧ ∃ r handle, mode.resource = some r ∧
      s'.slot = Function.update s.slot r ((s.slot r).acquire handle) := by
  unfold keyProviderInit at ran
  rw [Program.bind_apply, Program.modify_apply] at ran
  dsimp only at ran
  cases mode with
  | tlshub =>
      unfold onClient at ran
      have client := congrArg Prod.fst ran
      have state := congrArg Prod.snd ran
      dsimp only at client state
      have opens := tlshubClientInit_opens env s.client _
        (Prod.ext client rfl)
      rw [← state]
      refine ⟨rfl, .netlinkSocket, freshFd s.client.calls, rfl,
        slot_update_socket _ _ _ ?_ rfl⟩
      refine (congrArg socketSlot opens).trans ?_
      rw [socketSlot, storedSocket, if_pos (freshFd_nonneg s.client.calls)]
      rfl
  | openssl =>
      obtain ⟨kept, slots⟩ := initSslCtx_slots ctxNew _ s' ran
      exact ⟨kept, .sslCtx, s.created, rfl, slots⟩
  | boringssl =>
      obtain ⟨kept, slots⟩ := initSslCtx_slots ctxNew _ s' ran
      exact ⟨kept, .sslCtx, s.created, rfl, slots⟩
  | unknown value => simp at ran

theorem tlshubClientCleanup_closes (w : Client) :
    ∃ w', tlshubClientCleanup w = (.returned (), w') ∧
      socketSlot (clientHolding w') = (socketSlot (clientHolding w)).release := by
  have negative : ¬ (0 : Int) ≤ -1 := by omega
  by_cases isOpen : 0 ≤ w.vars.netlinkSock
  · refine ⟨{ w.closed w.vars.netlinkSock with vars := { w.vars with netlinkSock := -1 } }, ?_, ?_⟩
    · simp [tlshubClientCleanup, Program.bind_apply, isOpen, close, setNetlinkSock]
    · simp [clientHolding, holding, socketSlot, storedSocket, Slot.release, isOpen]
  · refine ⟨w, ?_, ?_⟩
    · simp [tlshubClientCleanup, Program.bind_apply, isOpen]
    · simp [clientHolding, holding, socketSlot, storedSocket, Slot.release, isOpen]

theorem freeSslCtx_slots (s : Provider) :
    (freeSslCtx s).2.slot = Function.update s.slot .sslCtx (s.slot .sslCtx).release := by
  unfold freeSslCtx
  rw [Program.modify_apply]
  apply slot_update_sslCtx
  · cases stored : s.sslCtx with
    | none => simp [Provider.slot, Slot.release, stored]
    | some ctx => simp [Provider.slot, Slot.release, stored]
  · cases s.sslCtx with
    | none => rfl
    | some ctx => rfl

theorem keyProviderCleanup_slots (s : Provider) :
    (keyProviderCleanup s).2.slot =
      match s.currentMode.resource with
      | some r => Function.update s.slot r (s.slot r).release
      | none => s.slot := by
  unfold keyProviderCleanup
  rw [Program.bind_apply, Program.get_apply]
  dsimp only
  cases s.currentMode with
  | tlshub =>
      obtain ⟨w', ran, closed⟩ := tlshubClientCleanup_closes s.client
      unfold onClient
      dsimp only
      rw [ran]
      exact slot_update_socket _ _ _ closed rfl
  | openssl => exact freeSslCtx_slots s
  | boringssl => exact freeSslCtx_slots s
  | unknown value => rfl

/-- The slots hold what the initialisations since the last cleanup acquired. -/
structure Accounted (s : Lifecycle) : Prop where
  slots : ∀ r, (s.provider.slot r).Acquired (s.acquired.count r)
  current : s.acquired ≠ [] → ∀ r ∈ s.provider.currentMode.resource, r ∈ s.acquired

theorem start_accounted : Accounted Lifecycle.start := by
  refine ⟨?_, fun some => absurd rfl some⟩
  intro r
  cases r with
  | netlinkSocket => exact ⟨rfl, Or.inl rfl, by decide⟩
  | sslCtx => exact ⟨rfl, Or.inl rfl, by decide⟩

section Steps
variable (s next : Lifecycle)

theorem holds_iff_acquired (accounted : Accounted s) (r : Resource) :
    (s.provider.slot r).Holds ↔ r ∈ s.acquired := by
  rw [(accounted.slots r).holds_iff, Ne, List.count_eq_zero, not_not]

theorem init_accounted (env : Env) (ctxNew : Bool) (mode : KeyProviderMode)
    (accounted : Accounted s) (taken : s.step (.init env ctxNew mode) = some next) :
    Accounted next := by
  unfold Lifecycle.step at taken
  dsimp only at taken
  split at taken
  · rename_i ret provider ran
    split at taken
    · rename_i zero
      subst zero
      obtain rfl := Option.some.inj taken
      obtain ⟨mode_eq, r, handle, needed, slots⟩ := keyProviderInit_slots env ctxNew mode _ _ ran
      have acquired : mode.resource.toList ++ s.acquired = r :: s.acquired := by
        rw [needed]
        rfl
      rw [acquired]
      refine ⟨?_, ?_⟩
      · intro other
        dsimp only
        rw [slots]
        by_cases same : other = r
        · subst same
          rw [Function.update_self, List.count_cons_self]
          exact Slot.acquire_acquired handle (accounted.slots other)
        · rw [Function.update_of_ne same, List.count_cons_of_ne (Ne.symm same)]
          exact accounted.slots other
      · intro _ other current
        dsimp only at current
        rw [mode_eq, needed] at current
        rw [Option.mem_some.mp current]
        exact List.mem_cons_self
    · cases taken
  · cases taken

theorem getKey_accounted (env : Env) (answers : SslAnswers) (tuple : Option FlowTuple)
    (keyInfo : Option TlsKeyInfo) (accounted : Accounted s)
    (taken : s.step (.getKey env answers tuple keyInfo) = some next) : Accounted next := by
  unfold Lifecycle.step at taken
  dsimp only at taken
  have kept := providerGetKey_slots env answers tuple keyInfo s.provider
  split at taken
  · rename_i value provider ran
    obtain rfl := Option.some.inj taken
    rw [ran] at kept
    obtain ⟨slots, mode⟩ := kept
    refine ⟨?_, ?_⟩
    · intro r
      dsimp only at slots ⊢
      rw [slots]
      exact accounted.slots r
    · dsimp only at mode ⊢
      rw [mode]
      exact accounted.current
  · cases taken

theorem setMode_accounted (mode : KeyProviderMode) (accounted : Accounted s)
    (agrees : ModeAgrees s (.setMode mode)) (taken : s.step (.setMode mode) = some next) :
    Accounted next := by
  obtain rfl := Option.some.inj taken
  refine ⟨?_, agrees⟩
  intro r
  have slots := accounted.slots r
  cases r with
  | netlinkSocket => exact slots
  | sslCtx => exact slots

theorem cleanup_accounted (accounted : Accounted s) (agrees : ModeAgrees s .cleanup)
    (taken : s.step .cleanup = some next) : Accounted next := by
  obtain rfl := Option.some.inj taken
  refine ⟨?_, fun some => absurd rfl some⟩
  intro r
  have slots := accounted.slots r
  dsimp only
  rw [keyProviderCleanup_slots, List.count_nil]
  cases agrees with
  | inl none =>
      rw [none, List.count_nil] at slots
      cases needed : s.provider.currentMode.resource with
      | none => exact slots
      | some current =>
          by_cases same : r = current
          · subst same
            dsimp only
            rw [Function.update_self]
            exact Slot.release_acquired slots (Nat.zero_le 1)
          · dsimp only
            rw [Function.update_of_ne same]
            exact slots
  | inr once =>
      rw [once] at slots
      cases needed : s.provider.currentMode.resource with
      | none =>
          rw [needed] at slots
          exact slots
      | some current =>
          rw [needed] at slots
          by_cases same : r = current
          · subst same
            dsimp only
            rw [Function.update_self]
            exact Slot.release_acquired slots (by simp)
          · dsimp only
            rw [Function.update_of_ne same]
            have none : (Option.some current).toList.count r = 0 := by
              rw [List.count_eq_zero]
              simpa using same
            rw [none] at slots
            exact slots

theorem nil_or_singleton {α : Type} [DecidableEq α] (xs : List α) (x : α)
    (all : ∀ y ∈ xs, y = x) (once : xs.count x ≤ 1) : xs = [] ∨ xs = [x] := by
  have repeated := List.eq_replicate_of_mem all
  rw [repeated, List.count_replicate_self] at once
  cases lengths : xs.length with
  | zero => exact Or.inl (List.length_eq_zero_iff.mp lengths)
  | succ n =>
      have one : n = 0 := by omega
      rw [lengths, one] at repeated
      exact Or.inr repeated

theorem cleanup_managed_iff (accounted : Accounted s) (taken : s.step .cleanup = some next) :
    ResourcesManaged .cleanup next ↔ ModeAgrees s .cleanup := by
  constructor
  · intro closed
    obtain rfl := Option.some.inj taken
    unfold ResourcesManaged at closed
    dsimp only at closed
    rw [keyProviderCleanup_slots] at closed
    have lengths : ∀ r, s.acquired.count r = (s.provider.slot r).opened.length :=
      fun r => (accounted.slots r).opened.symm
    unfold ModeAgrees
    dsimp only
    cases needed : s.provider.currentMode.resource with
    | none =>
        rw [needed] at closed
        left
        apply List.eq_nil_iff_forall_not_mem.mpr
        intro r member
        have none : s.acquired.count r = 0 := by
          rw [lengths, closed r]
          rfl
        exact List.count_eq_zero.mp none member
    | some current =>
        rw [needed] at closed
        dsimp only at closed
        apply nil_or_singleton
        · intro r member
          by_contra distinct
          have none : s.acquired.count r = 0 := by
            have empty := closed r
            rw [Function.update_of_ne distinct] at empty
            rw [lengths, empty]
            rfl
          exact List.count_eq_zero.mp none member
        · have empty := closed current
          rw [Function.update_self] at empty
          have left := Slot.release_length (accounted.slots current)
          rw [empty] at left
          simp only [List.length_nil] at left
          omega
  · intro agrees
    have kept := cleanup_accounted s next accounted agrees taken
    obtain rfl := Option.some.inj taken
    intro r
    exact List.length_eq_zero_iff.mp (kept.slots r).opened

theorem step_accounted (event : ProviderEvent) (accounted : Accounted s)
    (agrees : ModeAgrees s event) (taken : s.step event = some next) : Accounted next := by
  cases event with
  | init env ctxNew mode => exact init_accounted s next env ctxNew mode accounted taken
  | setMode mode => exact setMode_accounted s next mode accounted agrees taken
  | getKey env answers tuple keyInfo =>
      exact getKey_accounted s next env answers tuple keyInfo accounted taken
  | cleanup => exact cleanup_accounted s next accounted agrees taken

theorem accounted_holds (accounted : Accounted s) (some : s.acquired ≠ []) :
    ∀ r ∈ s.provider.currentMode.resource, (s.provider.slot r).Holds := by
  intro r needed
  exact (holds_iff_acquired s accounted r).mpr (accounted.current some r needed)

theorem step_managed_iff (event : ProviderEvent) (accounted : Accounted s)
    (taken : s.step event = some next) :
    ResourcesManaged event next ↔ ModeAgrees s event := by
  cases event with
  | init env ctxNew mode =>
      have kept := init_accounted s next env ctxNew mode accounted taken
      exact ⟨fun _ => trivial, fun _ => accounted_holds next kept⟩
  | setMode mode =>
      obtain rfl := Option.some.inj taken
      have acquired : ∀ r, ((keyProviderSetMode mode s.provider).2.slot r).Holds ↔
          r ∈ s.acquired := by
        intro r
        rw [← holds_iff_acquired s accounted r]
        cases r <;> rfl
      unfold ResourcesManaged ModeAgrees
      simp only [acquired]
      rfl
  | getKey env answers tuple keyInfo =>
      have kept := getKey_accounted s next env answers tuple keyInfo accounted taken
      exact ⟨fun _ => trivial, fun _ => accounted_holds next kept⟩
  | cleanup => exact cleanup_managed_iff s next accounted taken

end Steps

/-- The resources are managed throughout a run if and only if every switch and every
cleanup of it is made in a mode that agrees with the initialisations before it. -/
theorem lifecycle_managed_iff (events : List ProviderEvent) :
    (∀ t ∈ transitions Lifecycle.step Lifecycle.start events,
        ResourcesManaged t.event t.after) ↔
      ∀ t ∈ transitions Lifecycle.step Lifecycle.start events, ModeAgrees t.before t.event := by
  refine transitions_good_iff Lifecycle.step Accounted ModeAgrees
    (fun _ event next => ResourcesManaged event next) ?_ ?_ Lifecycle.start start_accounted events
  · intro s event next accounted taken
    exact step_managed_iff s next event accounted taken
  · intro s event next accounted agrees taken
    exact step_accounted s next event accounted agrees taken

def initEnv : Env :=
  scriptEnv .little 42 true true true (.sent 32) [(Datagram.bare msgTypeInitComplete).delivery]

def switchedRun : List ProviderEvent :=
  [.init initEnv true .tlshub, .setMode .openssl, .cleanup]

def reinitialisedRun : List ProviderEvent :=
  [.init initEnv true .tlshub, .init initEnv true .openssl, .cleanup]

def managedAfter (events : List ProviderEvent) : List Bool :=
  (transitions Lifecycle.step Lifecycle.start events).map fun t =>
    decide (ResourcesManaged t.event t.after)

theorem switched_mode_leaks_socket :
    managedAfter switchedRun = [true, false, false] ∧
      managedAfter reinitialisedRun = [true, true, false] ∧
      ¬ ∀ t ∈ transitions Lifecycle.step Lifecycle.start switchedRun,
        ResourcesManaged t.event t.after := by
  decide

end TlshubEbpf.Capture
