import TlshubEbpf.Capture.Stream

/-! # Messages of other senders on the capture client's socket

The run of the calls is compared with the run from which every message of a
sender other than the kernel has been removed.  `Related` states what the two
runs have in common between calls: the static variables, the numbers of requests
and sockets, and queues that differ in the removed messages only. -/

set_option autoImplicit false

namespace TlshubEbpf.Capture

open TlshubEbpf.Lib TlshubEbpf.Netlink

inductive ClientCall where
  | init
  | handshake (tuple : Option FlowTuple)
  | fetchKey (tuple : Option FlowTuple) (keyInfo : Option TlsKeyInfo)

/-- The result, and for `tlshub_fetch_key` the contents of `*key_info`. -/
def ClientCall.exec (env : Env) : ClientCall → Program Client (Int × Option TlsKeyInfo)
  | .init => do
      let ret ← tlshubClientInit env
      return (ret, none)
  | .handshake tuple => do
      let ret ← tlshubHandshake env tuple
      return (ret, none)
  | .fetchKey tuple keyInfo => tlshubFetchKey env tuple keyInfo

def fromKernel (d : Datagram) : Bool := d.source.nlPid == 0

def kernelOnly (stream : Nat → Request → List Datagram) (n : Nat) (request : Request) :
    List Datagram :=
  (stream n request).filter fromKernel

def AddressedToKernel (calls : List Syscall) : Prop :=
  ∀ fd dest request result, .sendto fd dest request result ∈ calls → dest.nlPid = 0

/-- The first delivery that is taken for the answer was sent by the kernel. -/
def AnsweredByKernel (accepts : Delivery → Bool) (arrived : List Delivery) : Prop :=
  ∀ d, arrived.find? accepts = some d → ∀ source, d.source? = some source → source.nlPid = 0

instance (accepts : Delivery → Bool) (arrived : List Delivery) :
    Decidable (AnsweredByKernel accepts arrived) :=
  decidable_of_iff
    (∀ d ∈ arrived.find? accepts, ∀ source ∈ d.source?, source.nlPid = 0) Iff.rfl

section Origin
variable (order : ByteOrder) (tid : UInt32) (stream : Nat → Request → List Datagram)

def EndsOnKernel (call : ClientCall) (w : Client) : Prop :=
  let env := streamEnv order tid stream
  let arrives (request : Request) := (stream (sendtoCount w.calls) request).map Datagram.delivery
  let queue := w.inbox w.vars.netlinkSock
  match call with
  | .init => AnsweredByKernel (stops clientInitSwitch) (arrives (initRequest env))
  | .handshake (some tuple) =>
      0 ≤ w.vars.netlinkSock → AnsweredByKernel (stops clientHandshakeSwitch)
        (queue ++ arrives (flowRequest env tlsServiceStart tuple))
  | .fetchKey (some tuple) (some _) =>
      0 ≤ w.vars.netlinkSock → AnsweredByKernel (fun _ => true)
        (queue ++ arrives (flowRequest env tlsServiceFetch tuple))
  | _ => True

instance (call : ClientCall) (w : Client) : Decidable (EndsOnKernel order tid stream call w) :=
  match call with
  | .init => inferInstanceAs (Decidable (AnsweredByKernel _ _))
  | .handshake (some _) => inferInstanceAs (Decidable (_ → AnsweredByKernel _ _))
  | .handshake none => isTrue trivial
  | .fetchKey (some _) (some _) => inferInstanceAs (Decidable (_ → AnsweredByKernel _ _))
  | .fetchKey (some _) none => isTrue trivial
  | .fetchKey none _ => isTrue trivial

structure Related (w w' : Client) : Prop where
  vars : w'.vars = w.vars
  sends : sendtoCount w'.calls = sendtoCount w.calls
  sockets : socketCount w'.calls = socketCount w.calls
  queues : ∀ fd, ∃ queue : List Datagram, w.inbox fd = queue.map Datagram.delivery ∧
    w'.inbox fd = (queue.filter fromKernel).map Datagram.delivery
  addressed : AddressedToKernel w.calls
  dest : 0 ≤ w.vars.netlinkSock → w.vars.destAddr.nlPid = 0

structure SameAnswer {α : Type} (run run' : Outcome α × Client) : Prop where
  outcome : run'.1 = run.1
  related : ∀ value, run.1 = .returned value → Related run.2 run'.2
  addressed : AddressedToKernel run.2.calls

/-! ## Removing the messages of other senders -/

theorem fromKernel_of_answered (accepts : Delivery → Bool) (read rest : List Datagram)
    (stop : Datagram)
    (answered : AnsweredByKernel accepts ((read ++ stop :: rest).map Datagram.delivery))
    (passes : ∀ d ∈ read, accepts d.delivery = false) (halts : accepts stop.delivery = true) :
    stop.source.nlPid = 0 := by
  apply answered stop.delivery _ stop.source rfl
  induction read with
  | nil => simp [halts]
  | cons d read ih =>
      have skipped := passes d (by simp)
      rw [List.cons_append, List.map_cons, List.find?_cons_of_neg (by simp [skipped])]
      apply ih _ (fun later member => passes later (by simp [member]))
      intro found isFound
      apply answered found
      rw [List.cons_append, List.map_cons, List.find?_cons_of_neg (by simp [skipped])]
      exact isFound

theorem addressedToKernel_append (calls more : List Syscall) (first : AddressedToKernel calls)
    (last : AddressedToKernel more) : AddressedToKernel (calls ++ more) := by
  intro fd dest request result member
  rcases List.mem_append.mp member with inCalls | inMore
  · exact first fd dest request result inCalls
  · exact last fd dest request result inMore

theorem addressedToKernel_exchange (fd : Int) (dest : SockaddrNl) (request : Request)
    (result : SendResult) (read : List Datagram) (toKernel : dest.nlPid = 0) :
    AddressedToKernel (.sendto fd dest request result ::
      read.map fun d => .recvfrom fd d.delivery) := by
  intro fd' dest' request' result' member
  simp only [List.mem_cons, List.mem_map, Syscall.sendto.injEq, reduceCtorEq, and_false,
    exists_false, or_false] at member
  rw [member.2.1]
  exact toKernel

theorem related_afterExchange (ready ready' : Client) (related : Related ready ready')
    (sock : Int) (request : Request) (read read' rest : List Datagram) (stop : Datagram)
    (toKernel : ready.vars.destAddr.nlPid = 0) (fromIt : stop.source.nlPid = 0) :
    Related (afterExchange ready sock request read rest stop)
      (afterExchange ready' sock request read' (rest.filter fromKernel) stop) where
  vars := by simp [afterExchange, related.vars]
  sends := by rw [sendtoCount_afterExchange, sendtoCount_afterExchange, related.sends]
  sockets := by rw [socketCount_afterExchange, socketCount_afterExchange, related.sockets]
  queues := by
    intro fd
    by_cases same : fd = sock
    · subst same
      exact ⟨rest, Function.update_self .., Function.update_self ..⟩
    · obtain ⟨queue, before, after⟩ := related.queues fd
      exact ⟨queue, (Function.update_of_ne same ..).trans before,
        (Function.update_of_ne same ..).trans after⟩
  addressed := addressedToKernel_append _ _ related.addressed
    (addressedToKernel_exchange sock _ request _ _ toKernel)
  dest := fun _ => fromIt

theorem related_arrivals (w w' : Client) (related : Related w w') (sock : Int)
    (request : Request) :
    ∃ messages : List Datagram,
      w.inbox sock ++ (stream (sendtoCount w.calls) request).map Datagram.delivery =
        messages.map Datagram.delivery ∧
      w'.inbox sock ++ (kernelOnly stream (sendtoCount w'.calls) request).map Datagram.delivery =
        (messages.filter fromKernel).map Datagram.delivery := by
  obtain ⟨queue, inboxEq, inboxEq'⟩ := related.queues sock
  refine ⟨queue ++ stream (sendtoCount w.calls) request, ?_, ?_⟩
  · rw [inboxEq, List.map_append]
  · rw [inboxEq', related.sends, kernelOnly, List.filter_append, List.map_append]

theorem waitLoop_related (ready ready' : Client) (related : Related ready ready')
    (sock : Int) (request : Request) (onEmpty : Program Client Int)
    (switch : UInt8 → Option Int) (toKernel : ready.vars.destAddr.nlPid = 0)
    (answered : AnsweredByKernel (stops switch) (ready.inbox sock ++
      (stream (sendtoCount ready.calls) request).map Datagram.delivery)) :
    SameAnswer
      (waitLoop sock storeDestAddr onEmpty switch pure
        (ready.afterSendto (streamEnv order tid stream) sock ready.vars.destAddr request))
      (waitLoop sock storeDestAddr onEmpty switch pure
        (ready'.afterSendto (streamEnv order tid (kernelOnly stream)) sock ready'.vars.destAddr
          request)) := by
  obtain ⟨messages, arrived, arrived'⟩ :=
    related_arrivals stream ready ready' related sock request
  rw [arrived] at answered
  by_cases decided : ∃ d ∈ messages, (switch d.msgType).isSome = true
  · obtain ⟨read, stop, rest, rfl, halts, passes⟩ :=
      exists_first_stop (fun d => (switch d.msgType).isSome) messages decided
    obtain ⟨verdict, stop_verdict⟩ := Option.isSome_iff_exists.mp halts
    have fromIt := fromKernel_of_answered (stops switch) read rest stop answered
      (fun d member => by rw [stops_delivery]; exact passes d member)
      (by rw [stops_delivery]; exact halts)
    have kept : fromKernel stop = true := by simp [fromKernel, fromIt]
    rw [List.filter_append, List.filter_cons_of_pos kept] at arrived'
    have noStop : ∀ d ∈ read, switch d.msgType = none := by
      intro d member
      simpa using passes d member
    rw [waitLoop_afterExchange order tid stream ready sock request onEmpty switch read rest stop
      verdict arrived noStop stop_verdict]
    rw [waitLoop_afterExchange order tid (kernelOnly stream) ready' sock request onEmpty switch
      (read.filter fromKernel) (rest.filter fromKernel) stop verdict arrived'
      (fun d member => noStop d (List.mem_of_mem_filter member)) stop_verdict]
    have next := related_afterExchange ready ready' related sock request read
      (read.filter fromKernel) rest stop toKernel fromIt
    exact ⟨rfl, fun _ _ => next, next.addressed⟩
  · have noStop : ∀ d ∈ messages, switch d.msgType = none := by
      intro d member
      by_contra some_stop
      exact decided ⟨d, member, Option.isSome_iff_ne_none.mpr some_stop⟩
    obtain ⟨waiting, ran, made⟩ := waitLoop_unanswered order tid stream ready sock request onEmpty
      switch messages arrived noStop
    obtain ⟨waiting', ran', _⟩ := waitLoop_unanswered order tid (kernelOnly stream) ready' sock
      request onEmpty switch (messages.filter fromKernel) arrived'
      (fun d member => noStop d (List.mem_of_mem_filter member))
    rw [ran, ran']
    refine ⟨rfl, fun _ returned => by simp at returned, ?_⟩
    rw [made]
    exact addressedToKernel_append _ _ related.addressed
      (addressedToKernel_exchange sock _ request _ _ toKernel)

theorem related_clientInitReady (w w' : Client) (related : Related w w') :
    Related (clientInitReady (streamEnv order tid stream) w)
      (clientInitReady (streamEnv order tid (kernelOnly stream)) w') := by
  have sameFd : freshFd w'.calls = freshFd w.calls := by
    rw [freshFd, freshFd, related.sockets]
  constructor
  · simp [clientInitReady, related.vars, sameFd]
  · rw [sendtoCount_clientInitReady, sendtoCount_clientInitReady, related.sends]
  · have sockets := related.sockets
    simp only [socketCount] at sockets
    simp [clientInitReady, clientInitSetup, socketCount, sockets]
  · intro fd
    by_cases same : fd = freshFd w.calls
    · exact ⟨[], by simp [clientInitReady, same], by simp [clientInitReady, same, sameFd]⟩
    · obtain ⟨queue, before, after⟩ := related.queues fd
      exact ⟨queue, by simp [clientInitReady, same, before],
        by simp [clientInitReady, sameFd, same, after]⟩
  · apply addressedToKernel_append _ _ related.addressed
    intro fd dest request result member
    simp [clientInitSetup] at member
  · intro _
    rfl

theorem clientInit_related (w w' : Client) (related : Related w w')
    (answered : EndsOnKernel order tid stream .init w) :
    SameAnswer (tlshubClientInit (streamEnv order tid stream) w)
      (tlshubClientInit (streamEnv order tid (kernelOnly stream)) w') := by
  have sameFd : freshFd w'.calls = freshFd w.calls := by
    rw [freshFd, freshFd, related.sockets]
  rw [tlshubClientInit_stream, tlshubClientInit_stream, sameFd]
  apply waitLoop_related order tid stream _ _
    (related_clientInitReady order tid stream w w' related) (freshFd w.calls)
    (initRequest (streamEnv order tid stream)) closeNetlinkSock clientInitSwitch rfl
  rw [sendtoCount_clientInitReady]
  simp only [clientInitReady, Function.update_self, List.nil_append]
  exact answered

theorem related_clientHandshakeReady (w w' : Client) (related : Related w w') :
    Related (clientHandshakeReady w) (clientHandshakeReady w') where
  vars := by simp [clientHandshakeReady, related.vars]
  sends := by
    rw [sendtoCount_clientHandshakeReady, sendtoCount_clientHandshakeReady, related.sends]
  sockets := by
    have sockets := related.sockets
    simp only [socketCount] at sockets
    simp only [clientHandshakeReady, clientHandshakeSetup, related.vars]
    split <;> simp [socketCount, sockets]
  queues := related.queues
  addressed := by
    apply addressedToKernel_append _ _ related.addressed
    intro fd dest request result member
    simp only [clientHandshakeSetup] at member
    split at member <;> simp at member
  dest := related.dest

theorem sameAnswer_refused {α : Type} (value : α) (w w' : Client) (related : Related w w') :
    SameAnswer (.returned value, w) (.returned value, w') :=
  ⟨rfl, fun _ _ => related, related.addressed⟩

theorem clientHandshake_related (tuple : Option FlowTuple) (w w' : Client)
    (related : Related w w') (answered : EndsOnKernel order tid stream (.handshake tuple) w) :
    SameAnswer (tlshubHandshake (streamEnv order tid stream) tuple w)
      (tlshubHandshake (streamEnv order tid (kernelOnly stream)) tuple w') := by
  by_cases refused : w.vars.netlinkSock < 0 ∨ tuple = none
  · have refused' : w'.vars.netlinkSock < 0 ∨ tuple = none := by rw [related.vars]; exact refused
    rw [tlshubHandshake_refused _ _ _ refused, tlshubHandshake_refused _ _ _ refused']
    exact sameAnswer_refused (-1) w w' related
  · simp only [not_or, Int.not_lt] at refused
    obtain ⟨isOpen, hasTuple⟩ := refused
    obtain ⟨t, rfl⟩ := Option.ne_none_iff_exists'.mp hasTuple
    rw [tlshubHandshake_stream order tid stream t w isOpen,
      tlshubHandshake_stream order tid (kernelOnly stream) t w' (by rw [related.vars]; exact isOpen),
      related.vars]
    have ready := waitLoop_related order tid stream _ _
      (related_clientHandshakeReady w w' related) w.vars.netlinkSock
      (flowRequest (streamEnv order tid stream) tlsServiceStart t) (pure (-1))
      clientHandshakeSwitch (related.dest isOpen)
      (by rw [sendtoCount_clientHandshakeReady]; exact answered isOpen)
    simp only [clientHandshakeReady, related.vars] at ready ⊢
    exact ready

theorem related_malloc (w w' : Client) (related : Related w w') :
    Related (w.afterCall (.malloc true)) (w'.afterCall (.malloc true)) where
  vars := related.vars
  sends := by
    rw [afterCall_calls, afterCall_calls, sendtoCount_append, sendtoCount_append, related.sends]
  sockets := by
    have sockets := related.sockets
    simp only [socketCount] at sockets
    simp [socketCount, sockets]
  queues := related.queues
  addressed := by
    apply addressedToKernel_append _ _ related.addressed
    intro fd dest request result member
    simp at member
  dest := related.dest

theorem fetchKey_open_related (tuple : FlowTuple) (info : TlsKeyInfo) (w w' : Client)
    (related : Related w w') (isOpen : 0 ≤ w.vars.netlinkSock)
    (answered : AnsweredByKernel (fun _ => true) (w.inbox w.vars.netlinkSock ++
      (stream (sendtoCount w.calls) (flowRequest (streamEnv order tid stream) tlsServiceFetch
        tuple)).map Datagram.delivery)) :
    SameAnswer (tlshubFetchKey (streamEnv order tid stream) (some tuple) (some info) w)
      (tlshubFetchKey (streamEnv order tid (kernelOnly stream)) (some tuple) (some info) w') := by
  have isOpen' : 0 ≤ w'.vars.netlinkSock := by rw [related.vars]; exact isOpen
  have toKernel := related.dest isOpen
  obtain ⟨messages, arrived, arrived'⟩ := related_arrivals stream w w' related
    w.vars.netlinkSock (flowRequest (streamEnv order tid stream) tlsServiceFetch tuple)
  rw [arrived] at answered
  rw [← related.vars] at arrived'
  cases messages with
  | nil =>
      obtain ⟨waiting, ran, made⟩ := tlshubFetchKey_unanswered order tid stream tuple info w
        isOpen arrived
      obtain ⟨waiting', ran', _⟩ := tlshubFetchKey_unanswered order tid (kernelOnly stream) tuple
        info w' isOpen' arrived'
      rw [ran, ran']
      refine ⟨rfl, fun _ returned => by simp at returned, ?_⟩
      rw [made]
      apply addressedToKernel_append _ _ related.addressed
      intro fd dest request result member
      simp only [List.mem_cons, Syscall.sendto.injEq, reduceCtorEq, List.not_mem_nil, or_false,
        false_or] at member
      rw [member.2.1]
      exact toKernel
  | cons first rest =>
      have fromIt := fromKernel_of_answered (fun _ => true) [] rest first answered
        (fun d member => by simp at member) rfl
      have kept : fromKernel first = true := by simp [fromKernel, fromIt]
      rw [List.filter_cons_of_pos kept] at arrived'
      rw [tlshubFetchKey_stream order tid stream tuple info w isOpen first rest arrived,
        tlshubFetchKey_stream order tid (kernelOnly stream) tuple info w' isOpen' first
          (rest.filter fromKernel) arrived']
      have next := related_afterExchange _ _ (related_malloc w w' related) w.vars.netlinkSock
        (flowRequest (streamEnv order tid stream) tlsServiceFetch tuple) [] [] rest first toKernel
        fromIt
      rw [related.vars]
      exact ⟨rfl, fun _ _ => next, next.addressed⟩

theorem fetchKey_related (tuple : Option FlowTuple) (keyInfo : Option TlsKeyInfo)
    (w w' : Client) (related : Related w w')
    (answered : EndsOnKernel order tid stream (.fetchKey tuple keyInfo) w) :
    SameAnswer (tlshubFetchKey (streamEnv order tid stream) tuple keyInfo w)
      (tlshubFetchKey (streamEnv order tid (kernelOnly stream)) tuple keyInfo w') := by
  by_cases refused : w.vars.netlinkSock < 0 ∨ tuple = none ∨ keyInfo = none
  · have refused' : w'.vars.netlinkSock < 0 ∨ tuple = none ∨ keyInfo = none := by
      rw [related.vars]
      exact refused
    rw [tlshubFetchKey_refused _ _ _ _ refused, tlshubFetchKey_refused _ _ _ _ refused']
    exact sameAnswer_refused (-1, keyInfo) w w' related
  · simp only [not_or, Int.not_lt] at refused
    obtain ⟨isOpen, hasTuple, hasInfo⟩ := refused
    obtain ⟨t, rfl⟩ := Option.ne_none_iff_exists'.mp hasTuple
    obtain ⟨info, rfl⟩ := Option.ne_none_iff_exists'.mp hasInfo
    exact fetchKey_open_related order tid stream t info w w' related isOpen (answered isOpen)

theorem sameAnswer_withoutInfo (program program' : Program Client Int) (w w' : Client)
    (same : SameAnswer (program w) (program' w')) :
    SameAnswer ((do let ret ← program; return (ret, (none : Option TlsKeyInfo))) w)
      ((do let ret ← program'; return (ret, (none : Option TlsKeyInfo))) w') := by
  obtain ⟨outcome, related, addressed⟩ := same
  rcases ran : program w with ⟨result, next⟩
  rcases ran' : program' w' with ⟨result', next'⟩
  rw [ran, ran'] at outcome related
  rw [ran] at addressed
  simp only at outcome
  subst outcome
  simp only [Program.bind_apply, ran, ran']
  cases result' with
  | returned ret => exact ⟨rfl, fun _ _ => related ret rfl, addressed⟩
  | exited code => exact ⟨rfl, fun _ returned => by simp at returned, addressed⟩
  | crashed => exact ⟨rfl, fun _ returned => by simp at returned, addressed⟩
  | blocked => exact ⟨rfl, fun _ returned => by simp at returned, addressed⟩

theorem exec_related (call : ClientCall) (w w' : Client) (related : Related w w')
    (answered : EndsOnKernel order tid stream call w) :
    SameAnswer (call.exec (streamEnv order tid stream) w)
      (call.exec (streamEnv order tid (kernelOnly stream)) w') := by
  cases call with
  | init =>
      apply sameAnswer_withoutInfo
      exact clientInit_related order tid stream w w' related answered
  | handshake tuple =>
      apply sameAnswer_withoutInfo
      exact clientHandshake_related order tid stream tuple w w' related answered
  | fetchKey tuple keyInfo =>
      exact fetchKey_related order tid stream tuple keyInfo w w' related answered

theorem related_start : Related (World.start ClientVars.initial) (World.start ClientVars.initial) where
  vars := rfl
  sends := rfl
  sockets := rfl
  queues := fun _ => ⟨[], rfl, rfl⟩
  addressed := by
    intro fd dest request result member
    contradiction
  dest := by
    intro isOpen
    contradiction

/-- If every call ends its wait on a message of the kernel, every request goes to
the kernel and all results are those of the run without the other senders. -/
theorem calls_same_without_other_senders (calls : List ClientCall)
    (answered : ∀ entry ∈ Program.history (ClientCall.exec (streamEnv order tid stream)) calls
      (World.start ClientVars.initial), EndsOnKernel order tid stream entry.1 entry.2) :
    (∀ entry ∈ Program.history (ClientCall.exec (streamEnv order tid stream)) calls
        (World.start ClientVars.initial),
      AddressedToKernel (entry.1.exec (streamEnv order tid stream) entry.2).2.calls) ∧
    (Program.runAll (ClientCall.exec (streamEnv order tid stream)) calls
        (World.start ClientVars.initial)).1 =
      (Program.runAll (ClientCall.exec (streamEnv order tid (kernelOnly stream))) calls
        (World.start ClientVars.initial)).1 := by
  constructor
  -- the second run is the first one without the messages of the others
  · have allRelated := Program.history_inv (ClientCall.exec (streamEnv order tid stream))
      (EndsOnKernel order tid stream) (fun w => ∃ w', Related w w')
      (by
        intro call w value next between ends ran
        obtain ⟨w', related⟩ := between
        have same := exec_related order tid stream call w w' related ends
        have kept := same.related value (by rw [ran])
        rw [ran] at kept
        exact ⟨_, kept⟩)
      calls _ ⟨_, related_start⟩ answered
    intro entry member
    obtain ⟨w', related⟩ := allRelated entry member
    exact (exec_related order tid stream entry.1 entry.2 w' related (answered entry member)).addressed
  · apply Program.runAll_simulation (ClientCall.exec (streamEnv order tid stream))
      (ClientCall.exec (streamEnv order tid (kernelOnly stream))) (EndsOnKernel order tid stream)
      Related
    · intro call w w' related ends
      have same := exec_related order tid stream call w w' related ends
      exact ⟨same.outcome.symm, same.related⟩
    · exact related_start
    · exact answered

end Origin

def otherSender : SockaddrNl := ⟨afNetlink, 77, 0⟩

def otherLog : Datagram := ⟨otherSender, List.replicate 16 0 ++ [msgTypeLog], by simp⟩

def sampleCalls : List ClientCall :=
  [.init, .fetchKey (some ⟨1, 2, 3, 4⟩) (some (fillKeyInfo KeyBack.zeroed)),
    .handshake (some ⟨1, 2, 3, 4⟩)]

/-- The log messages of another sender come ahead of the verdicts and behind the key. -/
def noisyStream (n : Nat) (_ : Request) : List Datagram :=
  match n with
  | 0 => [otherLog, Datagram.bare msgTypeInitComplete]
  | 1 => [Datagram.keyed kernelAddr 0 1, otherLog]
  | _ => [otherLog, Datagram.bare msgTypeHandshakeSuccess]

/-- The handshake passes over the message left by the fetch, and over the one that follows. -/
theorem sampleCalls_same_without_other_logs :
    (∀ entry ∈ Program.history (ClientCall.exec (streamEnv .little 42 noisyStream)) sampleCalls
        (World.start ClientVars.initial),
      AddressedToKernel (entry.1.exec (streamEnv .little 42 noisyStream) entry.2).2.calls) ∧
    (Program.runAll (ClientCall.exec (streamEnv .little 42 noisyStream)) sampleCalls
        (World.start ClientVars.initial)).1 =
      (Program.runAll (ClientCall.exec (streamEnv .little 42 (kernelOnly noisyStream)))
        sampleCalls (World.start ClientVars.initial)).1 :=
  calls_same_without_other_senders .little 42 noisyStream sampleCalls (by decide)

/-- The kernel answers INIT, FETCH and START, and `forged` comes before the
answer to the FETCH. -/
def sampleStream (forged : List Datagram) (n : Nat) (_ : Request) : List Datagram :=
  match n with
  | 0 => [Datagram.bare msgTypeInitComplete]
  | 1 => forged ++ [Datagram.keyed kernelAddr 0 1]
  | _ => [Datagram.bare msgTypeHandshakeSuccess]

/-- The forged key is delivered and the next request goes to the forger. -/
theorem forged_key_and_misdirected_request :
    let forged := sampleStream [Datagram.keyed otherSender 0 2]
    (Program.runAll (ClientCall.exec (streamEnv .little 42 forged)) sampleCalls
        (World.start ClientVars.initial)).1.map Prod.snd =
      [.returned (0, none), .returned (0, some (fillKeyInfo ⟨0, Vector.replicate 32 2⟩)),
        .returned (0, none)] ∧
    (Program.runAll (ClientCall.exec (streamEnv .little 42 (kernelOnly forged))) sampleCalls
        (World.start ClientVars.initial)).1.map Prod.snd =
      [.returned (0, none), .returned (0, some (fillKeyInfo ⟨0, Vector.replicate 32 1⟩)),
        .returned (0, none)] ∧
    ∃ request result, .sendto 3 otherSender request result ∈
      (Program.runAll (ClientCall.exec (streamEnv .little 42 forged)) sampleCalls
        (World.start ClientVars.initial)).2.calls := by
  intro forged
  refine ⟨by decide, by decide, ?_⟩
  exact ⟨flowRequest (streamEnv .little 42 forged) tlsServiceStart ⟨1, 2, 3, 4⟩,
    .sent requestLen.toNat, by decide⟩

end TlshubEbpf.Capture
