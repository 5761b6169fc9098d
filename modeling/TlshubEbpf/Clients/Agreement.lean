import TlshubEbpf.Capture.Stream
import TlshubEbpf.Api.Stream
import TlshubEbpf.Clients.ErrorTermination

/-! # The two user-space clients on the same streams

Both handshakes wait for the first message of a verdict type and both
fetch functions parse one message, so that on every stream that is received
without errors the capture client and the API read the same messages and come to
the same results. -/

set_option autoImplicit false

namespace TlshubEbpf.Clients

open TlshubEbpf.Lib TlshubEbpf.Netlink TlshubEbpf.Capture TlshubEbpf.Api

/-- The named constants of one client are the literals of the other. -/
theorem apiHandshakeSwitch_eq_client : apiHandshakeSwitch = clientHandshakeSwitch := rfl

structure Chatter where
  messages : List Datagram
  noVerdict : ∀ d ∈ messages, isVerdict d.msgType = false

def Chatter.append (early late : Chatter) : Chatter where
  messages := early.messages ++ late.messages
  noVerdict := by
    intro d member
    rcases List.mem_append.mp member with inEarly | inLate
    · exact early.noVerdict d inEarly
    · exact late.noVerdict d inLate

/-- What one request brings: its verdict and any messages before and after it. -/
structure Answer where
  before : Chatter
  verdict : Datagram
  after : Chatter
  decides : isVerdict verdict.msgType = true

def Answer.messages (answer : Answer) : List Datagram :=
  answer.before.messages ++ answer.verdict :: answer.after.messages

def Answer.result (answer : Answer) : Int := verdictResult answer.verdict.msgType

/-- A handshake took the messages up to the first verdict from the stream, left
`left`, and returned 0 for a success and a negative value for a failure. -/
def ReadsToVerdict (stream : List Datagram) (outcome : Outcome Int) (left : List Delivery) :
    Prop :=
  ∃ before verdict after, stream = before ++ verdict :: after ∧
    (∀ d ∈ before, isVerdict d.msgType = false) ∧ isVerdict verdict.msgType = true ∧
    left = after.map Datagram.delivery ∧
    ∃ ret, outcome = .returned ret ∧ (verdict.msgType ≠ 0x03 → ret = 0) ∧
      (verdict.msgType = 0x03 → ret < 0)

theorem verdictResult_cases (msgType : UInt8) :
    (msgType ≠ 0x03 → verdictResult msgType = 0) ∧
      (msgType = 0x03 → verdictResult msgType < 0) := by
  constructor
  · intro success
    rw [verdictResult, if_neg success]
  · intro failed
    rw [verdictResult, if_pos failed]
    decide

section Agreement
variable (order : ByteOrder) (tid : UInt32)

/-- Between two handshakes the queue holds no verdict. -/
def ClientBetween (sock : Int) (w : Client) : Prop :=
  w.vars.netlinkSock = sock ∧ 0 ≤ sock ∧
    ∃ pending : Chatter, w.inbox sock = pending.messages.map Datagram.delivery

def answersEnv (answers : Nat → Answer) : Env :=
  streamEnv order tid fun n _ => (answers n).messages

theorem clientHandshake_step (answers : Nat → Answer) (sock : Int) (tuple : FlowTuple)
    (w : Client) (between : ClientBetween sock w) :
    ∃ w', Capture.tlshubHandshake (answersEnv order tid answers) (some tuple) w =
        (.returned (answers (sendtoCount w.calls)).result, w') ∧
      ClientBetween sock w' ∧ sendtoCount w'.calls = sendtoCount w.calls + 1 := by
  obtain ⟨rfl, isOpen, pending, queue⟩ := between
  have ran := tlshubHandshake_reads order tid (fun n _ => (answers n).messages) tuple w isOpen
    (pending.append (answers (sendtoCount w.calls)).before).messages
    (answers (sendtoCount w.calls)).after.messages (answers (sendtoCount w.calls)).verdict
    (by simp [queue, Answer.messages, Chatter.append])
    (pending.append (answers (sendtoCount w.calls)).before).noVerdict
    (answers (sendtoCount w.calls)).decides
  refine ⟨_, ran, ⟨rfl, isOpen, (answers (sendtoCount w.calls)).after, ?_⟩, ?_⟩
  · simp [afterExchange]
  · rw [sendtoCount_afterExchange, sendtoCount_clientHandshakeReady]

theorem apiHandshake_reads (stream : Nat → Request → List Datagram) (stack : MyMsg)
    (pods : PodTuple) (w : Thread) (isOpen : -1 ≤ w.vars.gNetlinkCtx.skFd)
    (before after : List Datagram) (verdict : Datagram)
    (arrived : (if w.vars.gNetlinkCtx.skFd = -1 then [] else w.inbox w.vars.gNetlinkCtx.skFd) ++
      (stream (sendtoCount w.calls)
        (handshakeRequest (streamEnv order tid stream) w stack pods)).map Datagram.delivery =
        (before ++ verdict :: after).map Datagram.delivery)
    (noVerdict : ∀ d ∈ before, isVerdict d.msgType = false)
    (decides : isVerdict verdict.msgType = true) :
    Api.tlshubHandshake (streamEnv order tid stream) stack pods w =
      (.returned (verdictResult verdict.msgType),
        afterHandshake (streamEnv order tid stream) w
          (handshakeRequest (streamEnv order tid stream) w stack pods) before after verdict) := by
  apply tlshubHandshake_answered (streamEnv order tid stream) _ stack pods w before after verdict
    _ isOpen (fun _ => ⟨rfl, rfl⟩) (fun _ => rfl)
  · rw [streamEnv_peer, sendtoCount_handshakeReady]
  · rw [handshakeReady_inbox]
    exact arrived
  · rw [apiHandshakeSwitch_eq_client]
    exact clientHandshakeSwitch_passes before noVerdict
  · rw [apiHandshakeSwitch_eq_client]
    exact clientHandshakeSwitch_halts verdict decides

def ApiBetween (w : Thread) : Prop :=
  -1 ≤ w.vars.gNetlinkCtx.skFd ∧ ∃ pending : Chatter,
    (if w.vars.gNetlinkCtx.skFd = -1 then [] else w.inbox w.vars.gNetlinkCtx.skFd) =
      pending.messages.map Datagram.delivery

theorem apiHandshake_step (answers : Nat → Answer) (stack : MyMsg) (pods : PodTuple)
    (w : Thread) (between : ApiBetween w) :
    ∃ w', Api.tlshubHandshake (answersEnv order tid answers) stack pods w =
        (.returned (answers (sendtoCount w.calls)).result, w') ∧
      ApiBetween w' ∧ sendtoCount w'.calls = sendtoCount w.calls + 1 := by
  obtain ⟨isOpen, pending, queue⟩ := between
  have ran := apiHandshake_reads order tid (fun n _ => (answers n).messages) stack pods w isOpen
    (pending.append (answers (sendtoCount w.calls)).before).messages
    (answers (sendtoCount w.calls)).after.messages (answers (sendtoCount w.calls)).verdict
    (by simp [queue, Answer.messages, Chatter.append])
    (pending.append (answers (sendtoCount w.calls)).before).noVerdict
    (answers (sendtoCount w.calls)).decides
  obtain ⟨fd, daddr, ctxEq, nonneg⟩ := handshakeCtx_eq (answersEnv order tid answers) w isOpen
  have kept : (handshakeCtx (answersEnv order tid answers) w).skFd = fd := by rw [ctxEq]
  refine ⟨_, ran, ⟨?_, (answers (sendtoCount w.calls)).after, ?_⟩,
    sendtoCount_afterHandshake _ _ _ _ _ _⟩
  · change -1 ≤ (handshakeCtx (answersEnv order tid answers) w).skFd
    omega
  · have stillOpen : (handshakeCtx (answersEnv order tid answers) w).skFd ≠ -1 := by omega
    refine (if_neg stillOpen).trans ?_
    exact Function.update_self ..

/-- One reply is a key to the capture client exactly if it is one to the API. -/
def SameKey (client : Outcome (Int × Option TlsKeyInfo)) (api : Outcome KeyBack) : Prop :=
  ∃ ret keyInfo key, client = .returned (ret, keyInfo) ∧ api = .returned key ∧
    (ret = 0 ↔ key.status = 0) ∧
    (ret = 0 → ∃ info, keyInfo = some info ∧ info.key = key.masterkey)

theorem fetchKey_same_key (first : Datagram) (info : TlsKeyInfo) (sock : Nat)
    (destAddr : SockaddrNl) (nlh : Bool) (tuple : FlowTuple) (vars : ApiVars) (stack : MyMsg)
    (pods : PodTuple) :
    SameKey
      (Capture.tlshubFetchKey (streamEnv order tid fun _ _ => [first]) (some tuple) (some info)
        (World.start ⟨sock, destAddr, nlh⟩)).1
      (Api.tlshubFetchKey (streamEnv order tid fun _ _ => [first]) stack pods
        (World.start vars)).1 := by
  rw [tlshubFetchKey_stream order tid (fun _ _ => [first]) tuple info _ (Int.natCast_nonneg sock)
      first [] rfl,
    tlshubFetchKey_answered _ stack pods _ first [] rfl rfl rfl rfl]
  refine ⟨(fetchResult order first.delivery info).1, (fetchResult order first.delivery info).2,
    KeyBack.ofMsg order first.delivery.uInfo.msg, rfl, rfl, ?_⟩
  by_cases rejected : (KeyBack.ofMsg order first.delivery.uInfo.msg).status = 0
  · have found : fetchResult order first.delivery info =
        (0, some (fillKeyInfo (KeyBack.ofMsg order first.delivery.uInfo.msg))) := by
      simp [fetchResult, first.delivery_ret, rejected]
    rw [found]
    exact ⟨iff_of_true rfl rejected, fun _ => ⟨_, rfl, rfl⟩⟩
  · have found : fetchResult order first.delivery info = (-1, some info) := by
      simp [fetchResult, rejected]
    rw [found]
    have failed : ¬ (-1 : Int) = 0 := by decide
    exact ⟨iff_of_false failed rejected, fun zero => absurd zero failed⟩

theorem readsToVerdict_of_split (stream before after : List Datagram) (verdict : Datagram)
    (split : stream = before ++ verdict :: after)
    (noVerdict : ∀ d ∈ before, isVerdict d.msgType = false)
    (decides : isVerdict verdict.msgType = true) :
    ReadsToVerdict stream (.returned (verdictResult verdict.msgType))
      (after.map Datagram.delivery) :=
  ⟨before, verdict, after, split, noVerdict, decides, rfl, _, rfl,
    verdictResult_cases verdict.msgType⟩

theorem handshakes_read_to_verdict (stream : List Datagram)
    (decided : ∃ d ∈ stream, isVerdict d.msgType = true) :
    (∀ (sock : Nat) (destAddr : SockaddrNl) (nlh : Bool) (tuple : FlowTuple),
      let result := Capture.tlshubHandshake (streamEnv order tid fun _ _ => stream)
        (some tuple) (World.start ⟨sock, destAddr, nlh⟩)
      ReadsToVerdict stream result.1 (result.2.inbox sock)) ∧
    (∀ (sock : Option Nat) (nlh : Option NlmsgHdr) (daddr : SockaddrNl) (stack : MyMsg)
        (pods : PodTuple),
      let result := Api.tlshubHandshake (streamEnv order tid fun _ _ => stream) stack pods
        (World.start ⟨keptContext sock nlh daddr⟩)
      ReadsToVerdict stream result.1 (result.2.inbox result.2.vars.gNetlinkCtx.skFd)) := by
  obtain ⟨before, verdict, after, stream_eq, decides, noVerdict⟩ :=
    exists_first_stop (fun d => isVerdict d.msgType) stream decided
  have reads := readsToVerdict_of_split stream before after verdict stream_eq noVerdict decides
  constructor
  · intro sock destAddr nlh tuple result
    have ran := tlshubHandshake_reads order tid (fun _ _ => stream) tuple
      (World.start ⟨sock, destAddr, nlh⟩) (Int.natCast_nonneg sock) before after verdict
      (by simp [World.start, stream_eq]) noVerdict decides
    have left : result.2.inbox sock = after.map Datagram.delivery := by
      simp only [result, ran, afterExchange]
      exact Function.update_self ..
    rw [left]
    simp only [result, ran]
    exact reads
  · intro sock nlh daddr stack pods result
    have ran := apiHandshake_reads order tid (fun _ _ => stream) stack pods
      (World.start ⟨keptContext sock nlh daddr⟩) (keptContext_skFd sock nlh daddr) before after
      verdict (by split <;> simp [World.start, stream_eq]) noVerdict decides
    have left : result.2.inbox result.2.vars.gNetlinkCtx.skFd =
        after.map Datagram.delivery := by
      simp only [result, ran, afterHandshake]
      exact Function.update_self ..
    rw [left]
    simp only [result, ran]
    exact reads

theorem handshakes_return_verdicts (answers : Nat → Answer) :
    (∀ (sock : Nat) (destAddr : SockaddrNl) (nlh : Bool) (pending : Chatter)
        (calls : List FlowTuple),
      (Program.runAll
        (fun tuple => Capture.tlshubHandshake (answersEnv order tid answers) (some tuple)) calls
        ((World.start ⟨sock, destAddr, nlh⟩).setQueue sock
          (pending.messages.map Datagram.delivery))).1 =
        calls.mapIdx fun k call => (call, .returned (answers k).result)) ∧
    (∀ (sock : Option Nat) (nlh : Option NlmsgHdr) (daddr : SockaddrNl) (pending : Chatter)
        (calls : List (MyMsg × PodTuple)),
      (Program.runAll
        (fun call => Api.tlshubHandshake (answersEnv order tid answers) call.1 call.2) calls
        ((World.start ⟨keptContext sock nlh daddr⟩).setQueue (keptContext sock nlh daddr).skFd
          (pending.messages.map Datagram.delivery))).1 =
        calls.mapIdx fun k call => (call, .returned (answers k).result)) := by
  constructor
  · intro sock destAddr nlh pending calls
    have results := Program.runAll_counted
      (fun tuple => Capture.tlshubHandshake (answersEnv order tid answers) (some tuple))
      (ClientBetween sock) (fun w => sendtoCount w.calls) (fun n => (answers n).result)
      (clientHandshake_step order tid answers sock) calls
      ((World.start ⟨sock, destAddr, nlh⟩).setQueue sock
        (pending.messages.map Datagram.delivery))
      ⟨rfl, Int.natCast_nonneg sock, pending, Function.update_self ..⟩
    simpa [World.start, sendtoCount] using results
  · intro sock nlh daddr pending calls
    have between : ApiBetween ((World.start ⟨keptContext sock nlh daddr⟩).setQueue
        (keptContext sock nlh daddr).skFd (pending.messages.map Datagram.delivery)) := by
      refine ⟨keptContext_skFd sock nlh daddr, ?_⟩
      by_cases unset : (keptContext sock nlh daddr).skFd = -1
      · exact ⟨⟨[], by simp⟩, if_pos unset⟩
      · exact ⟨pending, (if_neg unset).trans (Function.update_self ..)⟩
    have results := Program.runAll_counted
      (fun call : MyMsg × PodTuple =>
        Api.tlshubHandshake (answersEnv order tid answers) call.1 call.2)
      ApiBetween (fun w => sendtoCount w.calls) (fun n => (answers n).result)
      (fun call => apiHandshake_step order tid answers call.1 call.2) calls _ between
    simpa [World.start, sendtoCount] using results

/-- The clients agree: on one stream, over sequences of handshakes, on one reply. -/
theorem clients_agree :
    (∀ stream : List Datagram, (∃ d ∈ stream, isVerdict d.msgType = true) →
      (∀ (sock : Nat) (destAddr : SockaddrNl) (nlh : Bool) (tuple : FlowTuple),
        let result := Capture.tlshubHandshake (streamEnv order tid fun _ _ => stream)
          (some tuple) (World.start ⟨sock, destAddr, nlh⟩)
        ReadsToVerdict stream result.1 (result.2.inbox sock)) ∧
      (∀ (sock : Option Nat) (nlh : Option NlmsgHdr) (daddr : SockaddrNl) (stack : MyMsg)
          (pods : PodTuple),
        let result := Api.tlshubHandshake (streamEnv order tid fun _ _ => stream) stack pods
          (World.start ⟨keptContext sock nlh daddr⟩)
        ReadsToVerdict stream result.1 (result.2.inbox result.2.vars.gNetlinkCtx.skFd))) ∧
    (∀ answers : Nat → Answer,
      (∀ (sock : Nat) (destAddr : SockaddrNl) (nlh : Bool) (pending : Chatter)
          (calls : List FlowTuple),
        (Program.runAll
          (fun tuple => Capture.tlshubHandshake (answersEnv order tid answers) (some tuple)) calls
          ((World.start ⟨sock, destAddr, nlh⟩).setQueue sock
            (pending.messages.map Datagram.delivery))).1 =
          calls.mapIdx fun k call => (call, .returned (answers k).result)) ∧
      (∀ (sock : Option Nat) (nlh : Option NlmsgHdr) (daddr : SockaddrNl) (pending : Chatter)
          (calls : List (MyMsg × PodTuple)),
        (Program.runAll
          (fun call => Api.tlshubHandshake (answersEnv order tid answers) call.1 call.2) calls
          ((World.start ⟨keptContext sock nlh daddr⟩).setQueue (keptContext sock nlh daddr).skFd
            (pending.messages.map Datagram.delivery))).1 =
          calls.mapIdx fun k call => (call, .returned (answers k).result))) ∧
    (∀ (first : Datagram) (info : TlsKeyInfo) (sock : Nat) (destAddr : SockaddrNl) (nlh : Bool)
        (tuple : FlowTuple) (vars : ApiVars) (stack : MyMsg) (pods : PodTuple),
      SameKey
        (Capture.tlshubFetchKey (streamEnv order tid fun _ _ => [first]) (some tuple) (some info)
          (World.start ⟨sock, destAddr, nlh⟩)).1
        (Api.tlshubFetchKey (streamEnv order tid fun _ _ => [first]) stack pods
          (World.start vars)).1) := by
  refine ⟨?_, ?_, ?_⟩
  · exact handshakes_read_to_verdict order tid
  · exact handshakes_return_verdicts order tid
  · exact fetchKey_same_key order tid

end Agreement

/-- A failure after a log message, with a later success left in the queue. -/
theorem clients_agree_on_failure_after_log :
    let stream := [Datagram.bare 0x04, Datagram.bare 0x03, Datagram.bare 0x01]
    let result := Capture.tlshubHandshake (streamEnv .little 42 fun _ _ => stream)
      (some ⟨1, 2, 3, 4⟩) (World.start ⟨3, kernelAddr, true⟩)
    ReadsToVerdict stream result.1 (result.2.inbox 3) :=
  ((clients_agree .little 42).1 [Datagram.bare 0x04, Datagram.bare 0x03, Datagram.bare 0x01]
    ⟨Datagram.bare 0x03, by simp, by decide⟩).1 3 kernelAddr true ⟨1, 2, 3, 4⟩

end TlshubEbpf.Clients
