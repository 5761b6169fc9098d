import TlshubEbpf.Capture.KeyProvider
import TlshubEbpf.Netlink.Requests

/-! # The trace of one `key_provider_get_key`

In the mode `MODE_TLSHUB`, with all system calls succeeding and any messages
whatever on the socket.  A call takes one of six courses: each of its two fetches
and its handshake may wait for ever, each fetch may deliver a key, and the
handshake may fail. -/

set_option autoImplicit false

namespace TlshubEbpf.Capture

open TlshubEbpf.Lib TlshubEbpf.Netlink

def keyBackOf (order : ByteOrder) (reply : Delivery) : KeyBack :=
  KeyBack.ofMsg order reply.uInfo.msg

/-- What a call does, by the messages it reads. -/
inductive Course where
  | unanswered
  | fetched (reply : Datagram)
  | startUnanswered (reply : Datagram) (read : List Datagram)
  | startFailed (reply : Datagram) (before : List Datagram) (verdict : Datagram)
  | refetchUnanswered (reply : Datagram) (before : List Datagram) (verdict : Datagram)
  | refetched (reply : Datagram) (before : List Datagram) (verdict second : Datagram)

section Courses
variable (order : ByteOrder) (fetch start : Request) (info : TlsKeyInfo)

def Accepted (reply : Datagram) : Prop := (keyBackOf order reply.delivery).status = 0

def Course.asked : Course → List Request
  | .unanswered => [fetch]
  | .fetched _ => [fetch]
  | .startUnanswered _ _ => [fetch, start]
  | .startFailed _ _ _ => [fetch, start]
  | .refetchUnanswered _ _ _ => [fetch, start, fetch]
  | .refetched _ _ _ _ => [fetch, start, fetch]

def readAfter (request : Request) (read : List Datagram) : List (Request × Delivery) :=
  read.map fun d => (request, d.delivery)

def Course.answers : Course → List (Request × Delivery)
  | .unanswered => []
  | .fetched reply => [(fetch, reply.delivery)]
  | .startUnanswered reply read => (fetch, reply.delivery) :: readAfter start read
  | .startFailed reply before verdict =>
      (fetch, reply.delivery) :: readAfter start (before ++ [verdict])
  | .refetchUnanswered reply before verdict =>
      (fetch, reply.delivery) :: readAfter start (before ++ [verdict])
  | .refetched reply before verdict second =>
      (fetch, reply.delivery) ::
        (readAfter start (before ++ [verdict]) ++ [(fetch, second.delivery)])

def Course.outcome : Course → Outcome (Int × Option TlsKeyInfo)
  | .unanswered => .blocked
  | .fetched reply => .returned (0, some (fillKeyInfo (keyBackOf order reply.delivery)))
  | .startUnanswered _ _ => .blocked
  | .startFailed _ _ _ => .returned (-1, some info)
  | .refetchUnanswered _ _ _ => .blocked
  | .refetched _ _ _ second => .returned (fetchResult order second.delivery info)

def Course.Possible : Course → Prop
  | .unanswered => True
  | .fetched reply => Accepted order reply
  | .startUnanswered reply read =>
      ¬ Accepted order reply ∧ ∀ d ∈ read, isVerdict d.msgType = false
  | .startFailed reply before verdict =>
      ¬ Accepted order reply ∧ (∀ d ∈ before, isVerdict d.msgType = false) ∧
        verdict.msgType = 0x03
  | .refetchUnanswered reply before verdict =>
      ¬ Accepted order reply ∧ (∀ d ∈ before, isVerdict d.msgType = false) ∧
        isVerdict verdict.msgType = true ∧ verdict.msgType ≠ 0x03
  | .refetched reply before verdict _ =>
      ¬ Accepted order reply ∧ (∀ d ∈ before, isVerdict d.msgType = false) ∧
        isVerdict verdict.msgType = true ∧ verdict.msgType ≠ 0x03

theorem fetchResult_accepted (reply : Datagram) (accepted : Accepted order reply) :
    fetchResult order reply.delivery info =
      (0, some (fillKeyInfo (keyBackOf order reply.delivery))) := by
  refine if_neg ?_
  rintro (unread | refused)
  · exact reply.delivery_ret unread
  · exact refused accepted

theorem fetchResult_refused (reply : Datagram) (refused : ¬ Accepted order reply) :
    fetchResult order reply.delivery info = (-1, some info) :=
  if_pos (Or.inr refused)

theorem fetchResult_settled (reply : Datagram) : (fetchResult order reply.delivery info).1 ≤ 0 := by
  by_cases accepted : Accepted order reply
  · have zero := congrArg Prod.fst (fetchResult_accepted order info reply accepted)
    exact Int.le_of_eq zero
  · have failure := congrArg Prod.fst (fetchResult_refused order info reply accepted)
    dsimp only at failure
    omega

end Courses

/-! ## One exchange after the other -/

structure Listening (sock : Int) (w : Client) : Prop where
  socket : w.vars.netlinkSock = sock
  queue : ∃ messages : List Datagram, w.inbox sock = messages.map Datagram.delivery

section Steps
variable (order : ByteOrder) (tid : UInt32) (stream : Nat → Request → List Datagram)
  (tuple : FlowTuple) (info : TlsKeyInfo)

def fetchOf : Request := flowRequest (streamEnv order tid stream) tlsServiceFetch tuple

def startOf : Request := flowRequest (streamEnv order tid stream) tlsServiceStart tuple

theorem fetchOf_ne_startOf : fetchOf order tid stream tuple ≠ startOf order tid stream tuple := by
  intro same
  have opcodes : tlsServiceFetch = tlsServiceStart :=
    congrArg (fun request : Request => request.body.opcode) same
  exact absurd opcodes (by decide)

variable (sock : Int) (isOpen : 0 ≤ sock) (w : Client) (listening : Listening sock w)
  (asked : List Request) (answers : List (Request × Delivery))
  (conversed : Conversed w.calls asked answers)
include isOpen listening conversed

/-- A fetch reads one message, or waits for ever. -/
theorem fetch_step :
    ∃ w', ((∃ reply : Datagram,
        tlshubFetchKey (streamEnv order tid stream) (some tuple) (some info) w =
          (.returned (fetchResult order reply.delivery info), w') ∧
        Listening sock w' ∧
        Conversed w'.calls (asked ++ [fetchOf order tid stream tuple])
          (answers ++ [(fetchOf order tid stream tuple, reply.delivery)])) ∨
      (tlshubFetchKey (streamEnv order tid stream) (some tuple) (some info) w = (.blocked, w') ∧
        Conversed w'.calls (asked ++ [fetchOf order tid stream tuple]) answers)) := by
  obtain ⟨rfl, messages, queue⟩ := listening
  have arrived : w.inbox w.vars.netlinkSock ++ (stream (sendtoCount w.calls)
      (fetchOf order tid stream tuple)).map Datagram.delivery =
        (messages ++ stream (sendtoCount w.calls)
          (fetchOf order tid stream tuple)).map Datagram.delivery := by
    rw [queue, List.map_append]
  cases found : messages ++ stream (sendtoCount w.calls) (fetchOf order tid stream tuple) with
  | nil =>
      rw [found] at arrived
      obtain ⟨waiting, ran, calls⟩ :=
        tlshubFetchKey_unanswered order tid stream tuple info w isOpen arrived
      refine ⟨waiting, Or.inr ⟨ran, ?_⟩⟩
      have asks := conversed_exchange w.vars.netlinkSock w.vars.destAddr
        (fetchOf order tid stream tuple) (.sent requestLen.toNat) []
        (conversed_malloc true conversed)
      simp only [List.map_nil, List.append_nil, List.append_assoc] at asks
      rw [calls]
      exact asks
  | cons reply rest =>
      rw [found] at arrived
      refine ⟨_, Or.inl ⟨reply,
        tlshubFetchKey_stream order tid stream tuple info w isOpen reply rest arrived, ?_, ?_⟩⟩
      · exact ⟨rfl, rest, Function.update_self ..⟩
      · exact conversed_exchange w.vars.netlinkSock w.vars.destAddr
          (fetchOf order tid stream tuple) (.sent requestLen.toNat) [reply]
          (conversed_malloc true conversed)

omit isOpen listening in
theorem handshakeReady_conversed : Conversed (clientHandshakeReady w).calls asked answers := by
  simp only [clientHandshakeReady, clientHandshakeSetup]
  split
  · rw [List.append_nil]
    exact conversed
  · exact conversed_malloc true conversed

theorem start_step :
    ∃ w', ((∃ (before : List Datagram) (verdict : Datagram),
        (∀ d ∈ before, isVerdict d.msgType = false) ∧ isVerdict verdict.msgType = true ∧
        tlshubHandshake (streamEnv order tid stream) (some tuple) w =
          (.returned (verdictResult verdict.msgType), w') ∧
        Listening sock w' ∧
        Conversed w'.calls (asked ++ [startOf order tid stream tuple])
          (answers ++ (before ++ [verdict]).map fun d =>
            (startOf order tid stream tuple, d.delivery))) ∨
      ∃ read : List Datagram, (∀ d ∈ read, isVerdict d.msgType = false) ∧
        tlshubHandshake (streamEnv order tid stream) (some tuple) w = (.blocked, w') ∧
        Conversed w'.calls (asked ++ [startOf order tid stream tuple])
          (answers ++ read.map fun d => (startOf order tid stream tuple, d.delivery))) := by
  obtain ⟨rfl, messages, queue⟩ := listening
  have ready := handshakeReady_conversed w asked answers conversed
  have arrived : w.inbox w.vars.netlinkSock ++ (stream (sendtoCount w.calls)
      (startOf order tid stream tuple)).map Datagram.delivery =
        (messages ++ stream (sendtoCount w.calls)
          (startOf order tid stream tuple)).map Datagram.delivery := by
    rw [queue, List.map_append]
  generalize messages ++ stream (sendtoCount w.calls) (startOf order tid stream tuple) = found
    at arrived
  by_cases decided : ∃ d ∈ found, isVerdict d.msgType = true
  · obtain ⟨before, verdict, after, split, decides, noVerdict⟩ :=
      exists_first_stop (fun d : Datagram => isVerdict d.msgType) found decided
    rw [split] at arrived
    have ran := tlshubHandshake_reads order tid stream tuple w isOpen before after verdict arrived
      noVerdict decides
    refine ⟨_, Or.inl ⟨before, verdict, noVerdict, decides, ran, ?_, ?_⟩⟩
    · exact ⟨rfl, after, Function.update_self ..⟩
    · exact conversed_exchange w.vars.netlinkSock w.vars.destAddr
        (startOf order tid stream tuple) (.sent requestLen.toNat) (before ++ [verdict]) ready
  · have noVerdict : ∀ d ∈ found, isVerdict d.msgType = false := by
      intro d member
      exact Bool.not_eq_true _ ▸ fun decides => decided ⟨d, member, decides⟩
    obtain ⟨waiting, ran, calls⟩ := waitLoop_unanswered order tid stream (clientHandshakeReady w)
      w.vars.netlinkSock (startOf order tid stream tuple) (pure (-1)) clientHandshakeSwitch found
      (by
        rw [sendtoCount_clientHandshakeReady]
        exact arrived)
      (clientHandshakeSwitch_passes found noVerdict)
    refine ⟨waiting, Or.inr ⟨found, noVerdict, ?_, ?_⟩⟩
    · rw [tlshubHandshake_stream order tid stream tuple w isOpen]
      exact ran
    · rw [calls]
      exact conversed_exchange w.vars.netlinkSock w.vars.destAddr
        (startOf order tid stream tuple) (.sent requestLen.toNat) found ready

end Steps

section Courses
variable (order : ByteOrder) (tid : UInt32) (stream : Nat → Request → List Datagram)
  (opensslGetKey : FlowTuple → TlsKeyInfo → Program Client (Int × Option TlsKeyInfo))
  (tuple : FlowTuple) (info : TlsKeyInfo)

def tracedGetKey : Program Client (Int × Option TlsKeyInfo) :=
  keyProviderGetKey (streamEnv order tid stream) opensslGetKey .tlshub (some tuple) (some info)

def Takes (course : Course) (result : Outcome (Int × Option TlsKeyInfo) × Client) : Prop :=
  course.Possible order ∧ result.1 = course.outcome order info ∧
    Conversed result.2.calls
      (course.asked (fetchOf order tid stream tuple) (startOf order tid stream tuple))
      (course.answers (fetchOf order tid stream tuple) (startOf order tid stream tuple))

variable (sock : Int) (isOpen : 0 ≤ sock) (w : Client)
include isOpen

theorem tracedGetKey_refused (w1 : Client) (reply : Datagram) (refused : ¬ Accepted order reply)
    (ran1 : tlshubFetchKey (streamEnv order tid stream) (some tuple) (some info) w =
      (.returned (-1, some info), w1))
    (listening1 : Listening sock w1)
    (conversed1 : Conversed w1.calls [fetchOf order tid stream tuple]
      [(fetchOf order tid stream tuple, reply.delivery)]) :
    ∃ course, Takes order tid stream tuple info course
      (tracedGetKey order tid stream opensslGetKey tuple info w) := by
  obtain ⟨w2, ⟨before, verdict, noVerdict, decides, ran2, listening2, conversed2⟩ |
    ⟨read, noVerdict, ran2, conversed2⟩⟩ := start_step order tid stream tuple sock isOpen w1
      listening1 _ _ conversed1
  · by_cases failed : verdict.msgType = 0x03
    · rw [verdictResult, if_pos failed] at ran2
      have ran : tracedGetKey order tid stream opensslGetKey tuple info w =
          (.returned (-1, some info), w2) :=
        keyProviderGetKey_start_failed _ opensslGetKey tuple info w w1 w2 ran1 ran2
      rw [ran]
      exact ⟨.startFailed reply before verdict, ⟨refused, noVerdict, failed⟩, rfl, conversed2⟩
    · have success : verdictResult verdict.msgType = 0 := if_neg failed
      rw [success] at ran2
      obtain ⟨w3, ⟨second, ran3, _, conversed3⟩ | ⟨ran3, conversed3⟩⟩ :=
        fetch_step order tid stream tuple info sock isOpen w2 listening2 _ _ conversed2
      · have ran : tracedGetKey order tid stream opensslGetKey tuple info w =
            (.returned (fetchResult order second.delivery info), w3) :=
          keyProviderGetKey_refetched _ opensslGetKey tuple info w w1 w2 w3 ran1 ran2 _ _
            (fetchResult_settled order info second) ran3
        rw [ran]
        exact ⟨.refetched reply before verdict second, ⟨refused, noVerdict, decides, failed⟩, rfl,
          conversed3⟩
      · have ran : tracedGetKey order tid stream opensslGetKey tuple info w = (.blocked, w3) :=
          keyProviderGetKey_refetch_blocked _ opensslGetKey tuple info w w1 w2 w3 ran1 ran2 ran3
        rw [ran]
        exact ⟨.refetchUnanswered reply before verdict, ⟨refused, noVerdict, decides, failed⟩, rfl,
          conversed3⟩
  · have ran : tracedGetKey order tid stream opensslGetKey tuple info w = (.blocked, w2) :=
      keyProviderGetKey_start_blocked _ opensslGetKey tuple info w w1 w2 ran1 ran2
    rw [ran]
    exact ⟨.startUnanswered reply read, ⟨refused, noVerdict⟩, rfl, conversed2⟩

theorem tracedGetKey_course (listening : Listening sock w) (conversed : Conversed w.calls [] []) :
    ∃ course, Takes order tid stream tuple info course
      (tracedGetKey order tid stream opensslGetKey tuple info w) := by
  obtain ⟨w1, ⟨reply, ran1, listening1, conversed1⟩ | ⟨ran1, conversed1⟩⟩ :=
    fetch_step order tid stream tuple info sock isOpen w listening _ _ conversed
  · by_cases accepted : Accepted order reply
    · rw [fetchResult_accepted order info reply accepted] at ran1
      have ran : tracedGetKey order tid stream opensslGetKey tuple info w =
          (.returned (0, some (fillKeyInfo (keyBackOf order reply.delivery))), w1) :=
        keyProviderGetKey_fetched _ opensslGetKey tuple info w w1 _ ran1
      rw [ran]
      exact ⟨.fetched reply, accepted, rfl, conversed1⟩
    · rw [fetchResult_refused order info reply accepted] at ran1
      exact tracedGetKey_refused order tid stream opensslGetKey tuple info sock isOpen w w1 reply
        accepted ran1 listening1 conversed1
  · have ran : tracedGetKey order tid stream opensslGetKey tuple info w = (.blocked, w1) :=
      keyProviderGetKey_fetch_blocked _ opensslGetKey tuple info w w1 ran1
    rw [ran]
    exact ⟨.unanswered, trivial, rfl, conversed1⟩

end Courses

def firstVerdict (start : Request) (answers : List (Request × Delivery)) :
    Option (Request × Delivery) :=
  answers.find? fun answer => decide (answer.1 = start) && isVerdict answer.2.uInfo.msgType

section Common
variable (order : ByteOrder) (fetch start : Request) (info : TlsKeyInfo) (course : Course)
  (distinct : fetch ≠ start) (possible : course.Possible order)

theorem course_sequence :
    course.asked fetch start = [fetch] ∨ course.asked fetch start = [fetch, start] ∨
      course.asked fetch start = [fetch, start, fetch] := by
  cases course with
  | unanswered => exact Or.inl rfl
  | fetched reply => exact Or.inl rfl
  | startUnanswered reply read => exact Or.inr (Or.inl rfl)
  | startFailed reply before verdict => exact Or.inr (Or.inl rfl)
  | refetchUnanswered reply before verdict => exact Or.inr (Or.inr rfl)
  | refetched reply before verdict second => exact Or.inr (Or.inr rfl)

theorem firstVerdict_none (reply : Datagram) (read : List Datagram) (distinct : fetch ≠ start)
    (noVerdict : ∀ d ∈ read, isVerdict d.msgType = false) :
    firstVerdict start ((fetch, reply.delivery) :: readAfter start read) = none := by
  apply List.find?_eq_none.mpr
  intro answer member
  rcases List.mem_cons.mp member with rfl | member
  · simp [distinct]
  · obtain ⟨d, inRead, rfl⟩ := List.mem_map.mp member
    simp [noVerdict d inRead]

theorem firstVerdict_some (reply verdict : Datagram) (before : List Datagram)
    (rest : List (Request × Delivery)) (distinct : fetch ≠ start)
    (noVerdict : ∀ d ∈ before, isVerdict d.msgType = false)
    (decides : isVerdict verdict.msgType = true) :
    firstVerdict start ((fetch, reply.delivery) ::
        (readAfter start (before ++ [verdict]) ++ rest)) = some (start, verdict.delivery) := by
  have early := firstVerdict_none fetch start reply before distinct noVerdict
  have split : (fetch, reply.delivery) :: (readAfter start (before ++ [verdict]) ++ rest) =
      ((fetch, reply.delivery) :: readAfter start before) ++
        (start, verdict.delivery) :: rest := by
    simp [readAfter]
  rw [firstVerdict] at early ⊢
  rw [split, List.find?_append, early, Option.none_or]
  exact List.find?_cons_of_pos (by simp [decides])

include possible

theorem course_started (distinct : fetch ≠ start) :
    start ∈ course.asked fetch start ↔
      ∃ reply, (course.answers fetch start).head? = some (fetch, reply) ∧
        (keyBackOf order reply).status ≠ 0 := by
  cases course with
  | unanswered => simp [Course.asked, Course.answers, distinct.symm]
  | fetched reply =>
      have accepted : (keyBackOf order reply.delivery).status = 0 := possible
      simp [Course.asked, Course.answers, distinct.symm, accepted]
  | startUnanswered reply read => simpa [Course.asked, Course.answers, Accepted] using possible.1
  | startFailed reply before verdict => simpa [Course.asked, Course.answers, Accepted] using possible.1
  | refetchUnanswered reply before verdict =>
      simpa [Course.asked, Course.answers, Accepted] using possible.1
  | refetched reply before verdict second =>
      simpa [Course.asked, Course.answers, Accepted] using possible.1

/-- The verdicts that let the second fetch follow. -/
def Succeeds (msgType : UInt8) : Prop := msgType = 0x01 ∨ msgType = 0x02 ∨ msgType = 0x05

omit possible in
theorem succeeds_iff (msgType : UInt8) :
    Succeeds msgType ↔ isVerdict msgType = true ∧ msgType ≠ 0x03 := by
  simp only [Succeeds, isVerdict, Bool.or_eq_true, beq_iff_eq]
  constructor
  · rintro (rfl | rfl | rfl) <;> decide
  · rintro ⟨((one | two) | three) | five, notThree⟩
    · exact Or.inl one
    · exact Or.inr (Or.inl two)
    · exact absurd three notThree
    · exact Or.inr (Or.inr five)

theorem course_refetched (distinct : fetch ≠ start) :
    course.asked fetch start = [fetch, start, fetch] ↔
      ∃ verdict, firstVerdict start (course.answers fetch start) = some (start, verdict) ∧
        Succeeds verdict.uInfo.msgType := by
  cases course with
  | unanswered => simp [Course.asked, Course.answers, firstVerdict]
  | fetched reply =>
      have none := firstVerdict_none fetch start reply [] distinct (by simp)
      simp only [readAfter, List.map_nil] at none
      simp [Course.asked, Course.answers, none]
  | startUnanswered reply read =>
      simp [Course.asked, Course.answers,
        firstVerdict_none fetch start reply read distinct possible.2]
  | startFailed reply before verdict =>
      obtain ⟨_, noVerdict, failed⟩ := possible
      have found := firstVerdict_some fetch start reply verdict before [] distinct noVerdict
        (by rw [failed]; rfl)
      rw [List.append_nil] at found
      simp [Course.asked, Course.answers, found, Succeeds, failed]
  | refetchUnanswered reply before verdict =>
      obtain ⟨_, noVerdict, decides, succeeded⟩ := possible
      have found := firstVerdict_some fetch start reply verdict before [] distinct noVerdict
        decides
      rw [List.append_nil] at found
      simp [Course.asked, Course.answers, found, succeeds_iff, decides, succeeded]
  | refetched reply before verdict second =>
      obtain ⟨_, noVerdict, decides, succeeded⟩ := possible
      have found := firstVerdict_some fetch start reply verdict before
        [(fetch, second.delivery)] distinct noVerdict decides
      simp [Course.asked, Course.answers, found, succeeds_iff, decides, succeeded]

def EndsAccepted (order : ByteOrder) (fetch : Request) (answers : List (Request × Delivery))
    (reply : Delivery) : Prop :=
  answers.getLast? = some (fetch, reply) ∧ (keyBackOf order reply).status = 0

omit possible in
theorem not_endsAccepted_read (reply : Datagram) (read : List Datagram) (last : Delivery)
    (distinct : fetch ≠ start) (refused : ¬ Accepted order reply) :
    ¬ EndsAccepted order fetch ((fetch, reply.delivery) :: readAfter start read) last := by
  rintro ⟨ends, accepted⟩
  rcases List.eq_nil_or_concat read with rfl | ⟨read, d, rfl⟩
  · have same : reply.delivery = last := by simpa [readAfter] using ends
    rw [← same] at accepted
    exact refused accepted
  · have same : start = fetch ∧ d.delivery = last := by
      simpa [readAfter, List.getLast?_cons] using ends
    exact distinct same.1.symm

theorem course_outcome (distinct : fetch ≠ start) :
    (∃ reply, EndsAccepted order fetch (course.answers fetch start) reply ∧
      course.outcome order info = .returned (0, some (fillKeyInfo (keyBackOf order reply)))) ∨
    ((∀ reply, ¬ EndsAccepted order fetch (course.answers fetch start) reply) ∧
      (course.outcome order info = .blocked ∨
        course.outcome order info = .returned (-1, some info))) := by
  cases course with
  | unanswered =>
      refine Or.inr ⟨?_, Or.inl rfl⟩
      rintro reply ⟨ends, _⟩
      cases ends
  | fetched reply => exact Or.inl ⟨reply.delivery, ⟨rfl, possible⟩, rfl⟩
  | startUnanswered reply read =>
      exact Or.inr ⟨fun last => not_endsAccepted_read order fetch start reply read last distinct
        possible.1, Or.inl rfl⟩
  | startFailed reply before verdict =>
      exact Or.inr ⟨fun last => not_endsAccepted_read order fetch start reply _ last distinct
        possible.1, Or.inr rfl⟩
  | refetchUnanswered reply before verdict =>
      exact Or.inr ⟨fun last => not_endsAccepted_read order fetch start reply _ last distinct
        possible.1, Or.inl rfl⟩
  | refetched reply before verdict second =>
      have ends : (Course.answers fetch start (.refetched reply before verdict second)).getLast? =
          some (fetch, second.delivery) := by
        simp [Course.answers, List.getLast?_cons]
      by_cases accepted : Accepted order second
      · refine Or.inl ⟨second.delivery, ⟨ends, accepted⟩, ?_⟩
        exact congrArg Outcome.returned (fetchResult_accepted order info second accepted)
      · refine Or.inr ⟨?_, Or.inr ?_⟩
        · rintro last ⟨endsLast, acceptedLast⟩
          rw [ends] at endsLast
          cases endsLast
          exact accepted acceptedLast
        · exact congrArg Outcome.returned (fetchResult_refused order info second accepted)

end Common

/-- The requests, the replies and the result of a call, as they belong together. -/
structure FollowsProtocol (order : ByteOrder) (fetch start : Request) (info : TlsKeyInfo)
    (calls : List Syscall) (outcome : Outcome (Int × Option TlsKeyInfo)) : Prop where
  sequence : requests calls = [fetch] ∨ requests calls = [fetch, start] ∨
    requests calls = [fetch, start, fetch]
  started : start ∈ requests calls ↔
    ∃ reply, (replies calls).head? = some (fetch, reply) ∧ (keyBackOf order reply).status ≠ 0
  refetched : requests calls = [fetch, start, fetch] ↔
    ∃ verdict, firstVerdict start (replies calls) = some (start, verdict) ∧
      Succeeds verdict.uInfo.msgType
  obtained : (∃ keyInfo, outcome = .returned (0, keyInfo)) ↔
    ∃ reply, EndsAccepted order fetch (replies calls) reply
  delivered : ∀ keyInfo, outcome = .returned (0, keyInfo) →
    ∃ reply found, EndsAccepted order fetch (replies calls) reply ∧ keyInfo = some found ∧
      found.key = (keyBackOf order reply).masterkey ∧ found.keyLen = 32 ∧
      found.iv = Vector.replicate 16 0 ∧ found.ivLen = 12 ∧
      (wholeKeyBack reply.bytes → found.key.toList = masterkeyField reply.bytes)
  unchanged : ∀ ret keyInfo, outcome = .returned (ret, keyInfo) → ret < 0 → keyInfo = some info
  returns : outcome = .blocked ∨ ∃ ret keyInfo, outcome = .returned (ret, keyInfo) ∧ ret ≤ 0

theorem not_obtained {outcome : Outcome (Int × Option TlsKeyInfo)} {info : TlsKeyInfo}
    (without : outcome = .blocked ∨ outcome = .returned (-1, some info))
    (keyInfo : Option TlsKeyInfo) : outcome ≠ .returned (0, keyInfo) := by
  intro returned
  rcases without with rfl | rfl
  · cases returned
  · cases returned

theorem followsProtocol_of_takes (order : ByteOrder) (tid : UInt32)
    (stream : Nat → Request → List Datagram) (tuple : FlowTuple) (info : TlsKeyInfo)
    (course : Course) (result : Outcome (Int × Option TlsKeyInfo) × Client)
    (takes : Takes order tid stream tuple info course result) :
    FollowsProtocol order (fetchOf order tid stream tuple) (startOf order tid stream tuple) info
      result.2.calls result.1 := by
  obtain ⟨possible, outcome, conversed⟩ := takes
  have distinct := fetchOf_ne_startOf order tid stream tuple
  have ends := course_outcome order _ _ info course possible distinct
  rw [← outcome, ← conversed.replies_eq] at ends
  refine
    { sequence := ?_
      started := ?_
      refetched := ?_
      obtained := ?_
      delivered := ?_
      unchanged := ?_
      returns := ?_ }
  · rw [conversed.requests_eq]
    exact course_sequence _ _ course
  · rw [conversed.requests_eq, conversed.replies_eq]
    exact course_started order _ _ course possible distinct
  · rw [conversed.requests_eq, conversed.replies_eq]
    exact course_refetched order _ _ course possible distinct
  · rcases ends with ⟨reply, accepted, returned⟩ | ⟨none, without⟩
    · exact iff_of_true ⟨_, returned⟩ ⟨reply, accepted⟩
    · exact iff_of_false (fun ⟨keyInfo, returned⟩ => not_obtained without keyInfo returned)
        fun ⟨reply, accepted⟩ => none reply accepted
  · intro keyInfo returned
    rcases ends with ⟨reply, accepted, delivered⟩ | ⟨_, without⟩
    · rw [delivered] at returned
      cases returned
      exact ⟨reply, _, accepted, rfl, rfl, rfl, rfl, rfl, masterkey_toList order reply.bytes⟩
    · exact absurd returned (not_obtained without keyInfo)
  · intro ret keyInfo returned negative
    rcases ends with ⟨reply, _, delivered⟩ | ⟨_, blocked | failed⟩
    · rw [delivered] at returned
      cases returned
      cases negative
    · rw [blocked] at returned
      cases returned
    · rw [failed] at returned
      cases returned
      rfl
  · rcases ends with ⟨reply, _, delivered⟩ | ⟨_, blocked | failed⟩
    · exact Or.inr ⟨_, _, delivered, Int.le_refl 0⟩
    · exact Or.inl blocked
    · exact Or.inr ⟨_, _, failed, by decide⟩

def openClient (sock : Nat) (destAddr : SockaddrNl) (nlh : Bool) (pending : List Datagram) :
    Client :=
  (World.start ⟨sock, destAddr, nlh⟩).setQueue sock (pending.map Datagram.delivery)

/-- Whatever messages wait on the socket and arrive after each request. -/
theorem getKey_followsProtocol (order : ByteOrder) (tid : UInt32)
    (stream : Nat → Request → List Datagram)
    (opensslGetKey : FlowTuple → TlsKeyInfo → Program Client (Int × Option TlsKeyInfo))
    (tuple : FlowTuple) (info : TlsKeyInfo) (sock : Nat) (destAddr : SockaddrNl) (nlh : Bool)
    (pending : List Datagram) :
    let result := tracedGetKey order tid stream opensslGetKey tuple info
      (openClient sock destAddr nlh pending)
    FollowsProtocol order (fetchOf order tid stream tuple) (startOf order tid stream tuple) info
      result.2.calls result.1 := by
  intro result
  have listening : Listening sock (openClient sock destAddr nlh pending) :=
    ⟨rfl, pending, Function.update_self ..⟩
  obtain ⟨course, takes⟩ := tracedGetKey_course order tid stream opensslGetKey tuple info sock
    (Int.natCast_nonneg sock) _ listening ⟨rfl, rfl⟩
  exact followsProtocol_of_takes order tid stream tuple info course _ takes

end TlshubEbpf.Capture
