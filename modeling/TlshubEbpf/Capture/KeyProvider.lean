import TlshubEbpf.Capture.Stream

/-! # Whose key `key_provider_get_key` delivers

In the mode `MODE_TLSHUB` a key is fetched, and after a failure a handshake and a
second fetch follow, all on one socket.  The kernel answers each FETCH with one
key reply and each START with one verdict, and puts log messages wherever it
likes.  A handshake passes over them; a fetch takes the first message it finds. -/

set_option autoImplicit false

namespace TlshubEbpf.Capture

open TlshubEbpf.Lib TlshubEbpf.Netlink

inductive KeyProviderMode where
  | tlshub
  | openssl
  | boringssl
  | unknown (value : Nat)
  deriving DecidableEq, Repr

/-- The function by the static `current_mode`; the OpenSSL library is a parameter. -/
def keyProviderGetKey (env : Env)
    (opensslGetKey : FlowTuple → TlsKeyInfo → Program Client (Int × Option TlsKeyInfo))
    (currentMode : KeyProviderMode) (tuple : Option FlowTuple) (keyInfo : Option TlsKeyInfo) :
    Program Client (Int × Option TlsKeyInfo) := do
  match tuple, keyInfo with
  | some tuple, some info =>
      match currentMode with
      | .tlshub =>
          let (ret, keyInfo) ← tlshubFetchKey env (some tuple) keyInfo
          if ret < 0 then
            let ret ← tlshubHandshake env (some tuple)
            if ret < 0 then
              return (ret, keyInfo)
            let (ret, keyInfo) ← tlshubFetchKey env (some tuple) keyInfo
            if ret < 0 then
              return (ret, keyInfo)
            return (0, keyInfo)
          return (0, keyInfo)
      | .openssl => opensslGetKey tuple info
      -- `boringssl_get_key` only calls `openssl_get_key`
      | .boringssl => opensslGetKey tuple info
      | .unknown _ => return (-1, keyInfo)
  | _, _ => return (-1, keyInfo)

section Steps
variable (env : Env)
  (opensslGetKey : FlowTuple → TlsKeyInfo → Program Client (Int × Option TlsKeyInfo))
  (tuple : FlowTuple) (info : TlsKeyInfo) (w w1 w2 w3 : Client)

theorem keyProviderGetKey_fetched (found : Option TlsKeyInfo)
    (fetched : tlshubFetchKey env (some tuple) (some info) w = (.returned (0, found), w1)) :
    keyProviderGetKey env opensslGetKey .tlshub (some tuple) (some info) w =
      (.returned (0, found), w1) := by
  simp [keyProviderGetKey, Program.bind_apply, fetched]

theorem keyProviderGetKey_fetch_blocked
    (waits : tlshubFetchKey env (some tuple) (some info) w = (.blocked, w1)) :
    keyProviderGetKey env opensslGetKey .tlshub (some tuple) (some info) w =
      (.blocked, w1) := by
  simp [keyProviderGetKey, Program.bind_apply, waits]

variable (refused : tlshubFetchKey env (some tuple) (some info) w =
  (.returned (-1, some info), w1))
include refused

theorem keyProviderGetKey_start_blocked
    (waits : tlshubHandshake env (some tuple) w1 = (.blocked, w2)) :
    keyProviderGetKey env opensslGetKey .tlshub (some tuple) (some info) w =
      (.blocked, w2) := by
  simp [keyProviderGetKey, Program.bind_apply, refused, waits]

theorem keyProviderGetKey_start_failed
    (failed : tlshubHandshake env (some tuple) w1 = (.returned (-1), w2)) :
    keyProviderGetKey env opensslGetKey .tlshub (some tuple) (some info) w =
      (.returned (-1, some info), w2) := by
  simp [keyProviderGetKey, Program.bind_apply, refused, failed]

variable (started : tlshubHandshake env (some tuple) w1 = (.returned 0, w2))
include started

theorem keyProviderGetKey_refetch_blocked
    (waits : tlshubFetchKey env (some tuple) (some info) w2 = (.blocked, w3)) :
    keyProviderGetKey env opensslGetKey .tlshub (some tuple) (some info) w =
      (.blocked, w3) := by
  simp [keyProviderGetKey, Program.bind_apply, refused, started, waits]

theorem keyProviderGetKey_refetched (ret : Int) (found : Option TlsKeyInfo) (settled : ret ≤ 0)
    (again : tlshubFetchKey env (some tuple) (some info) w2 = (.returned (ret, found), w3)) :
    keyProviderGetKey env opensslGetKey .tlshub (some tuple) (some info) w =
      (.returned (ret, found), w3) := by
  rcases Int.lt_or_eq_of_le settled with failed | rfl
  · simp [keyProviderGetKey, Program.bind_apply, refused, started, again, failed]
  · simp [keyProviderGetKey, Program.bind_apply, refused, started, again]

end Steps

/-! ## The kernel module's side of the socket -/

structure Logs where
  messages : List Datagram
  areLogs : ∀ d ∈ messages, d.msgType = msgTypeLog

structure KeyReply where
  message : Datagram
  whole : wholeKeyBack message.bytes
  noVerdict : isVerdict message.msgType = false

structure Verdict where
  message : Datagram
  decides : isVerdict message.msgType = true

/-- What the kernel sends in answer to the request number `n`. -/
structure Kernel where
  logsBefore : Nat → Request → Logs
  keyReply : Nat → Request → KeyReply
  verdict : Nat → Request → Verdict
  logsAfter : Nat → Request → Logs

def Kernel.stream (kernel : Kernel) (n : Nat) (request : Request) : List Datagram :=
  (kernel.logsBefore n request).messages ++
    (if request.body.opcode = tlsServiceFetch then (kernel.keyReply n request).message
      else (kernel.verdict n request).message) :: (kernel.logsAfter n request).messages

theorem Logs.noVerdict (logs : Logs) : ∀ d ∈ logs.messages, isVerdict d.msgType = false := by
  intro d member
  rw [logs.areLogs d member]
  rfl

def Logs.append (early late : Logs) : Logs where
  messages := early.messages ++ late.messages
  areLogs := by
    intro d member
    rcases List.mem_append.mp member with inEarly | inLate
    · exact early.areLogs d inEarly
    · exact late.areLogs d inLate

section Attribution
variable (order : ByteOrder) (tid : UInt32) (kernel : Kernel)

def kernelEnv : Env := streamEnv order tid kernel.stream

def fetchRequest (tuple : FlowTuple) : Request :=
  flowRequest (kernelEnv order tid kernel) tlsServiceFetch tuple

def startRequest (tuple : FlowTuple) : Request :=
  flowRequest (kernelEnv order tid kernel) tlsServiceStart tuple

/-- A call on `tuple` that returns 0 delivers the master key of status 0 that the
kernel answered to a FETCH for this tuple, sent by the call itself. -/
def Attributed (tuple : Option FlowTuple) (before : Client)
    (result : Outcome (Int × Option TlsKeyInfo) × Client) : Prop :=
  ∀ keyInfo, result.1 = .returned (0, keyInfo) →
    ∃ t info n, tuple = some t ∧ keyInfo = some info ∧ sendtoCount before.calls ≤ n ∧
      (requests result.2.calls)[n]? = some (fetchRequest order tid kernel t) ∧
      (∀ b ∈ statusField (kernel.keyReply n (fetchRequest order tid kernel t)).message.bytes,
        b = 0) ∧
      info.key.toList =
        masterkeyField (kernel.keyReply n (fetchRequest order tid kernel t)).message.bytes

def keyStatus (n : Nat) (request : Request) : Int :=
  (KeyBack.ofMsg order (kernel.keyReply n request).message.delivery.uInfo.msg).status

/-- No FETCH of the call finds a log message ahead of its answer: neither the
first one, nor the one that follows a failed fetch and a successful handshake. -/
def NoLogAhead (call : Option FlowTuple × Option TlsKeyInfo) (w : Client) : Prop :=
  ∀ t info, call = (some t, some info) →
    let n := sendtoCount w.calls
    let fetch := fetchRequest order tid kernel t
    let start := startRequest order tid kernel t
    (∀ d ∈ w.inbox w.vars.netlinkSock, d.uInfo.msgType ≠ msgTypeLog) ∧
    (kernel.logsBefore n fetch).messages = [] ∧
    (keyStatus order kernel n fetch ≠ 0 →
      verdictResult (kernel.verdict (n + 1) start).message.msgType = 0 →
      (kernel.logsAfter (n + 1) start).messages = [] ∧
        (kernel.logsBefore (n + 2) fetch).messages = [])

/-- Between two calls the queue holds nothing but log messages. -/
def OnlyLogs (sock : Int) (logs : Logs) (w : Client) : Prop :=
  w.vars.netlinkSock = sock ∧ w.inbox sock = logs.messages.map Datagram.delivery

structure Answered (sock : Int) (request : Request) (logs : Logs) (w w' : Client) : Prop where
  onlyLogs : OnlyLogs sock logs w'
  sentAll : requests w'.calls = requests w.calls ++ [request]

theorem answered_afterExchange (sock : Int) (request : Request) (logs : Logs)
    (w ready : Client) (read : List Datagram) (stop : Datagram)
    (socket : ready.vars.netlinkSock = sock) (same : requests ready.calls = requests w.calls) :
    Answered sock request logs w
      (afterExchange ready sock request read logs.messages stop) := by
  refine ⟨⟨socket, Function.update_self ..⟩, ?_⟩
  simp only [afterExchange, requests_append, requests_sendto, requests_reads, same]

theorem fetch_answered (sock : Int) (isOpen : 0 ≤ sock) (logs : Logs) (t : FlowTuple)
    (info : TlsKeyInfo) (w : Client) (idle : OnlyLogs sock logs w)
    (noPending : logs.messages = [])
    (noLog : (kernel.logsBefore (sendtoCount w.calls)
      (fetchRequest order tid kernel t)).messages = []) :
    ∃ w', tlshubFetchKey (kernelEnv order tid kernel) (some t) (some info) w =
        (.returned (fetchResult order (kernel.keyReply (sendtoCount w.calls)
          (fetchRequest order tid kernel t)).message.delivery info), w') ∧
      Answered sock (fetchRequest order tid kernel t)
        (kernel.logsAfter (sendtoCount w.calls) (fetchRequest order tid kernel t)) w w' := by
  obtain ⟨rfl, queue⟩ := idle
  have arrived : w.inbox w.vars.netlinkSock ++ (kernel.stream (sendtoCount w.calls)
      (fetchRequest order tid kernel t)).map Datagram.delivery =
        ((kernel.keyReply (sendtoCount w.calls) (fetchRequest order tid kernel t)).message ::
          (kernel.logsAfter (sendtoCount w.calls)
            (fetchRequest order tid kernel t)).messages).map Datagram.delivery := by
    rw [queue, noPending, Kernel.stream, noLog]
    rfl
  refine ⟨_, tlshubFetchKey_stream order tid kernel.stream t info w isOpen _ _ arrived, ?_⟩
  apply answered_afterExchange
  · rfl
  · rw [afterCall_calls, requests_append]
    exact List.append_nil _

theorem start_answered (sock : Int) (isOpen : 0 ≤ sock) (logs : Logs) (t : FlowTuple)
    (w : Client) (idle : OnlyLogs sock logs w) :
    ∃ w', tlshubHandshake (kernelEnv order tid kernel) (some t) w =
        (.returned (verdictResult (kernel.verdict (sendtoCount w.calls)
          (startRequest order tid kernel t)).message.msgType), w') ∧
      Answered sock (startRequest order tid kernel t)
        (kernel.logsAfter (sendtoCount w.calls) (startRequest order tid kernel t)) w w' := by
  obtain ⟨rfl, queue⟩ := idle
  have arrived : w.inbox w.vars.netlinkSock ++ (kernel.stream (sendtoCount w.calls)
      (startRequest order tid kernel t)).map Datagram.delivery =
        ((logs.append (kernel.logsBefore (sendtoCount w.calls)
            (startRequest order tid kernel t))).messages ++
          (kernel.verdict (sendtoCount w.calls) (startRequest order tid kernel t)).message ::
            (kernel.logsAfter (sendtoCount w.calls)
              (startRequest order tid kernel t)).messages).map Datagram.delivery := by
    rw [queue, ← List.map_append, Logs.append, List.append_assoc]
    rfl
  refine ⟨_, tlshubHandshake_reads order tid kernel.stream t w isOpen _ _ _ arrived
    (Logs.noVerdict _) (kernel.verdict _ _).decides, ?_⟩
  apply answered_afterExchange
  · rfl
  · simp only [clientHandshakeReady, clientHandshakeSetup, requests_append]
    split
    · exact List.append_nil _
    · exact List.append_nil _

theorem fetchResult_keyReply (n : Nat) (request : Request) (info : TlsKeyInfo) :
    (keyStatus order kernel n request ≠ 0 ∧
      fetchResult order (kernel.keyReply n request).message.delivery info = (-1, some info)) ∨
    ((∀ b ∈ statusField (kernel.keyReply n request).message.bytes, b = 0) ∧
      ∃ found, fetchResult order (kernel.keyReply n request).message.delivery info =
        (0, some found) ∧
          found.key.toList = masterkeyField (kernel.keyReply n request).message.bytes) := by
  have received := (kernel.keyReply n request).message.delivery_ret
  by_cases accepted : keyStatus order kernel n request = 0
  · right
    refine ⟨(status_eq_zero_iff order _).mp accepted, _, if_neg ?_,
      masterkey_toList order _ (kernel.keyReply n request).whole⟩
    rintro (unread | refused)
    · exact received unread
    · exact refused accepted
  · left
    exact ⟨accepted, if_pos (Or.inr accepted)⟩

/-! ## Whole calls and whole runs -/

theorem answered_count (sock : Int) (request : Request) (logs : Logs) (w w' : Client)
    (answered : Answered sock request logs w w') :
    sendtoCount w'.calls = sendtoCount w.calls + 1 := by
  rw [← length_requests, answered.sentAll, ← length_requests]
  exact List.length_append

section Run
variable (opensslGetKey : FlowTuple → TlsKeyInfo → Program Client (Int × Option TlsKeyInfo))

def getKey (call : Option FlowTuple × Option TlsKeyInfo) :
    Program Client (Int × Option TlsKeyInfo) :=
  keyProviderGetKey (kernelEnv order tid kernel) opensslGetKey .tlshub call.1 call.2

def Idle (sock : Int) (w : Client) : Prop := ∃ logs, OnlyLogs sock logs w

theorem noPending_of_onlyLogs (sock : Int) (logs : Logs) (w : Client)
    (onlyLogs : OnlyLogs sock logs w)
    (noLog : ∀ d ∈ w.inbox w.vars.netlinkSock, d.uInfo.msgType ≠ msgTypeLog) :
    logs.messages = [] := by
  obtain ⟨rfl, queue⟩ := onlyLogs
  apply List.eq_nil_iff_forall_not_mem.mpr
  intro d member
  have inQueue : d.delivery ∈ w.inbox w.vars.netlinkSock := by
    rw [queue]
    exact List.mem_map_of_mem member
  apply noLog d.delivery inQueue
  rw [Datagram.delivery_msgType]
  exact logs.areLogs d member

theorem getElem?_requests (before : Client) (earlier : List Request) (request : Request)
    (calls : List Syscall)
    (sentAll : requests calls = requests before.calls ++ (earlier ++ [request])) :
    (requests calls)[sendtoCount before.calls + earlier.length]? = some request := by
  rw [sentAll, ← length_requests, ← List.append_assoc, ← List.length_append]
  exact List.getElem?_concat_length

theorem attributed_of_found (t : FlowTuple) (found : TlsKeyInfo) (before after : Client)
    (earlier : List Request)
    (sentAll : requests after.calls =
      requests before.calls ++ (earlier ++ [fetchRequest order tid kernel t]))
    (status : ∀ b ∈ statusField (kernel.keyReply (sendtoCount before.calls + earlier.length)
      (fetchRequest order tid kernel t)).message.bytes, b = 0)
    (key : found.key.toList = masterkeyField
      (kernel.keyReply (sendtoCount before.calls + earlier.length)
        (fetchRequest order tid kernel t)).message.bytes) :
    Attributed order tid kernel (some t) before (.returned (0, some found), after) := by
  intro keyInfo returned
  cases returned
  exact ⟨t, found, _, rfl, rfl, Nat.le_add_right _ _,
    getElem?_requests before earlier _ _ sentAll, status, key⟩

theorem attributed_of_failure (tuple : Option FlowTuple) (before after : Client)
    (keyInfo : Option TlsKeyInfo) :
    Attributed order tid kernel tuple before (.returned (-1, keyInfo), after) := by
  intro keyInfo' returned
  simp at returned

def Kept (sock : Int) (tuple : Option FlowTuple) (before : Client)
    (result : Outcome (Int × Option TlsKeyInfo) × Client) : Prop :=
  Attributed order tid kernel tuple before result ∧ Idle sock result.2

theorem getKey_refetched (sock : Int) (isOpen : 0 ≤ sock) (logs : Logs) (t : FlowTuple)
    (info : TlsKeyInfo) (w w1 : Client)
    (ran1 : tlshubFetchKey (kernelEnv order tid kernel) (some t) (some info) w =
      (.returned (-1, some info), w1))
    (answered1 : Answered sock (fetchRequest order tid kernel t) logs w w1)
    (noneLater : verdictResult (kernel.verdict (sendtoCount w.calls + 1)
        (startRequest order tid kernel t)).message.msgType = 0 →
      (kernel.logsAfter (sendtoCount w.calls + 1) (startRequest order tid kernel t)).messages = [] ∧
        (kernel.logsBefore (sendtoCount w.calls + 2)
          (fetchRequest order tid kernel t)).messages = []) :
    Kept order tid kernel sock (some t) w
      (getKey order tid kernel opensslGetKey (some t, some info) w) := by
  have count1 := answered_count sock _ _ w w1 answered1
  obtain ⟨w2, ran2, answered2⟩ := start_answered order tid kernel sock isOpen _ t w1
    answered1.onlyLogs
  have count2 := answered_count sock _ _ w1 w2 answered2
  rw [count1] at ran2 answered2 count2
  by_cases failed : (kernel.verdict (sendtoCount w.calls + 1)
      (startRequest order tid kernel t)).message.msgType = 0x03
  · rw [verdictResult, if_pos failed] at ran2
    have ran : getKey order tid kernel opensslGetKey (some t, some info) w =
        (.returned (-1, some info), w2) :=
      keyProviderGetKey_start_failed _ opensslGetKey t info w w1 w2 ran1 ran2
    rw [ran]
    exact ⟨attributed_of_failure order tid kernel (some t) w w2 _, _, answered2.onlyLogs⟩
  · have success : verdictResult (kernel.verdict (sendtoCount w.calls + 1)
        (startRequest order tid kernel t)).message.msgType = 0 := by
      rw [verdictResult, if_neg failed]
    rw [success] at ran2
    obtain ⟨noneAfter, noneBefore⟩ := noneLater success
    obtain ⟨w3, ran3, answered3⟩ := fetch_answered order tid kernel sock isOpen _ t info w2
      answered2.onlyLogs noneAfter (by rw [count2]; exact noneBefore)
    rw [count2] at ran3 answered3
    have sentAll : requests w3.calls = requests w.calls ++
        ([fetchRequest order tid kernel t, startRequest order tid kernel t] ++
          [fetchRequest order tid kernel t]) := by
      rw [answered3.sentAll, answered2.sentAll, answered1.sentAll]
      simp
    rcases fetchResult_keyReply order kernel (sendtoCount w.calls + 2)
      (fetchRequest order tid kernel t) info with ⟨_, result3⟩ | ⟨status, found, result3, key⟩
    · rw [result3] at ran3
      have ran : getKey order tid kernel opensslGetKey (some t, some info) w =
          (.returned (-1, some info), w3) :=
        keyProviderGetKey_refetched _ opensslGetKey t info w w1 w2 w3 ran1 ran2 (-1) _
          (by decide) ran3
      rw [ran]
      exact ⟨attributed_of_failure order tid kernel (some t) w w3 _, _, answered3.onlyLogs⟩
    · rw [result3] at ran3
      have ran : getKey order tid kernel opensslGetKey (some t, some info) w =
          (.returned (0, some found), w3) :=
        keyProviderGetKey_refetched _ opensslGetKey t info w w1 w2 w3 ran1 ran2 0 _
          (Int.le_refl 0) ran3
      rw [ran]
      exact ⟨attributed_of_found order tid kernel t found w w3 _ sentAll status key,
        _, answered3.onlyLogs⟩

theorem getKey_fetched (sock : Int) (isOpen : 0 ≤ sock) (t : FlowTuple) (info : TlsKeyInfo)
    (w : Client) (idle : Idle sock w)
    (noLog : NoLogAhead order tid kernel (some t, some info) w) :
    Kept order tid kernel sock (some t) w
      (getKey order tid kernel opensslGetKey (some t, some info) w) := by
  obtain ⟨logs, onlyLogs⟩ := idle
  obtain ⟨noPending, noneBefore, noneLater⟩ := noLog t info rfl
  obtain ⟨w1, ran1, answered1⟩ := fetch_answered order tid kernel sock isOpen logs t info w
    onlyLogs (noPending_of_onlyLogs sock logs w onlyLogs noPending) noneBefore
  rcases fetchResult_keyReply order kernel (sendtoCount w.calls)
    (fetchRequest order tid kernel t) info with ⟨refused, result1⟩ | ⟨status, found, result1, key⟩
  · rw [result1] at ran1
    exact getKey_refetched order tid kernel opensslGetKey sock isOpen _ t info w w1 ran1
      answered1 (noneLater refused)
  · rw [result1] at ran1
    have ran : getKey order tid kernel opensslGetKey (some t, some info) w =
        (.returned (0, some found), w1) :=
      keyProviderGetKey_fetched _ opensslGetKey t info w w1 _ ran1
    rw [ran]
    exact ⟨attributed_of_found order tid kernel t found w w1 [] answered1.sentAll status key,
      _, answered1.onlyLogs⟩

theorem getKey_kept (sock : Int) (isOpen : 0 ≤ sock)
    (call : Option FlowTuple × Option TlsKeyInfo) (w : Client) (idle : Idle sock w)
    (noLog : NoLogAhead order tid kernel call w) :
    Kept order tid kernel sock call.1 w (getKey order tid kernel opensslGetKey call w) := by
  obtain ⟨tuple, keyInfo⟩ := call
  cases tuple with
  | none => exact ⟨attributed_of_failure order tid kernel none w w keyInfo, idle⟩
  | some t =>
      cases keyInfo with
      | none => exact ⟨attributed_of_failure order tid kernel (some t) w w none, idle⟩
      | some info =>
          exact getKey_fetched order tid kernel opensslGetKey sock isOpen t info w idle noLog

def idleClient (sock : Nat) (destAddr : SockaddrNl) (nlh : Bool) (pending : Logs) : Client :=
  (World.start ⟨sock, destAddr, nlh⟩).setQueue sock (pending.messages.map Datagram.delivery)

/-- In a run in which no FETCH finds a log message ahead of its answer, every
call that returns 0 delivers the key the kernel answered for its own tuple. -/
theorem getKey_attributed (sock : Nat) (destAddr : SockaddrNl) (nlh : Bool) (pending : Logs)
    (calls : List (Option FlowTuple × Option TlsKeyInfo))
    (noLogAhead : ∀ entry ∈ Program.history (getKey order tid kernel opensslGetKey) calls
      (idleClient sock destAddr nlh pending), NoLogAhead order tid kernel entry.1 entry.2) :
    ∀ entry ∈ Program.history (getKey order tid kernel opensslGetKey) calls
        (idleClient sock destAddr nlh pending),
      Attributed order tid kernel entry.1.1 entry.2
        (getKey order tid kernel opensslGetKey entry.1 entry.2) := by
  have isOpen : (0 : Int) ≤ sock := Int.natCast_nonneg sock
  have idle : Idle sock (idleClient sock destAddr nlh pending) :=
    ⟨pending, rfl, Function.update_self ..⟩
  -- between two calls nothing but log messages waits on the socket
  have allIdle := Program.history_inv (getKey order tid kernel opensslGetKey)
    (NoLogAhead order tid kernel) (Idle sock)
    (by
      intro call w value w' between noLog ran
      have kept := getKey_kept order tid kernel opensslGetKey sock isOpen call w between noLog
      rw [ran] at kept
      exact kept.2)
    calls _ idle noLogAhead
  intro entry member
  exact (getKey_kept order tid kernel opensslGetKey sock isOpen entry.1 entry.2
    (allIdle entry member) (noLogAhead entry member)).1

end Run
end Attribution

def Logs.none : Logs := ⟨[], by simp⟩

def Logs.blank : Logs := ⟨[Datagram.bare msgTypeLog], by decide⟩

def KeyReply.filled (status key : UInt8) : KeyReply where
  message := Datagram.keyed kernelAddr status key
  whole := by simp [wholeKeyBack, Datagram.keyed]
  noVerdict := by simp [Datagram.msgType, Datagram.keyed, isVerdict]

/-- The key of a flow repeats the last byte of its client address; the first
FETCH has `status`, and `logs` come before each request number `n`. -/
def sampleKernel (logs : Nat → Logs) (status : UInt8) : Kernel where
  logsBefore := fun n _ => logs n
  keyReply := fun n request =>
    KeyReply.filled (if n = 0 then status else 0) request.body.clientPodIp.toUInt8
  verdict := fun _ _ => ⟨Datagram.bare 0x01, by decide⟩
  logsAfter := fun _ _ => Logs.none

def noOpenssl (_ : FlowTuple) (info : TlsKeyInfo) : Program Client (Int × Option TlsKeyInfo) :=
  pure (-1, some info)

def twoFlows : List (Option FlowTuple × Option TlsKeyInfo) :=
  [(some ⟨1, 2, 3, 4⟩, some (fillKeyInfo KeyBack.zeroed)),
    (some ⟨5, 6, 7, 8⟩, some (fillKeyInfo KeyBack.zeroed))]

/-- An expired key, a handshake with a log message and a fetch of the new key; then the
key of another flow. -/
theorem getKey_attributed_after_handshake :
    let kernel := sampleKernel (fun n => if n = 1 then .blank else .none) 0xff
    ∀ entry ∈ Program.history (getKey .little 42 kernel noOpenssl) twoFlows
        (idleClient 3 kernelAddr true Logs.none),
      Attributed .little 42 kernel entry.1.1 entry.2
        (getKey .little 42 kernel noOpenssl entry.1 entry.2) := by
  intro kernel
  refine getKey_attributed .little 42 kernel noOpenssl 3 kernelAddr true Logs.none twoFlows ?_
  intro entry member
  rcases (Program.mem_history_cons _ _ _ _ entry).mp member with rfl | ⟨value, w', ran, member⟩
  · intro t info same
    cases same
    exact ⟨by simp [idleClient, World.start, Logs.none], rfl, fun _ _ => ⟨rfl, rfl⟩⟩
  · obtain rfl := (Program.mem_history_singleton _ _ _ entry).mp member
    have after := congrArg Prod.snd ran
    dsimp only at after
    have count : sendtoCount w'.calls = 3 := by rw [← after]; decide
    have queue : ∀ d ∈ w'.inbox w'.vars.netlinkSock, d.uInfo.msgType ≠ msgTypeLog := by
      rw [← after]
      decide
    intro t info same
    cases same
    dsimp only
    rw [count]
    exact ⟨queue, rfl, fun _ _ => ⟨rfl, rfl⟩⟩

/-- A log message ahead of the first answer is taken for a key of zeros, and the
answer left in the queue becomes the key of the next flow. -/
theorem getKey_delivers_key_of_other_flow :
    let kernel := sampleKernel (fun n => if n = 0 then .blank else .none) 0
    let start := idleClient 3 kernelAddr true Logs.none
    (Program.runAll (getKey .little 42 kernel noOpenssl) twoFlows start).1.map Prod.snd =
        [.returned (0, some (fillKeyInfo ⟨0, Vector.replicate 32 0⟩)),
          .returned (0, some (fillKeyInfo ⟨0, Vector.replicate 32 1⟩))] ∧
      ¬ ∀ entry ∈ Program.history (getKey .little 42 kernel noOpenssl) twoFlows start,
        Attributed .little 42 kernel entry.1.1 entry.2
          (getKey .little 42 kernel noOpenssl entry.1 entry.2) := by
  intro kernel start
  refine ⟨by decide, ?_⟩
  intro allAttributed
  have attributed := allAttributed
    ((some ⟨1, 2, 3, 4⟩, some (fillKeyInfo KeyBack.zeroed)), start) List.mem_cons_self
  have returned : (getKey .little 42 kernel noOpenssl
      (some ⟨1, 2, 3, 4⟩, some (fillKeyInfo KeyBack.zeroed)) start).1 =
        .returned (0, some (fillKeyInfo ⟨0, Vector.replicate 32 0⟩)) := by decide
  obtain ⟨t, info, n, sameTuple, sameInfo, _, _, _, key⟩ := attributed _ returned
  cases sameTuple
  cases sameInfo
  have answered : masterkeyField (KeyReply.filled (if n = 0 then 0 else 0) 1).message.bytes =
      List.replicate 32 1 := by
    rw [ite_self]
    decide
  have zeros := key.trans answered
  exact absurd zeros (by decide)

end TlshubEbpf.Capture
