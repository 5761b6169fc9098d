import TlshubEbpf.Capture.TlshubClient

/-! # When `tlshub_fetch_key` of the capture client reports a key

`if (!ret)` tells a result of 0 from the others, so the -1 of a failed call goes
on to the parser, which reads what the receive buffer was zeroed to.  The same
zeros stand in for the bytes that a short message does not have. -/

set_option autoImplicit false

namespace TlshubEbpf.Capture

open TlshubEbpf.Lib TlshubEbpf.Netlink

/-- A result of 0 comes only from a request that was sent and a message with a
whole `key_back` of status 0, and the key is the one in that message. -/
def ReportsReceivedKey (sent : SendResult) (received : Delivery)
    (outcome : Outcome (Int × Option TlsKeyInfo)) : Prop :=
  ∀ keyInfo, outcome = .returned (0, keyInfo) →
    sent ≠ .failed ∧
      ∃ source bytes info, received = .message source bytes ∧ wholeKeyBack bytes ∧
        (∀ b ∈ statusField bytes, b = 0) ∧ keyInfo = some info ∧
        info.key.toList = masterkeyField bytes

def RefusedEarly (vars : ClientVars) (tuple : Option FlowTuple) (keyInfo : Option TlsKeyInfo)
    (mallocOk : Bool) : Prop :=
  vars.netlinkSock < 0 ∨ tuple = none ∨ keyInfo = none ∨ mallocOk = false

/-- The exchange is rejected by a result of 0 or by a status byte that arrived. -/
def RejectedExchange (sent : SendResult) (received : Delivery) : Prop :=
  sent.ret = 0 ∨ received.ret = 0 ∨ ∃ b ∈ statusField received.bytes, b ≠ 0

def CompleteExchange (sent : SendResult) (received : Delivery) : Prop :=
  sent ≠ .failed ∧ wholeKeyBack received.bytes

section Exchange
variable (order : ByteOrder) (tid : UInt32) (vars : ClientVars)

def fetchKeyCall (mallocOk : Bool) (sent : SendResult) (received : Delivery)
    (tuple : Option FlowTuple) (keyInfo : Option TlsKeyInfo) :
    Outcome (Int × Option TlsKeyInfo) × Client :=
  tlshubFetchKey (scriptEnv order tid true true mallocOk sent [received]) tuple keyInfo
    (World.start vars)

theorem fetchKeyCall_early (mallocOk : Bool) (sent : SendResult) (received : Delivery)
    (tuple : Option FlowTuple) (keyInfo : Option TlsKeyInfo)
    (early : RefusedEarly vars tuple keyInfo mallocOk) :
    (fetchKeyCall order tid vars mallocOk sent received tuple keyInfo).1 =
      .returned (-1, keyInfo) := by
  by_cases refused : vars.netlinkSock < 0 ∨ tuple = none ∨ keyInfo = none
  · rw [fetchKeyCall, tlshubFetchKey_refused _ _ _ _ refused]
  · simp only [not_or] at refused
    obtain ⟨isOpen, hasTuple, hasInfo⟩ := refused
    obtain ⟨tuple, rfl⟩ := Option.ne_none_iff_exists'.mp hasTuple
    obtain ⟨info, rfl⟩ := Option.ne_none_iff_exists'.mp hasInfo
    have full : mallocOk = false := by
      simpa [RefusedEarly, isOpen] using early
    rw [fetchKeyCall, tlshubFetchKey_no_memory _ _ _ _ (Int.not_lt.mp isOpen) full]

theorem fetchKeyCall_exchange (sent : SendResult) (received : Delivery) (tuple : FlowTuple)
    (info : TlsKeyInfo) (isOpen : 0 ≤ vars.netlinkSock) :
    (fetchKeyCall order tid vars true sent received (some tuple) (some info)).1 =
      .returned (if sent.ret = 0 then (-1, some info) else fetchResult order received info) := by
  rw [fetchKeyCall, tlshubFetchKey_exchange _ _ _ _ _ isOpen rfl rfl]
  by_cases zero : sent.ret = 0
  · simp [zero]
  · simp [zero, World.start]

theorem fetchResult_eq_zero (d : Delivery) (info : TlsKeyInfo) (keyInfo : Option TlsKeyInfo) :
    fetchResult order d info = (0, keyInfo) ↔
      d.ret ≠ 0 ∧ (∀ b ∈ statusField d.bytes, b = 0) ∧
        keyInfo = some (fillKeyInfo (KeyBack.ofMsg order d.uInfo.msg)) := by
  rw [← status_eq_zero_iff order d.bytes]
  change _ ↔ d.ret ≠ 0 ∧ (KeyBack.ofMsg order d.uInfo.msg).status = 0 ∧ _
  by_cases rejected : d.ret = 0 ∨ (KeyBack.ofMsg order d.uInfo.msg).status ≠ 0
  · simp only [fetchResult, if_pos rejected, Prod.mk.injEq, false_and, false_iff, reduceCtorEq]
    rintro ⟨nonzero, zero, _⟩
    exact rejected.elim nonzero (fun status => status zero)
  · have accepted := rejected
    simp only [not_or, not_not] at accepted
    have parsed : fetchResult order d info =
        (0, some (fillKeyInfo (KeyBack.ofMsg order d.uInfo.msg))) := by
      simp only [fetchResult]
      exact if_neg rejected
    simp only [parsed, Prod.mk.injEq, true_and, accepted, ne_eq, not_false_eq_true]
    exact eq_comm

/-- The capture client never reports a key that it was not sent, exactly if the
call is turned down, the exchange is rejected, or the exchange is complete. -/
theorem fetchKey_reports_received_key_iff (mallocOk : Bool) (sent : SendResult)
    (received : Delivery) (tuple : Option FlowTuple) (keyInfo : Option TlsKeyInfo) :
    ReportsReceivedKey sent received
        (fetchKeyCall order tid vars mallocOk sent received tuple keyInfo).1 ↔
      RefusedEarly vars tuple keyInfo mallocOk ∨ RejectedExchange sent received ∨
        CompleteExchange sent received := by
  by_cases early : RefusedEarly vars tuple keyInfo mallocOk
  · simp [fetchKeyCall_early, early, ReportsReceivedKey]
  · have reached := early
    simp only [RefusedEarly, not_or, Bool.not_eq_false] at reached
    obtain ⟨isOpen, hasTuple, hasInfo, rfl⟩ := reached
    obtain ⟨tuple, rfl⟩ := Option.ne_none_iff_exists'.mp hasTuple
    obtain ⟨info, rfl⟩ := Option.ne_none_iff_exists'.mp hasInfo
    rw [fetchKeyCall_exchange _ _ _ _ _ _ _ (Int.not_lt.mp isOpen)]
    simp only [early, false_or, ReportsReceivedKey, Outcome.returned.injEq]
    by_cases unsent : sent.ret = 0
    · simp [unsent, RejectedExchange]
    · simp only [if_neg unsent, fetchResult_eq_zero]
      by_cases parsed : received.ret ≠ 0 ∧ ∀ b ∈ statusField received.bytes, b = 0
      · have accepted : ¬ RejectedExchange sent received := by
          rintro (zero | zero | ⟨b, member, nonzero⟩)
          · exact unsent zero
          · exact parsed.1 zero
          · exact nonzero (parsed.2 b member)
        simp only [accepted, false_or]
        constructor
        · intro reports
          obtain ⟨wasSent, source, bytes, _, rfl, whole, _⟩ :=
            reports _ ⟨parsed.1, parsed.2, rfl⟩
          exact ⟨wasSent, whole⟩
        · rintro ⟨wasSent, whole⟩ keyInfo ⟨_, _, rfl⟩
          cases received with
          | failed => simp [wholeKeyBack, Delivery.bytes] at whole
          | message source bytes =>
              exact ⟨wasSent, source, bytes, _, rfl, whole, parsed.2, rfl,
                masterkey_toList order bytes whole⟩
      · have rejected : RejectedExchange sent received := by
          by_contra accepted
          simp only [RejectedExchange, not_or, not_exists, not_and, not_not] at accepted
          exact parsed ⟨accepted.2.1, accepted.2.2⟩
        simp only [rejected, true_or, iff_true]
        rintro keyInfo ⟨nonzero, zero, _⟩
        exact absurd ⟨nonzero, zero⟩ parsed

end Exchange

/-- Both calls fail with -1 and an all-zero key is reported. -/
theorem fetchKey_reports_key_after_failed_calls :
    ∃ info : TlsKeyInfo,
      (fetchKeyCall .little 42 ⟨3, kernelAddr, false⟩ true .failed .failed
          (some ⟨1, 2, 3, 4⟩) (some info)).1 =
        .returned (0, some ⟨Vector.replicate 32 0, Vector.replicate 16 0, 32, 12⟩) ∧
      ¬ ReportsReceivedKey .failed .failed
        (fetchKeyCall .little 42 ⟨3, kernelAddr, false⟩ true .failed .failed
          (some ⟨1, 2, 3, 4⟩) (some info)).1 := by
  refine ⟨⟨Vector.replicate 32 7, Vector.replicate 16 7, 0, 0⟩, by decide, ?_⟩
  intro reports
  exact (reports _ rfl).1 rfl

end TlshubEbpf.Capture
