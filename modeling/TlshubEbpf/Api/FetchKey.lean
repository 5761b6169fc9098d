import TlshubEbpf.Api.Tlshub

/-! # What `tlshub_fetch_key` of the API returns

The returned `key_back` starts out zeroed, that is with the status of success.
The exits that return it untouched and the parser, which reads a zeroed buffer
after a failed or short `recvfrom`, both show an all-zero key as a valid one. -/

set_option autoImplicit false

namespace TlshubEbpf.Api

open TlshubEbpf.Lib TlshubEbpf.Netlink

/-- Among the calls made, a `recvfrom` delivered a whole `key_back` of status 0. -/
def KeyReply (calls : List Syscall) (bytes : List UInt8) : Prop :=
  (∃ fd source, .recvfrom fd (.message source bytes) ∈ calls) ∧ wholeKeyBack bytes ∧
    ∀ b ∈ statusField bytes, b = 0

/-- What the header promises of a returned `key_back`. -/
def KeepsHeaderPromise (result : Outcome KeyBack × Thread) : Prop :=
  ∀ key, result.1 = .returned key →
    (key.status = 0 → ∃ bytes, KeyReply result.2.calls bytes ∧
      key.masterkey.toList = masterkeyField bytes) ∧
    ((¬ ∃ bytes, KeyReply result.2.calls bytes) → key.status < 0)

def EndsProcess (sent : SendResult) (received : Delivery) : Prop :=
  sent.ret = 0 ∨ received.ret = 0

/-- The status as it is parsed, a whole `key_back` with status 0 or a refusal. -/
def UsableReply (order : ByteOrder) (received : Delivery) : Prop :=
  (KeyBack.ofMsg order received.uInfo.msg).status < 0 ∨
    wholeKeyBack received.bytes ∧ ∀ b ∈ statusField received.bytes, b = 0

section Exchange
variable (order : ByteOrder) (tid : UInt32) (vars : ApiVars) (stack : MyMsg) (pods : PodTuple)

def fetchKeyCall (socketOk bindOk mallocOk : Bool) (sent : SendResult) (received : Delivery) :
    Outcome KeyBack × Thread :=
  tlshubFetchKey (scriptEnv order tid socketOk bindOk mallocOk sent [received]) stack pods
    (World.start vars)

theorem fetchKeyCall_no_resource (socketOk bindOk mallocOk : Bool) (sent : SendResult)
    (received : Delivery) (missing : (socketOk && bindOk && mallocOk) = false) :
    (fetchKeyCall order tid vars stack pods socketOk bindOk mallocOk sent received).1 =
        .returned KeyBack.zeroed ∧
      ∀ fd d, .recvfrom fd d ∉
        (fetchKeyCall order tid vars stack pods socketOk bindOk mallocOk sent received).2.calls := by
  cases socketOk with
  | false =>
      rw [fetchKeyCall, tlshubFetchKey_no_ctx _ _ _ _ _ _
        (netlinkCtxInit_no_socket _ _ _ rfl rfl)]
      simp [World.start]
  | true =>
      cases bindOk with
      | false =>
          rw [fetchKeyCall, tlshubFetchKey_no_ctx _ _ _ _ _ _
            (netlinkCtxInit_not_bound _ _ _ rfl rfl rfl)]
          simp [World.start]
      | true =>
          have full : mallocOk = false := by simpa using missing
          subst full
          rw [fetchKeyCall, tlshubFetchKey_no_memory _ _ _ _ rfl rfl rfl]
          simp [World.start, boundSocket]

theorem fetchKeyCall_ends (sent : SendResult) (received : Delivery)
    (ends : EndsProcess sent received) :
    (fetchKeyCall order tid vars stack pods true true true sent received).1 = .exited (-1) := by
  rw [fetchKeyCall, tlshubFetchKey_exchange _ _ _ _ _ _ rfl rfl rfl rfl rfl]
  by_cases rejected : sent.ret = 0
  · simp [rejected]
  · have zero : received.ret = 0 := ends.resolve_left rejected
    simp [rejected, zero, World.start, boundSocket]

theorem fetchKeyCall_returns (sent : SendResult) (received : Delivery)
    (returns : ¬ EndsProcess sent received) :
    (fetchKeyCall order tid vars stack pods true true true sent received).1 =
        .returned (KeyBack.ofMsg order received.uInfo.msg) ∧
      ∀ bytes, KeyReply
          (fetchKeyCall order tid vars stack pods true true true sent received).2.calls bytes ↔
        (∃ source, received = .message source bytes) ∧ wholeKeyBack bytes ∧
          ∀ b ∈ statusField bytes, b = 0 := by
  simp only [EndsProcess, not_or] at returns
  rw [fetchKeyCall, tlshubFetchKey_exchange _ _ _ _ _ _ rfl rfl rfl rfl rfl]
  constructor
  · simp [returns, World.start, boundSocket]
  · intro bytes
    simp [returns, World.start, boundSocket, KeyReply, eq_comm]

/-- The API keeps its header's promise exactly if all three resources are there
and the exchange ends the process or brings a usable reply. -/
theorem fetchKey_keeps_header_promise_iff (socketOk bindOk mallocOk : Bool) (sent : SendResult)
    (received : Delivery) :
    KeepsHeaderPromise
        (fetchKeyCall order tid vars stack pods socketOk bindOk mallocOk sent received) ↔
      (socketOk && bindOk && mallocOk) = true ∧
        (EndsProcess sent received ∨ UsableReply order received) := by
  cases resources : (socketOk && bindOk && mallocOk) with
  | false =>
      obtain ⟨returned, nothing⟩ := fetchKeyCall_no_resource order tid vars stack pods
        socketOk bindOk mallocOk sent received resources
      simp only [Bool.false_eq_true, false_and, iff_false]
      intro keeps
      obtain ⟨bytes, ⟨⟨fd, source, member⟩, _⟩, _⟩ := (keeps _ returned).1 rfl
      exact nothing fd _ member
  | true =>
      simp only [Bool.and_eq_true] at resources
      obtain ⟨⟨rfl, rfl⟩, rfl⟩ := resources
      simp only [true_and]
      by_cases ends : EndsProcess sent received
      · have exited := fetchKeyCall_ends order tid vars stack pods sent received ends
        simp [KeepsHeaderPromise, exited, ends]
      · obtain ⟨returned, replies⟩ := fetchKeyCall_returns order tid vars stack pods sent
          received ends
        simp only [KeepsHeaderPromise, returned, replies, Outcome.returned.injEq, forall_eq',
          ends, false_or]
        constructor
        · rintro ⟨zero, negative⟩
          by_cases received' : ∃ bytes, (∃ source, received = .message source bytes) ∧
              wholeKeyBack bytes ∧ ∀ b ∈ statusField bytes, b = 0
          · obtain ⟨bytes, ⟨source, rfl⟩, whole, status⟩ := received'
            exact Or.inr ⟨whole, status⟩
          · exact Or.inl (negative received')
        · rintro (negative | ⟨whole, status⟩)
          · exact ⟨fun zero => by omega, fun _ => negative⟩
          · cases received with
            | failed => simp [wholeKeyBack, Delivery.bytes] at whole
            | message source bytes =>
                refine ⟨fun _ => ⟨bytes, ⟨⟨source, rfl⟩, whole, status⟩,
                  masterkey_toList order bytes whole⟩, ?_⟩
                intro nothing
                exact absurd ⟨bytes, ⟨source, rfl⟩, whole, status⟩ nothing

end Exchange

theorem fetchKey_returns_zero_key_unbound :
    (fetchKeyCall .little 42 ApiVars.initial MyMsg.zeroed ⟨1, 2, 3, 4⟩ true false true (.sent 32)
        .failed).1 = .returned ⟨0, Vector.replicate 32 0⟩ ∧
      ¬ KeepsHeaderPromise
        (fetchKeyCall .little 42 ApiVars.initial MyMsg.zeroed ⟨1, 2, 3, 4⟩ true false true
          (.sent 32) .failed) := by
  refine ⟨by decide, ?_⟩
  intro keeps
  obtain ⟨bytes, ⟨⟨fd, source, member⟩, _⟩, _⟩ := (keeps KeyBack.zeroed (by decide)).1 rfl
  have calls : (fetchKeyCall .little 42 ApiVars.initial MyMsg.zeroed ⟨1, 2, 3, 4⟩ true false true
      (.sent 32) .failed).2.calls = [.socket 3, .bind 3 42 (-1), .close 3] := by decide
  rw [calls] at member
  simp at member

end TlshubEbpf.Api
