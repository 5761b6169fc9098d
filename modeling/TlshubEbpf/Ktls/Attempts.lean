import TlshubEbpf.Ktls.KtlsConfig
import TlshubEbpf.Lib.Transitions

/-! # Repeated attempts to configure a socket

An attempt makes up to three calls of `setsockopt`.  Whatever the earlier ones have
installed stays when a later one fails, and the upper layer protocol can be set
only once, so that a later attempt gets no further than this. -/

set_option autoImplicit false

namespace TlshubEbpf.Ktls

open TlshubEbpf.Lib TlshubEbpf.Capture

/-- What `setsockopt` returns in one attempt; a socket that has an upper layer
protocol refuses another one. -/
structure Kernel where
  returns : KtlsSocket → SockOpt → Int
  ulpOnce : ∀ socket name, socket.ulp ≠ none → returns socket (.tcpUlp name) < 0

structure Attempt where
  keyInfo : TlsKeyInfo
  kernel : Kernel

def configureStep (socket : KtlsSocket) (attempt : Attempt) : Option KtlsSocket :=
  some (configureKtls attempt.kernel.returns attempt.keyInfo socket).2

def KtlsSocket.unkeyed (ulp : Option String) : KtlsSocket := ⟨ulp, none, none⟩

def attempts (ulp : Option String) (tries : List Attempt) :
    List (Transition KtlsSocket Attempt) :=
  transitions configureStep (KtlsSocket.unkeyed ulp) tries

/-- Both directions have a key or none has, and after a return of 0 both have the one
of this attempt. -/
def BothOrNeither (before : KtlsSocket) (attempt : Attempt) (after : KtlsSocket) : Prop :=
  (after.tx.isSome = true ↔ after.rx.isSome = true) ∧
    ((configureKtls attempt.kernel.returns attempt.keyInfo before).1 = .returned 0 →
      after.tx = some (cryptoInfo attempt.keyInfo) ∧
        after.rx = some (cryptoInfo attempt.keyInfo))

def KtlsSocket.withTx (socket : KtlsSocket) (keyInfo : TlsKeyInfo) : KtlsSocket :=
  (socket.install (.tcpUlp "tls")).install (.tlsTx (cryptoInfo keyInfo))

/-- Where the protocol and the sending key are accepted, so is the receiving key. -/
def RxFollowsTx (before : KtlsSocket) (attempt : Attempt) : Prop :=
  0 ≤ attempt.kernel.returns before (.tcpUlp "tls") →
    0 ≤ attempt.kernel.returns (before.install (.tcpUlp "tls"))
      (.tlsTx (cryptoInfo attempt.keyInfo)) →
    0 ≤ attempt.kernel.returns (before.withTx attempt.keyInfo)
      (.tlsRx (cryptoInfo attempt.keyInfo))

/-- Keys are installed for both directions or for none, and only under the protocol. -/
structure Keyed (socket : KtlsSocket) : Prop where
  both : socket.tx.isSome = true ↔ socket.rx.isSome = true
  protocol : socket.ulp = none → socket.tx = none ∧ socket.rx = none

section Steps
variable (kernel : KtlsSocket → SockOpt → Int) (keyInfo : TlsKeyInfo) (socket : KtlsSocket)

theorem configureKtls_ulp_refused (refused : kernel socket (.tcpUlp "tls") < 0) :
    configureKtls kernel keyInfo socket = (.returned (kernel socket (.tcpUlp "tls")), socket) := by
  simp [configureKtls, enableKtlsTx, Program.bind_apply, setsockopt_refused kernel _ _ refused,
    refused]

variable (ulp : 0 ≤ kernel socket (.tcpUlp "tls"))
include ulp

theorem configureKtls_tx_refused
    (refused : kernel (socket.install (.tcpUlp "tls")) (.tlsTx (cryptoInfo keyInfo)) < 0) :
    configureKtls kernel keyInfo socket =
      (.returned (kernel (socket.install (.tcpUlp "tls")) (.tlsTx (cryptoInfo keyInfo))),
        socket.install (.tcpUlp "tls")) := by
  have accepted := Int.not_lt.mpr ulp
  simp [configureKtls, enableKtlsTx, Program.bind_apply, setsockopt_installed kernel _ _ accepted,
    setsockopt_refused kernel _ _ refused, accepted, refused]

variable (tx : 0 ≤ kernel (socket.install (.tcpUlp "tls")) (.tlsTx (cryptoInfo keyInfo)))
include tx

theorem configureKtls_rx_refused
    (refused : kernel (socket.withTx keyInfo) (.tlsRx (cryptoInfo keyInfo)) < 0) :
    configureKtls kernel keyInfo socket =
      (.returned (kernel (socket.withTx keyInfo) (.tlsRx (cryptoInfo keyInfo))),
        socket.withTx keyInfo) := by
  have acceptedUlp := Int.not_lt.mpr ulp
  have acceptedTx := Int.not_lt.mpr tx
  unfold KtlsSocket.withTx at refused ⊢
  simp [configureKtls, enableKtlsTx, enableKtlsRx, Program.bind_apply,
    setsockopt_installed kernel _ _ acceptedUlp, setsockopt_installed kernel _ _ acceptedTx,
    setsockopt_refused kernel _ _ refused, acceptedUlp, acceptedTx, refused]

theorem configureKtls_rx_accepted
    (rx : 0 ≤ kernel (socket.withTx keyInfo) (.tlsRx (cryptoInfo keyInfo))) :
    configureKtls kernel keyInfo socket =
      (.returned 0, (socket.withTx keyInfo).install (.tlsRx (cryptoInfo keyInfo))) := by
  have acceptedUlp := Int.not_lt.mpr ulp
  have acceptedTx := Int.not_lt.mpr tx
  have acceptedRx := Int.not_lt.mpr rx
  unfold KtlsSocket.withTx at acceptedRx ⊢
  simp [configureKtls, enableKtlsTx, enableKtlsRx, Program.bind_apply,
    setsockopt_installed kernel _ _ acceptedUlp, setsockopt_installed kernel _ _ acceptedTx,
    setsockopt_installed kernel _ _ acceptedRx, acceptedUlp, acceptedTx, acceptedRx]

end Steps

section Attempts
variable (socket : KtlsSocket) (attempt : Attempt)

theorem unkeyed_keyed (ulp : Option String) : Keyed (KtlsSocket.unkeyed ulp) where
  both := Iff.rfl
  protocol _ := ⟨rfl, rfl⟩

theorem Keyed.plain_of_ulp (keyed : Keyed socket)
    (ulp : 0 ≤ attempt.kernel.returns socket (.tcpUlp "tls")) :
    socket.tx = none ∧ socket.rx = none := by
  apply keyed.protocol
  by_contra held
  exact Int.not_lt.mpr ulp (attempt.kernel.ulpOnce socket "tls" held)

theorem configureStep_keyed (keyed : Keyed socket) :
    let after := (configureKtls attempt.kernel.returns attempt.keyInfo socket).2
    (RxFollowsTx socket attempt → BothOrNeither socket attempt after ∧ Keyed after) ∧
      (¬ RxFollowsTx socket attempt → ¬ BothOrNeither socket attempt after) := by
  dsimp only
  unfold BothOrNeither RxFollowsTx
  rcases Int.lt_or_le (attempt.kernel.returns socket (.tcpUlp "tls")) 0 with refused | ulp
  · -- The socket stays as it was, and the return is negative.
    rw [configureKtls_ulp_refused _ attempt.keyInfo socket refused]
    refine ⟨fun _ => ⟨⟨keyed.both, ?_⟩, keyed⟩, fun broken => ?_⟩
    · intro returned
      rw [Outcome.returned.injEq] at returned
      omega
    · exact absurd (fun ulp => absurd refused (Int.not_lt.mpr ulp)) broken
  · obtain ⟨noTx, noRx⟩ := keyed.plain_of_ulp socket attempt ulp
    rcases Int.lt_or_le (attempt.kernel.returns (socket.install (.tcpUlp "tls"))
      (.tlsTx (cryptoInfo attempt.keyInfo))) 0 with refused | tx
    · rw [configureKtls_tx_refused _ attempt.keyInfo socket ulp refused]
      refine ⟨fun _ => ⟨⟨keyed.both, ?_⟩, keyed.both, ?_⟩, fun broken => ?_⟩
      · intro returned
        rw [Outcome.returned.injEq] at returned
        omega
      · intro none
        cases none
      · exact absurd (fun _ tx => absurd refused (Int.not_lt.mpr tx)) broken
    · rcases Int.lt_or_le (attempt.kernel.returns (socket.withTx attempt.keyInfo)
        (.tlsRx (cryptoInfo attempt.keyInfo))) 0 with refused | rx
      · rw [configureKtls_rx_refused _ attempt.keyInfo socket ulp tx refused]
        refine ⟨fun follows => ?_, fun _ => ?_⟩
        · exact absurd (follows ulp tx) (Int.not_le.mpr refused)
        · rintro ⟨both, -⟩
          have received := both.mp rfl
          rw [show (socket.withTx attempt.keyInfo).rx = none from noRx] at received
          cases received
      · rw [configureKtls_rx_accepted _ attempt.keyInfo socket ulp tx rx]
        refine ⟨fun _ => ⟨⟨Iff.rfl, fun _ => ⟨rfl, rfl⟩⟩, Iff.rfl, ?_⟩, fun broken => ?_⟩
        · intro none
          cases none
        · exact absurd (fun _ _ => rx) broken

end Attempts

/-- The socket is never left with a key for one direction only if and only if no
attempt has its receiving key refused after its sending key has been accepted. -/
theorem attempts_bothOrNeither_iff (ulp : Option String) (tries : List Attempt) :
    (∀ t ∈ attempts ulp tries, BothOrNeither t.before t.event t.after) ↔
      ∀ t ∈ attempts ulp tries, RxFollowsTx t.before t.event := by
  unfold attempts
  refine transitions_good_iff configureStep Keyed RxFollowsTx BothOrNeither ?_ ?_
    (KtlsSocket.unkeyed ulp) (unkeyed_keyed ulp) tries
  · intro socket attempt after keyed taken
    cases Option.some.inj taken
    obtain ⟨good, bad⟩ := configureStep_keyed socket attempt keyed
    exact ⟨fun both => not_not.mp fun broken => bad broken both, fun follows => (good follows).1⟩
  · intro socket attempt after keyed follows taken
    cases Option.some.inj taken
    exact ((configureStep_keyed socket attempt keyed).1 follows).2

/-- Accepts everything but a second protocol and, where it is told so, the receiving key. -/
def Kernel.sample (refusesRx : Bool) : Kernel where
  returns := fun socket opt =>
    match opt with
    | .tcpUlp _ => if socket.ulp = none then 0 else -1
    | .tlsTx _ => 0
    | .tlsRx _ => if refusesRx then -1 else 0
  ulpOnce := by
    intro socket name held
    simp [held]

/-- A receiving key that is refused once leaves the socket with a sending key for good. -/
theorem refused_rx_leaves_tx :
    let tries := [⟨fetchedKeyInfo, .sample true⟩, ⟨fetchedKeyInfo, .sample false⟩]
    (∀ t ∈ attempts none tries, t.after.tx.isSome = true ∧ t.after.rx = none) ∧
      ¬ ∀ t ∈ attempts none tries, BothOrNeither t.before t.event t.after := by
  intro tries
  have half : ∀ t ∈ attempts none tries, t.after.tx.isSome = true ∧ t.after.rx = none := by
    decide
  refine ⟨half, ?_⟩
  intro both
  have first : (attempts none tries)[0] ∈ attempts none tries := List.getElem_mem _
  have received := (both _ first).1.mp (half _ first).1
  rw [(half _ first).2] at received
  cases received

end TlshubEbpf.Ktls
