import TlshubEbpf.Lib.CounterNonce
import TlshubEbpf.Capture.TlshubClient

/-! # Kernel TLS with one key for both directions (`ktls_config.c`)

`configure_ktls` installs the same key material for sending and for receiving,
and both ends of a connection run it with the same `key_info`.  The records of
the two directions are then sealed with one key and one sequence of nonces. -/

set_option autoImplicit false

namespace TlshubEbpf.Ktls

open TlshubEbpf.Lib TlshubEbpf.Capture

/-- `struct tls12_crypto_info_aes_gcm_128`. -/
structure CryptoInfo where
  version : UInt16
  cipherType : UInt16
  iv : Vector UInt8 8
  key : Vector UInt8 16
  salt : Vector UInt8 4
  recSeq : Vector UInt8 8
  deriving DecidableEq

def tls12Version : UInt16 := 0x0303
def tlsCipherAesGcm128 : UInt16 := 51

/-- The structure that both functions fill in, after `memset` and the copies. -/
def cryptoInfo (keyInfo : TlsKeyInfo) : CryptoInfo :=
  let zeroed : CryptoInfo :=
    { version := tls12Version
      cipherType := tlsCipherAesGcm128
      iv := Vector.replicate 8 0
      key := Vector.ofFn fun i : Fin 16 => keyInfo.key[i.val]
      salt := Vector.replicate 4 0
      recSeq := Vector.replicate 8 0 }
  if 12 ≤ keyInfo.ivLen then
    { zeroed with
      salt := Vector.ofFn fun i : Fin 4 => keyInfo.iv[i.val]
      iv := Vector.ofFn fun i : Fin 8 => keyInfo.iv[4 + i.val] }
  else
    let copied := if keyInfo.ivLen < 4 then keyInfo.ivLen else 4
    { zeroed with
      salt := Vector.ofFn fun i : Fin 4 => if i.val < copied.toNat then keyInfo.iv[i.val] else 0 }

inductive SockOpt where
  | tcpUlp (name : String)
  | tlsTx (info : CryptoInfo)
  | tlsRx (info : CryptoInfo)
  deriving DecidableEq

structure KtlsSocket where
  ulp : Option String
  tx : Option CryptoInfo
  rx : Option CryptoInfo
  deriving DecidableEq

def KtlsSocket.plain : KtlsSocket := ⟨none, none, none⟩

def KtlsSocket.install (socket : KtlsSocket) : SockOpt → KtlsSocket
  | .tcpUlp name => { socket with ulp := some name }
  | .tlsTx info => { socket with tx := some info }
  | .tlsRx info => { socket with rx := some info }

/-- The result of `setsockopt` is the kernel's; an option it refuses is not installed. -/
def setsockopt (kernel : KtlsSocket → SockOpt → Int) (opt : SockOpt) : Program KtlsSocket Int :=
  fun socket =>
    let ret := kernel socket opt
    (.returned ret, if ret < 0 then socket else socket.install opt)

section Configure
variable (kernel : KtlsSocket → SockOpt → Int)

def enableKtlsTx (keyInfo : TlsKeyInfo) : Program KtlsSocket Int := do
  let ret ← setsockopt kernel (.tcpUlp "tls")
  if ret < 0 then
    return ret
  let ret ← setsockopt kernel (.tlsTx (cryptoInfo keyInfo))
  if ret < 0 then
    return ret
  return 0

def enableKtlsRx (keyInfo : TlsKeyInfo) : Program KtlsSocket Int := do
  let ret ← setsockopt kernel (.tlsRx (cryptoInfo keyInfo))
  if ret < 0 then
    return ret
  return 0

def configureKtls (keyInfo : TlsKeyInfo) : Program KtlsSocket Int := do
  let ret ← enableKtlsTx kernel keyInfo
  if ret < 0 then
    return ret
  let ret ← enableKtlsRx kernel keyInfo
  if ret < 0 then
    return ret
  return 0

theorem setsockopt_refused (opt : SockOpt) (socket : KtlsSocket)
    (refused : kernel socket opt < 0) :
    setsockopt kernel opt socket = (.returned (kernel socket opt), socket) := by
  simp only [setsockopt, if_pos refused]

theorem setsockopt_installed (opt : SockOpt) (socket : KtlsSocket)
    (accepted : ¬ kernel socket opt < 0) :
    setsockopt kernel opt socket = (.returned (kernel socket opt), socket.install opt) := by
  simp only [setsockopt, if_neg accepted]

theorem enableKtlsTx_result (keyInfo : TlsKeyInfo) (socket : KtlsSocket) :
    ∃ ret socket', enableKtlsTx kernel keyInfo socket = (.returned ret, socket') ∧
      (¬ ret < 0 →
        socket' = { socket with ulp := some "tls", tx := some (cryptoInfo keyInfo) }) := by
  by_cases refusedUlp : kernel socket (.tcpUlp "tls") < 0
  · refine ⟨_, socket, ?_, fun success => absurd refusedUlp success⟩
    simp [enableKtlsTx, Program.bind_apply, setsockopt_refused kernel _ _ refusedUlp, refusedUlp]
  · by_cases refusedTx : kernel (socket.install (.tcpUlp "tls")) (.tlsTx (cryptoInfo keyInfo)) < 0
    · refine ⟨_, socket.install (.tcpUlp "tls"), ?_, fun success => absurd refusedTx success⟩
      simp [enableKtlsTx, Program.bind_apply, setsockopt_installed kernel _ _ refusedUlp,
        setsockopt_refused kernel _ _ refusedTx, refusedUlp, refusedTx]
    · refine ⟨0, (socket.install (.tcpUlp "tls")).install (.tlsTx (cryptoInfo keyInfo)), ?_,
        fun _ => rfl⟩
      simp [enableKtlsTx, Program.bind_apply, setsockopt_installed kernel _ _ refusedUlp,
        setsockopt_installed kernel _ _ refusedTx, refusedUlp, refusedTx]

theorem enableKtlsRx_result (keyInfo : TlsKeyInfo) (socket : KtlsSocket) :
    ∃ ret socket', enableKtlsRx kernel keyInfo socket = (.returned ret, socket') ∧
      (¬ ret < 0 → socket' = { socket with rx := some (cryptoInfo keyInfo) }) := by
  by_cases refused : kernel socket (.tlsRx (cryptoInfo keyInfo)) < 0
  · refine ⟨_, socket, ?_, fun success => absurd refused success⟩
    simp [enableKtlsRx, Program.bind_apply, setsockopt_refused kernel _ _ refused, refused]
  · refine ⟨0, _, ?_, fun _ => rfl⟩
    simp [enableKtlsRx, Program.bind_apply, setsockopt_installed kernel _ _ refused, refused,
      KtlsSocket.install]

/-- A success installs one and the same structure for both directions. -/
theorem configureKtls_installs (keyInfo : TlsKeyInfo) (socket socket' : KtlsSocket)
    (configured : configureKtls kernel keyInfo socket = (.returned 0, socket')) :
    socket' = ⟨some "tls", some (cryptoInfo keyInfo), some (cryptoInfo keyInfo)⟩ := by
  obtain ⟨ret, middle, tx, txInstalls⟩ := enableKtlsTx_result kernel keyInfo socket
  obtain ⟨ret', last, rx, rxInstalls⟩ := enableKtlsRx_result kernel keyInfo middle
  simp only [configureKtls, Program.bind_apply, tx] at configured
  by_cases txFailed : ret < 0
  · simp [txFailed] at configured
    omega
  · simp only [if_neg txFailed, Program.bind_apply, rx] at configured
    by_cases rxFailed : ret' < 0
    · simp [rxFailed] at configured
      omega
    · simp only [if_neg rxFailed, Program.pure_apply, Prod.mk.injEq, true_and] at configured
      rw [← configured, rxInstalls rxFailed, txInstalls txFailed]

end Configure

inductive Endpoint where
  | client
  | server
  deriving DecidableEq, Repr

/-- The 8 bytes of an iv as the number that the kernel counts up. -/
def ivNumber (iv : Vector UInt8 8) : BitVec 64 :=
  iv.foldl (fun number byte => number <<< 8 ||| BitVec.ofNat 64 byte.toNat) 0

def recordSeal (sockets : Endpoint → KtlsSocket) (sends : List Endpoint) (i : Nat)
    (bound : i < sends.length) : Option ((Vector UInt8 16 × Vector UInt8 4) × BitVec 64) :=
  (sockets sends[i]).tx.map fun info =>
    ((info.key, info.salt), ivNumber info.iv + BitVec.ofNat 64 (ordinal sends i bound))

theorem recordSeal_configured (keyInfo : TlsKeyInfo)
    (kernel : Endpoint → KtlsSocket → SockOpt → Int) (before after : Endpoint → KtlsSocket)
    (configured : ∀ e, configureKtls (kernel e) keyInfo (before e) = (.returned 0, after e))
    (sends : List Endpoint) (i : Nat) (bound : i < sends.length) :
    recordSeal after sends i bound =
      some (sealedWith (fun _ => ((cryptoInfo keyInfo).key, (cryptoInfo keyInfo).salt))
        (fun _ => ivNumber (cryptoInfo keyInfo).iv) sends i bound) := by
  rw [recordSeal, configureKtls_installs (kernel sends[i]) keyInfo (before sends[i])
    (after sends[i]) (configured sends[i])]
  rfl

/-- Both ends install one structure for both directions.  Two records share their
key and nonce exactly if their numbers within their directions agree modulo 2^64,
so that no pair returns among the first 2^64 records of one direction. -/
theorem records_sealed_alike_iff (keyInfo : TlsKeyInfo)
    (kernel : Endpoint → KtlsSocket → SockOpt → Int) (before after : Endpoint → KtlsSocket)
    (configured : ∀ e, configureKtls (kernel e) keyInfo (before e) = (.returned 0, after e))
    (sends : List Endpoint) :
    (∀ e, after e = ⟨some "tls", some (cryptoInfo keyInfo), some (cryptoInfo keyInfo)⟩) ∧
    (∀ (i j : Nat) (boundI : i < sends.length) (boundJ : j < sends.length),
      recordSeal after sends i boundI = recordSeal after sends j boundJ ↔
        ordinal sends i boundI % 2 ^ 64 = ordinal sends j boundJ % 2 ^ 64) ∧
    (∀ (i j : Nat) (earlier : i < j) (boundJ : j < sends.length), sends[i] = sends[j] →
      sends.count sends[j] ≤ 2 ^ 64 →
        recordSeal after sends i (by omega) ≠ recordSeal after sends j boundJ) := by
  have sealing := recordSeal_configured keyInfo kernel before after configured sends
  refine ⟨?_, ?_, ?_⟩
  · exact fun e => configureKtls_installs (kernel e) keyInfo (before e) (after e) (configured e)
  · intro i j boundI boundJ
    rw [sealing i boundI, sealing j boundJ, Option.some.injEq]
    exact sealedWith_eq_iff _ _ sends (fun _ _ => rfl) (fun _ _ => rfl) i j boundI boundJ
  · intro i j earlier boundJ same few
    rw [sealing i (by omega), sealing j boundJ, ne_eq, Option.some.injEq]
    exact sealedWith_ne _ _ sends i j earlier boundJ same few

def fetchedKeyInfo : TlsKeyInfo := fillKeyInfo ⟨0, Vector.replicate 32 7⟩

def willing (_ : Endpoint) (_ : KtlsSocket) (_ : SockOpt) : Int := 0

def configuredSockets (_ : Endpoint) : KtlsSocket :=
  ⟨some "tls", some (cryptoInfo fetchedKeyInfo), some (cryptoInfo fetchedKeyInfo)⟩

theorem configureKtls_willing (e : Endpoint) :
    configureKtls (willing e) fetchedKeyInfo KtlsSocket.plain =
      (.returned 0, configuredSockets e) := rfl

theorem second_record_sealed_unlike_first :
    recordSeal configuredSockets [.client, .server, .client] 0 (by decide) ≠
      recordSeal configuredSockets [.client, .server, .client] 2 (by decide) :=
  (records_sealed_alike_iff fetchedKeyInfo willing (fun _ => KtlsSocket.plain) configuredSockets
    configureKtls_willing [.client, .server, .client]).2.2 0 2 (by decide) (by decide) rfl
    (by decide)

/-- One record in each direction is enough for a reuse. -/
theorem first_records_share_nonce :
    (∀ e, configureKtls (willing e) fetchedKeyInfo KtlsSocket.plain =
      (.returned 0, configuredSockets e)) ∧
    recordSeal configuredSockets [.client, .server] 0 (by decide) =
      recordSeal configuredSockets [.client, .server] 1 (by decide) ∧
    (recordSeal configuredSockets [.client, .server] 0 (by decide)).isSome = true := by
  refine ⟨?_, by decide, by decide⟩
  intro e
  rfl

end TlshubEbpf.Ktls
