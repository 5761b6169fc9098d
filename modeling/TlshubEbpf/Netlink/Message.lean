import Mathlib.Algebra.Group.Int.Defs
import Mathlib.Algebra.Group.Nat.Defs
import Mathlib.Data.List.Basic

/-! # Messages between the two user-space clients and the kernel module

Requests are a `nlmsghdr` followed by a `my_msg`, 32 bytes in all.  Replies are
copied into a zeroed `user_msg_info` of 144 bytes: the type byte at offset 16,
125 payload bytes from offset 17.  A `key_back` is read from the start of the
payload, so it takes up the bytes 17 to 52 of a message. -/

set_option autoImplicit false

namespace TlshubEbpf.Netlink

inductive ByteOrder where
  | little
  | big
  deriving DecidableEq, Repr

def htons (order : ByteOrder) (x : UInt16) : UInt16 :=
  match order with
  | .little => x <<< 8 ||| x >>> 8
  | .big => x

def intOfBytes (order : ByteOrder) (b0 b1 b2 b3 : UInt8) : Int :=
  let word : Nat :=
    match order with
    | .little => b0.toNat + 2 ^ 8 * b1.toNat + 2 ^ 16 * b2.toNat + 2 ^ 24 * b3.toNat
    | .big => b3.toNat + 2 ^ 8 * b2.toNat + 2 ^ 16 * b1.toNat + 2 ^ 24 * b0.toNat
  if word < 2 ^ 31 then word else word - 2 ^ 32

theorem intOfBytes_eq_zero_iff (order : ByteOrder) (b0 b1 b2 b3 : UInt8) :
    intOfBytes order b0 b1 b2 b3 = 0 ↔ b0 = 0 ∧ b1 = 0 ∧ b2 = 0 ∧ b3 = 0 := by
  have bound0 := b0.toNat_lt
  have bound1 := b1.toNat_lt
  have bound2 := b2.toNat_lt
  have bound3 := b3.toNat_lt
  simp only [← UInt8.toNat_inj, UInt8.toNat_zero]
  cases order <;> simp only [intOfBytes] <;> split <;> omega

/-! ## Requests -/

structure SockaddrNl where
  nlFamily : UInt16
  nlPid : UInt32
  nlGroups : UInt32
  deriving DecidableEq, Repr

def afNetlink : UInt16 := 16

def kernelAddr : SockaddrNl := ⟨afNetlink, 0, 0⟩

structure NlmsgHdr where
  nlmsgLen : UInt32
  nlmsgType : UInt16
  nlmsgFlags : UInt16
  nlmsgSeq : UInt32
  nlmsgPid : UInt32
  deriving DecidableEq, Repr

/-- `struct my_msg` as it lies in memory: 14 bytes of fields and two of padding. -/
structure MyMsg where
  clientPodIp : UInt32
  serverPodIp : UInt32
  clientPodPort : UInt16
  serverPodPort : UInt16
  opcode : UInt8
  server : UInt8
  padding : UInt16
  deriving DecidableEq, Repr

def MyMsg.zeroed : MyMsg := ⟨0, 0, 0, 0, 0, 0, 0⟩

def tlsServiceInit : UInt8 := 0
def tlsServiceStart : UInt8 := 1
def tlsServiceFetch : UInt8 := 2

/-- The `nlmsg_len` bytes handed to `sendto`. -/
structure Request where
  hdr : NlmsgHdr
  body : MyMsg
  deriving DecidableEq, Repr

def requestLen : UInt32 := 32

inductive SendResult where
  | failed
  | sent (count : Nat)
  deriving DecidableEq, Repr

def SendResult.ret : SendResult → Int
  | .failed => -1
  | .sent count => count

/-! ## Replies -/

inductive Delivery where
  | failed
  | message (source : SockaddrNl) (bytes : List UInt8)
  deriving DecidableEq, Repr

def sizeofUserMsgInfo : Nat := 144

/-- The part of `user_msg_info` that is read after a `recvfrom`. -/
structure UserMsgInfo where
  msgType : UInt8
  msg : Vector UInt8 125
  deriving DecidableEq

/-- The zeroed buffer with the received bytes, cut at its end, copied over it. -/
def UserMsgInfo.received (bytes : List UInt8) : UserMsgInfo :=
  let copied := bytes.take sizeofUserMsgInfo
  { msgType := copied.getD 16 0
    msg := Vector.ofFn fun i : Fin 125 => copied.getD (17 + i) 0 }

def Delivery.ret : Delivery → Int
  | .failed => -1
  | .message _ bytes => (bytes.take sizeofUserMsgInfo).length

def Delivery.bytes : Delivery → List UInt8
  | .failed => []
  | .message _ bytes => bytes

def Delivery.uInfo (d : Delivery) : UserMsgInfo := UserMsgInfo.received d.bytes

def Delivery.source? : Delivery → Option SockaddrNl
  | .failed => none
  | .message source _ => some source

def msgTypeHandshakeSuccessFirst : UInt8 := 0x01
def msgTypeHandshakeSuccess : UInt8 := 0x02
def msgTypeHandshakeFailed : UInt8 := 0x03
def msgTypeLog : UInt8 := 0x04
def msgTypeAlreadyConnected : UInt8 := 0x05
def msgTypeInitComplete : UInt8 := 0x07

structure KeyBack where
  status : Int
  masterkey : Vector UInt8 32
  deriving DecidableEq

def KeyBack.zeroed : KeyBack := ⟨0, Vector.replicate 32 0⟩

def KeyBack.ofMsg (order : ByteOrder) (msg : Vector UInt8 125) : KeyBack :=
  { status := intOfBytes order msg[0] msg[1] msg[2] msg[3]
    masterkey := Vector.ofFn fun i : Fin 32 => msg[4 + i.val] }

theorem Delivery.ret_eq_zero_iff (d : Delivery) :
    d.ret = 0 ↔ ∃ source, d = .message source [] := by
  cases d with
  | failed => simp [Delivery.ret]
  | message source bytes =>
      cases bytes with
      | nil => simp [Delivery.ret]
      | cons b rest => simp [Delivery.ret, sizeofUserMsgInfo]; omega

theorem UserMsgInfo.received_msg_get (bytes : List UInt8) (i : Nat) (bound : i < 125) :
    (UserMsgInfo.received bytes).msg[i] = bytes.getD (17 + i) 0 := by
  have inside : 17 + i < sizeofUserMsgInfo := by simp only [sizeofUserMsgInfo]; omega
  simp [UserMsgInfo.received, List.getD_eq_getElem?_getD, List.getElem?_take, inside]

theorem UserMsgInfo.received_msgType (bytes : List UInt8) :
    (UserMsgInfo.received bytes).msgType = bytes.getD 16 0 := by
  simp [UserMsgInfo.received, List.getD_eq_getElem?_getD, List.getElem?_take, sizeofUserMsgInfo]

/-- A message that reaches past its byte 52 holds a whole `key_back`. -/
def wholeKeyBack (bytes : List UInt8) : Prop := 53 ≤ bytes.length

instance (bytes : List UInt8) : Decidable (wholeKeyBack bytes) :=
  inferInstanceAs (Decidable (53 ≤ bytes.length))

def statusField (bytes : List UInt8) : List UInt8 := (bytes.drop 17).take 4

def masterkeyField (bytes : List UInt8) : List UInt8 := (bytes.drop 21).take 32

theorem mem_statusField_iff (bytes : List UInt8) (b : UInt8) :
    b ∈ statusField bytes ↔ ∃ i < 4, bytes[17 + i]? = some b := by
  simp only [statusField, List.mem_iff_getElem?, List.getElem?_take, List.getElem?_drop]
  constructor
  · rintro ⟨i, found⟩
    split at found
    · rename_i inside
      exact ⟨i, inside, found⟩
    · contradiction
  · rintro ⟨i, inside, found⟩
    exact ⟨i, by rw [if_pos inside]; exact found⟩

/-- Bytes the message does not have count as zero: the buffer was zeroed. -/
theorem status_eq_zero_iff (order : ByteOrder) (bytes : List UInt8) :
    (KeyBack.ofMsg order (UserMsgInfo.received bytes).msg).status = 0 ↔
      ∀ b ∈ statusField bytes, b = 0 := by
  have zeroByte : ∀ i, bytes.getD i 0 = 0 ↔ ∀ b, bytes[i]? = some b → b = 0 := by
    intro i
    rw [List.getD_eq_getElem?_getD]
    cases bytes[i]? <;> simp
  simp only [KeyBack.ofMsg, intOfBytes_eq_zero_iff, UserMsgInfo.received_msg_get, zeroByte,
    mem_statusField_iff]
  constructor
  · rintro ⟨zero0, zero1, zero2, zero3⟩ b ⟨i, inside, found⟩
    obtain rfl | rfl | rfl | rfl : i = 0 ∨ i = 1 ∨ i = 2 ∨ i = 3 := by omega
    · exact zero0 b found
    · exact zero1 b found
    · exact zero2 b found
    · exact zero3 b found
  · intro zero
    exact ⟨fun b found => zero b ⟨0, by omega, found⟩, fun b found => zero b ⟨1, by omega, found⟩,
      fun b found => zero b ⟨2, by omega, found⟩, fun b found => zero b ⟨3, by omega, found⟩⟩

theorem masterkey_toList (order : ByteOrder) (bytes : List UInt8)
    (whole : wholeKeyBack bytes) :
    (KeyBack.ofMsg order (UserMsgInfo.received bytes).msg).masterkey.toList =
      masterkeyField bytes := by
  unfold wholeKeyBack at whole
  apply List.ext_getElem
  · simp [masterkeyField]; omega
  · intro i inLeft inRight
    have inside : i < 32 := by simpa using inLeft
    have reached : 21 + i < bytes.length := by omega
    have offset : 17 + (4 + i) = 21 + i := by omega
    simp [KeyBack.ofMsg, UserMsgInfo.received_msg_get, masterkeyField, offset, reached]

end TlshubEbpf.Netlink
