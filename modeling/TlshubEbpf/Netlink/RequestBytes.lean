import TlshubEbpf.Lib.Memory
import TlshubEbpf.Netlink.Message

/-! # The bytes of a request

Words lie in memory in the byte order of the host.  A request is built in a
block from `malloc`: part of the block is cleared, the five fields of the header
are assigned, and the 16 bytes of a `my_msg` are copied behind it. -/

set_option autoImplicit false

namespace TlshubEbpf.Netlink

open TlshubEbpf.Lib

def inOrder (order : ByteOrder) (lowFirst : List UInt8) : List UInt8 :=
  match order with
  | .little => lowFirst
  | .big => lowFirst.reverse

def bytesOf16 (order : ByteOrder) (x : UInt16) : List UInt8 :=
  inOrder order [UInt8.ofNat x.toNat, UInt8.ofNat (x.toNat / 2 ^ 8)]

def bytesOf32 (order : ByteOrder) (x : UInt32) : List UInt8 :=
  inOrder order
    [UInt8.ofNat x.toNat, UInt8.ofNat (x.toNat / 2 ^ 8), UInt8.ofNat (x.toNat / 2 ^ 16),
      UInt8.ofNat (x.toNat / 2 ^ 24)]

def numberOf (order : ByteOrder) (bytes : List UInt8) : Nat :=
  (inOrder order bytes).foldr (fun b rest => b.toNat + 2 ^ 8 * rest) 0

def word16 (order : ByteOrder) (bytes : List UInt8) : UInt16 :=
  UInt16.ofNat (numberOf order bytes)

def word32 (order : ByteOrder) (bytes : List UInt8) : UInt32 :=
  UInt32.ofNat (numberOf order bytes)

theorem inOrder_inOrder (order : ByteOrder) (bytes : List UInt8) :
    inOrder order (inOrder order bytes) = bytes := by
  cases order with
  | little => rfl
  | big => exact List.reverse_reverse bytes

@[simp] theorem length_inOrder (order : ByteOrder) (bytes : List UInt8) :
    (inOrder order bytes).length = bytes.length := by
  cases order with
  | little => rfl
  | big => exact List.length_reverse

@[simp] theorem length_bytesOf16 (order : ByteOrder) (x : UInt16) :
    (bytesOf16 order x).length = 2 :=
  length_inOrder order _

@[simp] theorem length_bytesOf32 (order : ByteOrder) (x : UInt32) :
    (bytesOf32 order x).length = 4 :=
  length_inOrder order _

theorem word16_bytesOf16 (order : ByteOrder) (x : UInt16) :
    word16 order (bytesOf16 order x) = x := by
  have bound := x.toNat_lt
  apply UInt16.toNat_inj.mp
  simp only [word16, numberOf, bytesOf16, inOrder_inOrder, List.foldr_cons, List.foldr_nil,
    UInt8.toNat_ofNat', UInt16.toNat_ofNat']
  omega

theorem word32_bytesOf32 (order : ByteOrder) (x : UInt32) :
    word32 order (bytesOf32 order x) = x := by
  have bound := x.toNat_lt
  apply UInt32.toNat_inj.mp
  simp only [word32, numberOf, bytesOf32, inOrder_inOrder, List.foldr_cons, List.foldr_nil,
    UInt8.toNat_ofNat', UInt32.toNat_ofNat']
  omega

theorem bytesOf16_injective (order : ByteOrder) : Function.Injective (bytesOf16 order) :=
  Function.LeftInverse.injective (word16_bytesOf16 order)

theorem bytesOf32_injective (order : ByteOrder) : Function.Injective (bytesOf32 order) :=
  Function.LeftInverse.injective (word32_bytesOf32 order)

/-- The number that the bytes in memory are in network order. -/
def ntohl (order : ByteOrder) (x : UInt32) : UInt32 := word32 .big (bytesOf32 order x)

def ntohs (order : ByteOrder) (x : UInt16) : UInt16 := htons order x

theorem htons_toNat (x : UInt16) :
    (htons .little x).toNat = x.toNat % 2 ^ 8 * 2 ^ 8 + x.toNat / 2 ^ 8 := by
  have bound := x.toNat_lt
  have up : x.toNat <<< ((8 : UInt16).toNat % 16) % 2 ^ 16 = (x.toNat % 2 ^ 8) <<< 8 := by
    simp only [UInt16.reduceToNat, Nat.reduceMod, Nat.shiftLeft_eq]
    omega
  have down : x.toNat >>> ((8 : UInt16).toNat % 16) = x.toNat / 2 ^ 8 :=
    Nat.shiftRight_eq_div_pow _ _
  have low : x.toNat / 2 ^ 8 < 2 ^ 8 := by omega
  simp only [htons, UInt16.toNat_or, UInt16.toNat_shiftLeft, UInt16.toNat_shiftRight]
  rw [up, down, ← Nat.shiftLeft_add_eq_or_of_lt low, Nat.shiftLeft_eq]

theorem htons_htons (order : ByteOrder) (x : UInt16) : htons order (htons order x) = x := by
  cases order with
  | big => rfl
  | little =>
      have bound := x.toNat_lt
      apply UInt16.toNat_inj.mp
      rw [htons_toNat, htons_toNat]
      omega

theorem htons_injective (order : ByteOrder) : Function.Injective (htons order) :=
  Function.LeftInverse.injective (htons_htons order)

def NlmsgHdr.bytes (order : ByteOrder) (hdr : NlmsgHdr) : List UInt8 :=
  bytesOf32 order hdr.nlmsgLen ++ bytesOf16 order hdr.nlmsgType ++
    bytesOf16 order hdr.nlmsgFlags ++ bytesOf32 order hdr.nlmsgSeq ++
      bytesOf32 order hdr.nlmsgPid

def MyMsg.addressBytes (order : ByteOrder) (msg : MyMsg) : List UInt8 :=
  bytesOf32 order msg.clientPodIp ++ bytesOf32 order msg.serverPodIp ++
    bytesOf16 order msg.clientPodPort ++ bytesOf16 order msg.serverPodPort

def MyMsg.bytes (order : ByteOrder) (msg : MyMsg) : List UInt8 :=
  msg.addressBytes order ++ [msg.opcode, msg.server] ++ bytesOf16 order msg.padding

def Request.bytes (order : ByteOrder) (request : Request) : List UInt8 :=
  request.hdr.bytes order ++ request.body.bytes order

@[simp] theorem NlmsgHdr.length_bytes (order : ByteOrder) (hdr : NlmsgHdr) :
    (hdr.bytes order).length = 16 := by
  simp [NlmsgHdr.bytes]

@[simp] theorem MyMsg.length_addressBytes (order : ByteOrder) (msg : MyMsg) :
    (msg.addressBytes order).length = 12 := by
  simp [MyMsg.addressBytes]

@[simp] theorem MyMsg.length_bytes (order : ByteOrder) (msg : MyMsg) :
    (msg.bytes order).length = 16 := by
  simp [MyMsg.bytes]

theorem MyMsg.addressBytes_eq_iff (order : ByteOrder) (first second : MyMsg) :
    first.addressBytes order = second.addressBytes order ↔
      first.clientPodIp = second.clientPodIp ∧ first.serverPodIp = second.serverPodIp ∧
        first.clientPodPort = second.clientPodPort ∧
          first.serverPodPort = second.serverPodPort := by
  constructor
  · intro same
    obtain ⟨same, serverPodPort⟩ := List.append_inj' same (by simp)
    obtain ⟨same, clientPodPort⟩ := List.append_inj' same (by simp)
    obtain ⟨clientPodIp, serverPodIp⟩ := List.append_inj' same (by simp)
    exact ⟨bytesOf32_injective order clientPodIp, bytesOf32_injective order serverPodIp,
      bytesOf16_injective order clientPodPort, bytesOf16_injective order serverPodPort⟩
  · rintro ⟨clientPodIp, serverPodIp, clientPodPort, serverPodPort⟩
    simp only [MyMsg.addressBytes, clientPodIp, serverPodIp, clientPodPort, serverPodPort]

theorem MyMsg.bytes_injective (order : ByteOrder) : Function.Injective (MyMsg.bytes order) := by
  intro first second same
  obtain ⟨same, padding⟩ := List.append_inj' same (by simp)
  obtain ⟨address, rest⟩ := List.append_inj' same (by simp)
  obtain ⟨clientPodIp, serverPodIp, clientPodPort, serverPodPort⟩ :=
    (MyMsg.addressBytes_eq_iff order first second).mp address
  have paddingEq := bytesOf16_injective order padding
  cases first
  cases second
  simp_all

theorem Request.bytes_inj (order : ByteOrder) (hdr : NlmsgHdr) (first second : MyMsg) :
    Request.bytes order ⟨hdr, first⟩ = Request.bytes order ⟨hdr, second⟩ ↔ first = second := by
  constructor
  · intro same
    exact MyMsg.bytes_injective order (List.append_cancel_left same)
  · rintro rfl
    rfl

/-! ## Building a request in a block -/

def nlmsgSpace : Nat := 144

def assignHdr (order : ByteOrder) (block : List UInt8) : List UInt8 :=
  let block := store 0 (bytesOf32 order requestLen) block
  let block := store 6 (bytesOf16 order 0) block
  let block := store 4 (bytesOf16 order 0) block
  store 8 (bytesOf32 order 0) block

/-- `memset(nlh, 0, cleared)` and the assignments that follow it. -/
def prepareHdr (order : ByteOrder) (cleared : Nat) (block : List UInt8) : List UInt8 :=
  assignHdr order (fill 0 cleared block)

def storePid (order : ByteOrder) (tid : UInt32) (block : List UInt8) : List UInt8 :=
  store 12 (bytesOf32 order tid) block

def storeMsg (order : ByteOrder) (msg : MyMsg) (block : List UInt8) : List UInt8 :=
  store 16 (msg.bytes order) block

def sentBytes (order : ByteOrder) (block : List UInt8) : List UInt8 :=
  block.take (word32 order (block.take 4)).toNat

/-- The block begins with a finished header and has room for a message. -/
def Framed (order : ByteOrder) (pid : UInt32) (block : List UInt8) : Prop :=
  ∃ rest, 16 ≤ rest.length ∧
    block = NlmsgHdr.bytes order ⟨requestLen, 0, 0, 0, pid⟩ ++ rest

theorem assignHdr_within (order : ByteOrder) (first rest : List UInt8)
    (hdr : first.length = 16) :
    assignHdr order (first ++ rest) = assignHdr order first ++ rest := by
  have field : ∀ (offset : Nat) (bytes first : List UInt8), offset + bytes.length ≤ 16 →
      first.length = 16 →
        store offset bytes (first ++ rest) = store offset bytes first ++ rest ∧
          (store offset bytes first).length = 16 := by
    intro offset bytes first inside hdr
    rw [← hdr] at inside
    exact ⟨store_within offset bytes first rest inside,
      (length_store offset bytes first inside).trans hdr⟩
  obtain ⟨len, hdr⟩ := field 0 (bytesOf32 order requestLen) first (by simp) hdr
  obtain ⟨flags, hdr⟩ := field 6 (bytesOf16 order 0) _ (by simp) hdr
  obtain ⟨type, hdr⟩ := field 4 (bytesOf16 order 0) _ (by simp) hdr
  obtain ⟨seq, -⟩ := field 8 (bytesOf32 order 0) _ (by simp) hdr
  simp only [assignHdr, len, flags, type, seq]

theorem assignHdr_zeros (order : ByteOrder) :
    assignHdr order (List.replicate 16 0) =
      NlmsgHdr.bytes order ⟨requestLen, 0, 0, 0, 0⟩ := by
  cases order with
  | little => rfl
  | big => rfl

theorem prepareHdr_framed (order : ByteOrder) (cleared : Nat) (block : List UInt8)
    (hdrCleared : 16 ≤ cleared) (fits : cleared ≤ block.length) (room : 32 ≤ block.length) :
    Framed order 0 (prepareHdr order cleared block) := by
  obtain ⟨more, rfl⟩ := Nat.exists_eq_add_of_le hdrCleared
  refine ⟨List.replicate more 0 ++ block.drop (16 + more), ?_, ?_⟩
  · simp only [List.length_append, List.length_replicate, List.length_drop]
    omega
  · rw [prepareHdr, fill_eq, List.replicate_add, List.append_assoc,
      assignHdr_within order _ _ List.length_replicate, assignHdr_zeros]

theorem storePid_framed (order : ByteOrder) (pid tid : UInt32) (block : List UInt8)
    (framed : Framed order pid block) : Framed order tid (storePid order tid block) := by
  obtain ⟨rest, room, rfl⟩ := framed
  refine ⟨rest, room, ?_⟩
  -- The process id is the last field of the header.
  have fields : (bytesOf32 order requestLen ++ bytesOf16 order 0 ++ bytesOf16 order 0 ++
      bytesOf32 order 0).length = 12 := by simp
  have replaced : store 12 (bytesOf32 order tid)
      (NlmsgHdr.bytes order ⟨requestLen, 0, 0, 0, pid⟩) =
        NlmsgHdr.bytes order ⟨requestLen, 0, 0, 0, tid⟩ := by
    have beyond := store_beyond (bytesOf32 order tid) (bytesOf32 order requestLen ++
      bytesOf16 order 0 ++ bytesOf16 order 0 ++ bytesOf32 order 0) (bytesOf32 order pid)
    rw [fields, store_over _ _ (by simp)] at beyond
    exact beyond
  rw [storePid, store_within 12 _ _ _ (by simp), replaced]

theorem sentLen (order : ByteOrder) (hdr : NlmsgHdr) (rest : List UInt8) :
    word32 order ((hdr.bytes order ++ rest).take 4) = hdr.nlmsgLen := by
  simp only [NlmsgHdr.bytes, List.append_assoc]
  rw [List.take_left' (length_bytesOf32 order hdr.nlmsgLen), word32_bytesOf32]

theorem storeMsg_framed (order : ByteOrder) (pid : UInt32) (msg : MyMsg) (block : List UInt8)
    (framed : Framed order pid block) :
    Framed order pid (storeMsg order msg block) ∧
      sentBytes order (storeMsg order msg block) =
        Request.bytes order ⟨⟨requestLen, 0, 0, 0, pid⟩, msg⟩ := by
  obtain ⟨rest, room, rfl⟩ := framed
  have copied : storeMsg order msg
      (NlmsgHdr.bytes order ⟨requestLen, 0, 0, 0, pid⟩ ++ rest) =
        NlmsgHdr.bytes order ⟨requestLen, 0, 0, 0, pid⟩ ++ (msg.bytes order ++ rest.drop 16) := by
    have beyond := store_beyond (msg.bytes order)
      (NlmsgHdr.bytes order ⟨requestLen, 0, 0, 0, pid⟩) rest
    rw [NlmsgHdr.length_bytes, store_start, MyMsg.length_bytes] at beyond
    exact beyond
  rw [copied]
  constructor
  · refine ⟨msg.bytes order ++ rest.drop 16, ?_, rfl⟩
    simp only [List.length_append, MyMsg.length_bytes]
    omega
  · rw [sentBytes, sentLen, ← List.append_assoc]
    exact List.take_left' (by simp [requestLen])

end TlshubEbpf.Netlink
