import TlshubEbpf.Netlink.System

/-! # Streams of messages that are received without errors

A `Datagram` is a message that makes `recvfrom` return a positive count.  In a
`streamEnv` every system call succeeds and the datagrams that arrive between two
requests are given by the number of the first and by its contents. -/

set_option autoImplicit false

namespace TlshubEbpf.Netlink

open TlshubEbpf.Lib

structure Datagram where
  source : SockaddrNl
  bytes : List UInt8
  nonempty : bytes ≠ []

def Datagram.delivery (d : Datagram) : Delivery := .message d.source d.bytes

/-- The type byte of a message that has one, 0 for a shorter message. -/
def Datagram.msgType (d : Datagram) : UInt8 := d.bytes.getD 16 0

@[simp] theorem Datagram.delivery_msgType (d : Datagram) :
    d.delivery.uInfo.msgType = d.msgType := UserMsgInfo.received_msgType d.bytes

def Datagram.bare (msgType : UInt8) : Datagram where
  source := kernelAddr
  bytes := List.replicate 16 0 ++ [msgType]
  nonempty := by simp

def Datagram.keyed (source : SockaddrNl) (status key : UInt8) : Datagram where
  source := source
  bytes := List.replicate 17 0 ++ (List.replicate 4 status ++ List.replicate 32 key)
  nonempty := by simp

theorem Datagram.delivery_ret (d : Datagram) : d.delivery.ret ≠ 0 := by
  rw [ne_eq, Delivery.ret_eq_zero_iff]
  rintro ⟨source, empty⟩
  have noBytes : d.bytes = [] := congrArg Delivery.bytes empty
  exact d.nonempty noBytes

theorem stops_delivery (switch : UInt8 → Option Int) (d : Datagram) :
    stops switch d.delivery = (switch d.msgType).isSome := by
  simp [stops, d.delivery_ret]

def sendtoCount (calls : List Syscall) : Nat :=
  calls.countP fun
    | .sendto _ _ _ _ => true
    | _ => false

theorem sendtoCount_append (calls more : List Syscall) :
    sendtoCount (calls ++ more) = sendtoCount calls + sendtoCount more :=
  List.countP_append

def requests (calls : List Syscall) : List Request :=
  calls.filterMap fun
    | .sendto _ _ request _ => some request
    | _ => none

theorem requests_append (calls more : List Syscall) :
    requests (calls ++ more) = requests calls ++ requests more :=
  List.filterMap_append

theorem requests_sendto (fd : Int) (dest : SockaddrNl) (request : Request)
    (result : SendResult) (rest : List Syscall) :
    requests (.sendto fd dest request result :: rest) = request :: requests rest := rfl

theorem requests_reads (fd : Int) (read : List Datagram) :
    requests (read.map fun d => .recvfrom fd d.delivery) = [] := by
  simp [requests]

theorem length_requests (calls : List Syscall) :
    (requests calls).length = sendtoCount calls := by
  induction calls with
  | nil => rfl
  | cons call rest ih =>
      cases call <;> simpa [requests, sendtoCount, List.countP_cons] using ih

/-- Between the request number `n` and the next one `stream n request` arrives. -/
@[simps]
def streamEnv (order : ByteOrder) (tid : UInt32) (stream : Nat → Request → List Datagram) : Env :=
  { order := order
    tid := tid
    socketOk := fun _ => true
    bindOk := fun _ _ _ => true
    mallocOk := fun _ => true
    peer := fun calls _ _ request =>
      (.sent requestLen.toNat, (stream (sendtoCount calls) request).map Datagram.delivery) }

theorem sent_ret_ne_zero : (SendResult.sent requestLen.toNat).ret ≠ 0 := by decide

/-- On a stream the loop leaves on the first message whose type is in its switch. -/
theorem waitLoop_stream {S : Type} (fd : Int) (addr : SockaddrNl → S → S)
    (onEmpty : Program (World S) Int) (switch : UInt8 → Option Int)
    (finish : Int → Program (World S) Int) (w : World S) (read rest : List Datagram)
    (stop : Datagram) (verdict : Int)
    (queue : w.inbox fd = (read ++ stop :: rest).map Datagram.delivery)
    (passes : ∀ d ∈ read, switch d.msgType = none)
    (halts : switch stop.msgType = some verdict) :
    waitLoop fd addr onEmpty switch finish w =
      finish verdict (w.afterReads fd addr ((read ++ [stop]).map Datagram.delivery)
        (rest.map Datagram.delivery)) := by
  have stopped := waitLoop_stop fd addr onEmpty switch finish stop.delivery
    (rest.map Datagram.delivery) (by simp [stops_delivery, halts])
    (read.map Datagram.delivery) w (by simpa using queue) (by
      intro d member
      obtain ⟨datagram, inRead, rfl⟩ := List.mem_map.mp member
      simp [stops_delivery, passes datagram inRead])
  rw [stopped, if_neg stop.delivery_ret, Datagram.delivery_msgType, halts, Option.getD_some]
  simp

end TlshubEbpf.Netlink
