import TlshubEbpf.Netlink.Stream

/-! # The requests that a program sends and what it reads after each of them

Every system call but `sendto` leaves the list of the requests as it was.  What
is read belongs to the request that was sent last. -/

set_option autoImplicit false

namespace TlshubEbpf.Netlink

open TlshubEbpf.Lib Program

section Sending
variable {S α β : Type} (env : Env)

def sent (w : World S) : List Request := requests w.calls

def SendsNothing (p : Program (World S) α) : Prop := Keeps sent p

def SendsOnly (request : Request) (p : Program (World S) α) : Prop :=
  Appends sent (· = request) p

theorem requests_silent (calls : List Syscall) (call : Syscall)
    (silent : requests [call] = []) : requests (calls ++ [call]) = requests calls := by
  rw [requests_append, silent, List.append_nil]

theorem sendsNothing_socket : SendsNothing (socket env : Program (World S) Int) := by
  intro w
  unfold socket
  split
  · exact requests_silent _ _ rfl
  · exact requests_silent _ _ rfl

theorem sendsNothing_bind (fd : Int) (nlPid : UInt32) :
    SendsNothing (bind env fd nlPid : Program (World S) Int) :=
  fun _ => requests_silent _ _ rfl

theorem sendsNothing_close (fd : Int) : SendsNothing (close fd : Program (World S) Unit) :=
  fun _ => requests_silent _ _ rfl

theorem sendsNothing_malloc : SendsNothing (malloc env : Program (World S) Bool) :=
  fun _ => requests_silent _ _ rfl

theorem sendsOnly_sendto (fd : Int) (dest : SockaddrNl) (request : Request) :
    SendsOnly request (sendto env fd dest request : Program (World S) Int) := by
  intro w
  refine ⟨[request], requests_append _ _, ?_⟩
  intro entry member
  exact List.mem_singleton.mp member

theorem sendsNothing_recvfrom (fd : Int) (addr : SockaddrNl → S → S) :
    SendsNothing (recvfrom fd addr) := by
  intro w
  unfold recvfrom
  cases w.inbox fd with
  | nil => rfl
  | cons d rest => exact requests_silent _ _ rfl

theorem sendsNothing_waitLoop (fd : Int) (addr : SockaddrNl → S → S)
    (onEmpty : Program (World S) Int) (switch : UInt8 → Option Int)
    (finish : Int → Program (World S) Int) (empty : SendsNothing onEmpty)
    (finished : ∀ verdict, SendsNothing (finish verdict)) :
    SendsNothing (waitLoop fd addr onEmpty switch finish) :=
  waitLoop_keeps fd addr onEmpty switch finish sent (sendsNothing_recvfrom fd addr) empty finished

theorem sendsOnly_of_nothing (request : Request) (p : Program (World S) α)
    (nothing : SendsNothing p) : SendsOnly request p :=
  appends_of_keeps sent _ p nothing

theorem sendsOnly_after (request : Request) (p : Program (World S) α)
    (next : α → Program (World S) β) (nothing : SendsNothing p)
    (rest : ∀ value, SendsOnly request (next value)) : SendsOnly request (p >>= next) :=
  appends_bind sent _ p next (sendsOnly_of_nothing request p nothing) rest

theorem sendsOnly_pure (request : Request) (value : α) :
    SendsOnly request (pure value : Program (World S) α) :=
  sendsOnly_of_nothing request _ (keeps_pure sent value)

end Sending

/-- The deliveries, each with the request that was sent last before it was read. -/
def repliesAfter : Option Request → List Syscall → List (Request × Delivery)
  | _, [] => []
  | last, call :: rest =>
      match call with
      | .sendto _ _ request _ => repliesAfter (some request) rest
      | .recvfrom _ d => (last.map fun request => (request, d)).toList ++ repliesAfter last rest
      | _ => repliesAfter last rest

def replies (calls : List Syscall) : List (Request × Delivery) := repliesAfter none calls

theorem repliesAfter_reads (request : Request) (fd : Int) (read : List Datagram) :
    repliesAfter (some request) (read.map fun d => .recvfrom fd d.delivery) =
      read.map fun d => (request, d.delivery) := by
  induction read with
  | nil => rfl
  | cons d read ih =>
      simp only [List.map_cons, repliesAfter, ih]
      rfl

theorem repliesAfter_exchange (last : Option Request) (calls : List Syscall) (fd : Int)
    (dest : SockaddrNl) (request : Request) (result : SendResult) (read : List Datagram) :
    repliesAfter last (calls ++ .sendto fd dest request result ::
        read.map fun d => .recvfrom fd d.delivery) =
      repliesAfter last calls ++ read.map fun d => (request, d.delivery) := by
  induction calls generalizing last with
  | nil => exact repliesAfter_reads request fd read
  | cons call rest ih =>
      cases call with
      | recvfrom fd' d => simp only [List.cons_append, repliesAfter, ih, List.append_assoc]
      | sendto fd' dest' request' result' => exact ih (some request')
      | socket fd' => exact ih last
      | bind fd' nlPid ret => exact ih last
      | close fd' => exact ih last
      | malloc ok => exact ih last

theorem repliesAfter_malloc (last : Option Request) (calls : List Syscall) (ok : Bool) :
    repliesAfter last (calls ++ [.malloc ok]) = repliesAfter last calls := by
  induction calls generalizing last with
  | nil => rfl
  | cons call rest ih =>
      cases call with
      | recvfrom fd d => simp only [List.cons_append, repliesAfter, ih]
      | sendto fd dest request result => exact ih (some request)
      | socket fd => exact ih last
      | bind fd nlPid ret => exact ih last
      | close fd => exact ih last
      | malloc ok' => exact ih last

structure Conversed (calls : List Syscall) (asked : List Request)
    (answers : List (Request × Delivery)) : Prop where
  requests_eq : requests calls = asked
  replies_eq : replies calls = answers

section Conversations
variable {calls : List Syscall} {asked : List Request} {answers : List (Request × Delivery)}

theorem conversed_malloc (ok : Bool) (conversed : Conversed calls asked answers) :
    Conversed (calls ++ [.malloc ok]) asked answers where
  requests_eq := (requests_silent calls _ rfl).trans conversed.requests_eq
  replies_eq := (repliesAfter_malloc none calls ok).trans conversed.replies_eq

theorem conversed_exchange (fd : Int) (dest : SockaddrNl) (request : Request)
    (result : SendResult) (read : List Datagram) (conversed : Conversed calls asked answers) :
    Conversed (calls ++ .sendto fd dest request result ::
        read.map fun d => .recvfrom fd d.delivery)
      (asked ++ [request]) (answers ++ read.map fun d => (request, d.delivery)) where
  requests_eq := by
    rw [requests_append, requests_sendto, requests_reads, conversed.requests_eq]
  replies_eq := by
    rw [replies, repliesAfter_exchange, ← conversed.replies_eq]
    rfl

end Conversations
end TlshubEbpf.Netlink
