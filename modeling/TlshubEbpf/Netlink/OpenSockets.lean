import TlshubEbpf.Netlink.System

/-! # Sockets that a process holds

The record of the system calls says which sockets have been created and not
closed.  A program that neither creates nor closes one, and stores none in its
static variables, leaves both as they were. -/

set_option autoImplicit false

namespace TlshubEbpf.Netlink

open TlshubEbpf.Lib Program

def trackOpen (held : List Int) : Syscall → List Int
  | .socket fd => if 0 ≤ fd then fd :: held else held
  | .close fd => held.erase fd
  | .bind .. => held
  | .malloc _ => held
  | .sendto .. => held
  | .recvfrom .. => held

def openSockets (calls : List Syscall) : List Int :=
  calls.foldl trackOpen []

@[simp] theorem openSockets_socket (calls : List Syscall) (fd : Int) (created : 0 ≤ fd) :
    openSockets (calls ++ [.socket fd]) = fd :: openSockets calls := by
  simp [openSockets, trackOpen, created]

@[simp] theorem openSockets_close (calls : List Syscall) (fd : Int) :
    openSockets (calls ++ [.close fd]) = (openSockets calls).erase fd := by
  simp [openSockets, trackOpen]

@[simp] theorem openSockets_bind (calls : List Syscall) (fd : Int) (nlPid : UInt32)
    (ret : Int) : openSockets (calls ++ [.bind fd nlPid ret]) = openSockets calls := by
  simp [openSockets, trackOpen]

@[simp] theorem openSockets_malloc (calls : List Syscall) (ok : Bool) :
    openSockets (calls ++ [.malloc ok]) = openSockets calls := by
  simp [openSockets, trackOpen]

@[simp] theorem openSockets_sendto (calls : List Syscall) (fd : Int) (dest : SockaddrNl)
    (request : Request) (result : SendResult) :
    openSockets (calls ++ [.sendto fd dest request result]) = openSockets calls := by
  simp [openSockets, trackOpen]

@[simp] theorem openSockets_reads (calls : List Syscall) (fd : Int) (read : List Delivery) :
    openSockets (calls ++ read.map (Syscall.recvfrom fd)) = openSockets calls := by
  unfold openSockets
  rw [List.foldl_append]
  induction read with
  | nil => rfl
  | cons d read ih => exact ih

section Holding
variable {S : Type} (stored : S → Int)

/-- The socket in a static variable and the sockets that are open. -/
def holding (w : World S) : Int × List Int :=
  (stored w.vars, openSockets w.calls)

theorem keeps_malloc (env : Env) : Keeps (holding stored) (malloc env : Program (World S) Bool) := by
  intro w
  simp [holding, malloc]

theorem keeps_sendto (env : Env) (fd : Int) (dest : SockaddrNl) (request : Request) :
    Keeps (holding stored) (sendto env fd dest request : Program (World S) Int) := by
  intro w
  simp [holding, sendto]

variable (fd : Int) (addr : SockaddrNl → S → S)
  (elsewhere : ∀ source vars, stored (addr source vars) = stored vars)
include elsewhere

theorem stored_reads (read : List Delivery) (vars : S) :
    stored (read.foldl (storeSource addr) vars) = stored vars := by
  induction read generalizing vars with
  | nil => rfl
  | cons d read ih =>
      rw [List.foldl_cons, ih]
      unfold storeSource
      cases d.source? with
      | none => rfl
      | some source => exact elsewhere source vars

theorem holding_afterReads (w : World S) (read rest : List Delivery) :
    holding stored (w.afterReads fd addr read rest) = holding stored w := by
  simp [holding, stored_reads stored addr elsewhere]

theorem keeps_recvfrom : Keeps (holding stored) (recvfrom fd addr) := by
  intro w
  unfold recvfrom
  cases queue : w.inbox fd with
  | nil => rfl
  | cons d rest => exact holding_afterReads stored fd addr elsewhere w [d] rest

theorem keeps_waitLoop (onEmpty : Program (World S) Int) (switch : UInt8 → Option Int)
    (finish : Int → Program (World S) Int) (empty : Keeps (holding stored) onEmpty)
    (finished : ∀ verdict, Keeps (holding stored) (finish verdict)) :
    Keeps (holding stored) (waitLoop fd addr onEmpty switch finish) :=
  waitLoop_keeps fd addr onEmpty switch finish (holding stored)
    (keeps_recvfrom stored fd addr elsewhere) empty finished

end Holding
end TlshubEbpf.Netlink
