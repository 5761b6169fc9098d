import Mathlib.Data.List.TakeWhile
import TlshubEbpf.Netlink.System

/-! # The shape of one request and its wait for an answer

Each of the four wait loops follows a `sendto` whose result is only compared
with 0.  `Exchanged` lists the three ways such an exchange can go, whatever the
operation does before and after it, and the theorems about its failures are
proved from these three cases alone. -/

set_option autoImplicit false

namespace TlshubEbpf.Netlink

open TlshubEbpf.Lib

def isExchangeCall : Syscall → Bool
  | .sendto _ _ _ _ => true
  | .recvfrom _ _ => true
  | _ => false

/-- A `sendto` of -1, a `recvfrom` of -1 or 0. -/
def isFailedCall : Syscall → Bool
  | .sendto _ _ _ result => result == .failed
  | .recvfrom _ received => decide (received.ret ≤ 0)
  | _ => false

def isFailure : Outcome Int → Bool
  | .returned ret => decide (ret < 0)
  | .exited _ => true
  | .crashed => false
  | .blocked => false

/-- Nothing is sent or awaited after a failed call, which makes the operation fail. -/
def StopsAtFailure (made : List Syscall) (outcome : Outcome Int) : Prop :=
  (made.Pairwise fun earlier later => isFailedCall earlier → isExchangeCall later = false) ∧
    ((∃ call ∈ made, isFailedCall call) → isFailure outcome)

def NoErrorBeforeStop (switch : UInt8 → Option Int) (results : List Delivery) : Prop :=
  ∀ d ∈ results.takeWhile (fun d => !stops switch d), d ≠ .failed

def Quiet (calls : List Syscall) : Prop := ∀ call ∈ calls, isExchangeCall call = false

/-- What an exchange can come to, by the result of its `sendto` and the queue. -/
inductive Exchanged (switch : UInt8 → Option Int) (sent : SendResult)
    (results : List Delivery) : List Syscall → Outcome Int → Prop where
  | rejected (setup cleanup : List Syscall) (fd : Int) (dest : SockaddrNl) (request : Request)
      (outcome : Outcome Int) (zero : sent.ret = 0) (quietSetup : Quiet setup)
      (quietCleanup : Quiet cleanup) :
      Exchanged switch sent results (setup ++ .sendto fd dest request sent :: cleanup) outcome
  | unanswered (setup : List Syscall) (fd : Int) (dest : SockaddrNl) (request : Request)
      (nonzero : sent.ret ≠ 0) (quietSetup : Quiet setup)
      (passes : ∀ d ∈ results, stops switch d = false) :
      Exchanged switch sent results
        (setup ++ .sendto fd dest request sent :: results.map (.recvfrom fd)) .blocked
  | stopped (setup cleanup : List Syscall) (fd : Int) (dest : SockaddrNl) (request : Request)
      (read rest : List Delivery) (stop : Delivery) (outcome : Outcome Int)
      (nonzero : sent.ret ≠ 0) (quietSetup : Quiet setup) (quietCleanup : Quiet cleanup)
      (queue : results = read ++ stop :: rest) (halts : stops switch stop = true)
      (passes : ∀ d ∈ read, stops switch d = false)
      (fails : stop.ret = 0 → isFailure outcome) :
      Exchanged switch sent results
        (setup ++ .sendto fd dest request sent ::
          (read.map (.recvfrom fd) ++ .recvfrom fd stop :: cleanup)) outcome

theorem isFailedCall_of_quiet (calls : List Syscall) (quiet : Quiet calls) :
    ∀ call ∈ calls, isFailedCall call = false := by
  intro call member
  have noExchange := quiet call member
  cases call with
  | sendto fd dest request result => simp [isExchangeCall] at noExchange
  | recvfrom fd received => simp [isExchangeCall] at noExchange
  | socket fd => rfl
  | bind fd nlPid ret => rfl
  | close fd => rfl
  | malloc ok => rfl

theorem isFailedCall_sendto (fd : Int) (dest : SockaddrNl) (request : Request)
    (sent : SendResult) : isFailedCall (.sendto fd dest request sent) = true ↔ sent = .failed := by
  simp [isFailedCall]

theorem Delivery.ret_of_message (d : Delivery) (isMessage : d ≠ .failed) : 0 ≤ d.ret := by
  cases d with
  | failed => contradiction
  | message source bytes => simp only [Delivery.ret]; omega

theorem isFailedCall_recvfrom (fd : Int) (d : Delivery) :
    isFailedCall (.recvfrom fd d) = true ↔ d = .failed ∨ d.ret = 0 := by
  by_cases failed : d = .failed
  · simp [isFailedCall, failed, Delivery.ret]
  · have nonneg := Delivery.ret_of_message d failed
    simp only [isFailedCall, decide_eq_true_eq, failed, false_or]
    omega

theorem isFailedCall_passed (switch : UInt8 → Option Int) (fd : Int) (d : Delivery)
    (passes : stops switch d = false) :
    isFailedCall (.recvfrom fd d) = true ↔ d = .failed := by
  have nonzero := ((stops_eq_false_iff switch d).mp passes).1
  rw [isFailedCall_recvfrom]
  exact or_iff_left nonzero

theorem takeWhile_stopped (switch : UInt8 → Option Int) (read rest : List Delivery)
    (stop : Delivery) (passes : ∀ d ∈ read, stops switch d = false)
    (halts : stops switch stop = true) :
    (read ++ stop :: rest).takeWhile (fun d => !stops switch d) = read := by
  induction read with
  | nil => simp [halts]
  | cons d read ih =>
      have skipped := passes d (by simp)
      simp only [List.cons_append, List.takeWhile_cons, skipped, Bool.not_false, if_true]
      rw [ih (fun later member => passes later (by simp [member]))]

theorem takeWhile_passed (switch : UInt8 → Option Int) (results : List Delivery)
    (passes : ∀ d ∈ results, stops switch d = false) :
    results.takeWhile (fun d => !stops switch d) = results := by
  rw [List.takeWhile_eq_self_iff]
  intro d member
  rw [passes d member, Bool.not_false]

/-! ## Peeling a trace call by call -/

theorem stopsAtFailure_cons (call : Syscall) (rest : List Syscall) (outcome : Outcome Int) :
    StopsAtFailure (call :: rest) outcome ↔
      (isFailedCall call → Quiet rest ∧ isFailure outcome) ∧ StopsAtFailure rest outcome := by
  simp only [StopsAtFailure, List.pairwise_cons, List.mem_cons, Quiet]
  constructor
  · rintro ⟨⟨here, later⟩, fails⟩
    refine ⟨?_, later, ?_⟩
    · intro failed
      exact ⟨fun next member => here next member failed, fails ⟨call, Or.inl rfl, failed⟩⟩
    · rintro ⟨next, member, failed⟩
      exact fails ⟨next, Or.inr member, failed⟩
  · rintro ⟨here, later, fails⟩
    refine ⟨⟨?_, later⟩, ?_⟩
    · intro next member failed
      exact (here failed).1 next member
    · rintro ⟨next, rfl | member, failed⟩
      · exact (here failed).2
      · exact fails ⟨next, member, failed⟩

theorem stopsAtFailure_skip (before rest : List Syscall) (outcome : Outcome Int)
    (fine : ∀ call ∈ before, isFailedCall call = false) :
    StopsAtFailure (before ++ rest) outcome ↔ StopsAtFailure rest outcome := by
  induction before with
  | nil => rfl
  | cons call before ih =>
      rw [List.cons_append, stopsAtFailure_cons, fine call (by simp)]
      rw [ih (fun later member => fine later (by simp [member]))]
      simp

theorem stopsAtFailure_quiet (calls : List Syscall) (outcome : Outcome Int)
    (quiet : Quiet calls) : StopsAtFailure calls outcome := by
  have fine := isFailedCall_of_quiet calls quiet
  rw [← List.append_nil calls, stopsAtFailure_skip calls [] outcome fine]
  simp [StopsAtFailure]

theorem stopsAtFailure_blocked (calls : List Syscall) :
    StopsAtFailure calls .blocked ↔ ∀ call ∈ calls, isFailedCall call = false := by
  induction calls with
  | nil => simp [StopsAtFailure]
  | cons call rest ih =>
      rw [stopsAtFailure_cons, ih]
      simp [isFailure]

theorem stopsAtFailure_reads (switch : UInt8 → Option Int) (fd : Int) (stop : Delivery)
    (cleanup : List Syscall) (outcome : Outcome Int) (quietCleanup : Quiet cleanup)
    (unmarked : switch 0 = none) (halts : stops switch stop = true)
    (fails : stop.ret = 0 → isFailure outcome) : ∀ read : List Delivery,
    (∀ d ∈ read, stops switch d = false) →
    (StopsAtFailure (read.map (.recvfrom fd) ++ .recvfrom fd stop :: cleanup) outcome ↔
      ∀ d ∈ read, d ≠ .failed) := by
  intro read
  induction read with
  | nil =>
      intro _
      have isMessage : stop ≠ .failed := by
        rintro rfl
        have passed : stops switch .failed = false := by
          rw [stops_eq_false_iff]
          exact ⟨by decide, unmarked⟩
        rw [passed] at halts
        contradiction
      simp only [List.map_nil, List.nil_append, List.not_mem_nil, false_imp_iff, implies_true,
        iff_true, stopsAtFailure_cons, isFailedCall_recvfrom, isMessage, false_or]
      exact ⟨fun zero => ⟨quietCleanup, fails zero⟩,
        stopsAtFailure_quiet cleanup outcome quietCleanup⟩
  | cons d read ih =>
      intro passes
      rw [List.map_cons, List.cons_append, stopsAtFailure_cons,
        isFailedCall_passed switch fd d (passes d (by simp)),
        ih (fun later member => passes later (by simp [member]))]
      have noisy : ¬ Quiet (read.map (.recvfrom fd) ++ .recvfrom fd stop :: cleanup) := by
        intro quiet
        have last := quiet (.recvfrom fd stop) (by simp)
        simp [isExchangeCall] at last
      simp [noisy]

/-- An exchange stops at its first failed call exactly if its `sendto` returned
0, or did not fail and no `recvfrom` before the loop's last one did. -/
theorem Exchanged.stopsAtFailure_iff (switch : UInt8 → Option Int) (sent : SendResult)
    (results : List Delivery) (made : List Syscall) (outcome : Outcome Int)
    (unmarked : switch 0 = none) (exchanged : Exchanged switch sent results made outcome) :
    StopsAtFailure made outcome ↔
      sent.ret = 0 ∨ sent ≠ .failed ∧ NoErrorBeforeStop switch results := by
  cases exchanged with
  | rejected setup cleanup fd dest request outcome zero quietSetup quietCleanup =>
      have accepted : sent ≠ .failed := by
        rintro rfl
        contradiction
      rw [stopsAtFailure_skip _ _ _ (isFailedCall_of_quiet setup quietSetup),
        stopsAtFailure_cons, isFailedCall_sendto]
      simp [zero, accepted, stopsAtFailure_quiet cleanup outcome quietCleanup]
  | unanswered setup fd dest request nonzero quietSetup passes =>
      rw [stopsAtFailure_skip _ _ _ (isFailedCall_of_quiet setup quietSetup),
        stopsAtFailure_cons, isFailedCall_sendto, stopsAtFailure_blocked]
      have errors : (∀ call ∈ results.map (Syscall.recvfrom fd), isFailedCall call = false) ↔
          ∀ d ∈ results, d ≠ .failed := by
        simp only [List.forall_mem_map, ← Bool.not_eq_true]
        apply forall₂_congr
        intro d member
        rw [isFailedCall_passed switch fd d (passes d member)]
      rw [errors, NoErrorBeforeStop, takeWhile_passed switch results passes]
      simp [nonzero, isFailure]
  | stopped setup cleanup fd dest request read rest stop outcome nonzero quietSetup quietCleanup
      queue halts passes fails =>
      subst queue
      have noisy : ¬ Quiet (read.map (.recvfrom fd) ++ .recvfrom fd stop :: cleanup) := by
        intro quiet
        have last := quiet (.recvfrom fd stop) (by simp)
        simp [isExchangeCall] at last
      rw [stopsAtFailure_skip _ _ _ (isFailedCall_of_quiet setup quietSetup),
        stopsAtFailure_cons, isFailedCall_sendto,
        stopsAtFailure_reads switch fd stop cleanup outcome quietCleanup unmarked halts fails
          read passes,
        NoErrorBeforeStop, takeWhile_stopped switch read rest stop passes halts]
      simp [nonzero, noisy]

def AddsQuiet {S α : Type} (program : Program (World S) α) : Prop :=
  ∀ w, ∃ cleanup, Quiet cleanup ∧ (program w).2.calls = w.calls ++ cleanup

theorem waitLoop_exchanged {S : Type} (fd : Int) (addr : SockaddrNl → S → S)
    (onEmpty : Program (World S) Int) (switch : UInt8 → Option Int)
    (finish : Int → Program (World S) Int) (setup : List Syscall) (dest : SockaddrNl)
    (request : Request) (sent : SendResult) (results : List Delivery) (w : World S)
    (made : w.calls = setup ++ [.sendto fd dest request sent])
    (queue : w.inbox fd = results) (quietSetup : Quiet setup) (nonzero : sent.ret ≠ 0)
    (emptyFails : ∀ w, isFailure (onEmpty w).1) (emptyQuiet : AddsQuiet onEmpty)
    (finishQuiet : ∀ verdict, AddsQuiet (finish verdict)) :
    Exchanged switch sent results (waitLoop fd addr onEmpty switch finish w).2.calls
      (waitLoop fd addr onEmpty switch finish w).1 := by
  by_cases passes : ∀ d ∈ results, stops switch d = false
  · rw [waitLoop_blocked fd addr onEmpty switch finish results w queue passes]
    simp only [afterReads_calls, made, List.append_assoc, List.singleton_append]
    exact .unanswered setup fd dest request nonzero quietSetup passes
  · simp only [not_forall, Bool.not_eq_false] at passes
    obtain ⟨d, member, halt⟩ := passes
    obtain ⟨read, stop, rest, rfl, halts, passes⟩ :=
      exists_first_stop (stops switch) results ⟨d, member, halt⟩
    rw [waitLoop_stop fd addr onEmpty switch finish stop rest halts read w queue passes]
    have leaves : AddsQuiet
        (if stop.ret = 0 then onEmpty else finish ((switch stop.uInfo.msgType).getD 0)) := by
      split
      · exact emptyQuiet
      · exact finishQuiet _
    obtain ⟨cleanup, quietCleanup, added⟩ := leaves (w.afterReads fd addr (read ++ [stop]) rest)
    have trace : (w.afterReads fd addr (read ++ [stop]) rest).calls ++ cleanup =
        setup ++ .sendto fd dest request sent ::
          (read.map (.recvfrom fd) ++ .recvfrom fd stop :: cleanup) := by
      simp only [afterReads_calls, made, List.map_append, List.map_cons, List.map_nil,
        List.append_assoc, List.cons_append, List.nil_append]
    rw [added, trace]
    apply Exchanged.stopped setup cleanup fd dest request read rest stop _ nonzero quietSetup
      quietCleanup rfl halts passes
    intro zero
    rw [if_pos zero]
    exact emptyFails _

/-- The form that all four operations take once their request is ready. -/
theorem sendto_exchanged {S : Type} (env : Env) (ready : World S) (fd : Int)
    (dest : SockaddrNl) (request : Request) (addr : SockaddrNl → S → S)
    (onReject onEmpty : Program (World S) Int) (switch : UInt8 → Option Int)
    (finish : Int → Program (World S) Int) (sent : SendResult) (results : List Delivery)
    (result : Outcome Int × World S)
    (ran : result =
      (if (env.peer ready.calls fd dest request).1.ret = 0 then onReject
        else waitLoop fd addr onEmpty switch finish) (ready.afterSendto env fd dest request))
    (sentEq : (env.peer ready.calls fd dest request).1 = sent)
    (queue : ready.inbox fd ++ (env.peer ready.calls fd dest request).2 = results)
    (quietSetup : Quiet ready.calls) (rejectQuiet : AddsQuiet onReject)
    (emptyFails : ∀ w, isFailure (onEmpty w).1) (emptyQuiet : AddsQuiet onEmpty)
    (finishQuiet : ∀ verdict, AddsQuiet (finish verdict)) :
    Exchanged switch sent results result.2.calls result.1 := by
  subst ran sentEq queue
  split
  · rename_i zero
    obtain ⟨cleanup, quietCleanup, added⟩ :=
      rejectQuiet (ready.afterSendto env fd dest request)
    rw [added, afterSendto_calls, List.append_assoc, List.singleton_append]
    exact .rejected ready.calls cleanup fd dest request _ zero quietSetup quietCleanup
  · rename_i nonzero
    exact waitLoop_exchanged fd addr onEmpty switch finish ready.calls dest request _ _ _ rfl
      (by simp) quietSetup nonzero emptyFails emptyQuiet finishQuiet

end TlshubEbpf.Netlink
