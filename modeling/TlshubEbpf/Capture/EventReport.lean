import Mathlib.Data.List.Induction
import TlshubEbpf.Bpf.Capture
import TlshubEbpf.Capture.PerformanceMetrics
import TlshubEbpf.Capture.TlshubClient

/-! # The report on the events (`handle_tcp_event`)

The events are handled one after the other, so that at most one connection is
active at any time.  The numbers of the report depend on the events by their
outcomes only; `Counters` is the part of the context that holds them. -/

set_option autoImplicit false

namespace TlshubEbpf.Capture

open Lib Bpf

def flowTupleOf (event : TcpConnectEvent) : FlowTuple :=
  { saddr := event.saddr
    daddr := event.daddr
    sport := event.sport
    dport := event.dport }

structure EventClock where
  latencyStart : Timespec
  keyStart : Timespec
  keyEnd : Timespec
  latencyEnd : Timespec

def ifStarted (connIndex : Int) (call : Int → PerfMetricsCtx → PerfMetricsCtx)
    (ctx : PerfMetricsCtx) : PerfMetricsCtx :=
  if connIndex ≥ 0 then call connIndex ctx else ctx

/-- Up to the call of `key_provider_get_key`. -/
def eventBegins (clock : EventClock) (event : TcpConnectEvent) (ctx : PerfMetricsCtx) :
    Int × PerfMetricsCtx :=
  let (connIndex, ctx) := perfMetricsConnectionStart event.timestamp ctx
  let ctx := ifStarted connIndex (perfMetricsConnectionLatencyStart clock.latencyStart) ctx
  let ctx := ifStarted connIndex (perfMetricsKeyNegotiationStart clock.keyStart) ctx
  (connIndex, ctx)

/-- From its return on. -/
def eventEnds (clock : EventClock) (connIndex ret : Int) (ctx : PerfMetricsCtx) :
    PerfMetricsCtx :=
  let ctx := ifStarted connIndex (perfMetricsKeyNegotiationEnd clock.keyEnd) ctx
  if ret < 0 then
    ifStarted connIndex (fun connIndex => perfMetricsConnectionEnd connIndex 0) ctx
  else
    let ctx := ifStarted connIndex (perfMetricsConnectionLatencyEnd clock.latencyEnd) ctx
    ifStarted connIndex (fun connIndex => perfMetricsConnectionEnd connIndex 1) ctx

/-- The key itself goes to a local that nothing reads afterwards. -/
def handleTcpEvent {W : Type} (getKey : FlowTuple → Program W Int) (clock : EventClock)
    (event : TcpConnectEvent) (ctx : PerfMetricsCtx) : Program W PerfMetricsCtx := do
  let tuple := flowTupleOf event
  let (connIndex, ctx) := eventBegins clock event ctx
  let ret ← getKey tuple
  return eventEnds clock connIndex ret ctx

structure HandledEvent where
  event : TcpConnectEvent
  clock : EventClock
  ret : Int

def HandledEvent.account (handled : HandledEvent) (ctx : PerfMetricsCtx) : PerfMetricsCtx :=
  let (connIndex, ctx) := eventBegins handled.clock handled.event ctx
  eventEnds handled.clock connIndex handled.ret ctx

def handleTcpEvents {W : Type} (getKey : FlowTuple → Program W Int) :
    List (TcpConnectEvent × EventClock) → PerfMetricsCtx → Program W PerfMetricsCtx
  | [], ctx => return ctx
  | (event, clock) :: rest, ctx => do
      let ctx ← handleTcpEvent getKey clock event ctx
      handleTcpEvents getKey rest ctx

def report (maxConnections : UInt32) (events : List HandledEvent) : PerfMetricsCtx :=
  events.foldl (fun ctx handled => handled.account ctx) (perfMetricsInit maxConnections)

def HandledEvent.obtained (handled : HandledEvent) : Bool := decide (0 ≤ handled.ret)

section Handling
variable {W : Type} (getKey : FlowTuple → Program W Int)

def KeysReturn : List HandledEvent → W → W → Prop
  | [], w, w' => w' = w
  | handled :: rest, w, w' =>
      ∃ next, getKey (flowTupleOf handled.event) w = (.returned handled.ret, next) ∧
        KeysReturn rest next w'

theorem handleTcpEvent_returned (handled : HandledEvent) (ctx : PerfMetricsCtx) (w w' : W)
    (outcome : getKey (flowTupleOf handled.event) w = (.returned handled.ret, w')) :
    handleTcpEvent getKey handled.clock handled.event ctx w =
      (.returned (handled.account ctx), w') := by
  simp only [handleTcpEvent, Program.bind_apply, outcome]
  rfl

theorem handleTcpEvents_returned (events : List HandledEvent) (ctx : PerfMetricsCtx) (w w' : W)
    (keys : KeysReturn getKey events w w') :
    handleTcpEvents getKey (events.map fun handled => (handled.event, handled.clock)) ctx w =
      (.returned (events.foldl (fun ctx handled => handled.account ctx) ctx), w') := by
  induction events generalizing ctx w with
  | nil =>
      cases keys
      rfl
  | cons handled rest ih =>
      obtain ⟨next, outcome, later⟩ := keys
      simp only [List.map_cons, handleTcpEvents, Program.bind_apply,
        handleTcpEvent_returned getKey handled ctx w next outcome]
      exact ih (handled.account ctx) next later

end Handling

structure Reported (ctx : PerfMetricsCtx) (events : List HandledEvent) : Prop where
  total : ctx.stats.totalConnections.toNat = events.length
  successful : ctx.stats.successfulConnections.toNat = events.countP (·.obtained)
  failed : ctx.stats.failedConnections.toNat = events.countP (!·.obtained)
  active : ctx.systemMetrics.activeConnections = 0

def TrackedWhenRoom (maxConnections : UInt32) (ctx : PerfMetricsCtx)
    (handled : HandledEvent) : Prop :=
  ctx.systemMetrics.activeConnections < maxConnections →
    (handled.account ctx).stats.totalConnections = ctx.stats.totalConnections + 1

def AccountsForEvents (maxConnections : UInt32) (events : List HandledEvent) : Prop :=
  Reported (report maxConnections events) events ∧
    ∀ before handled after, events = before ++ handled :: after →
      TrackedWhenRoom maxConnections (report maxConnections before) handled

structure Counters where
  maxConnections : UInt32
  currentConnections : UInt32
  monitoringEnabled : Int
  total : UInt64
  successful : UInt64
  failed : UInt64
  active : UInt32

def PerfMetricsCtx.counters (ctx : PerfMetricsCtx) : Counters :=
  { maxConnections := ctx.maxConnections
    currentConnections := ctx.currentConnections
    monitoringEnabled := ctx.monitoringEnabled
    total := ctx.stats.totalConnections
    successful := ctx.stats.successfulConnections
    failed := ctx.stats.failedConnections
    active := ctx.systemMetrics.activeConnections }

namespace Counters

def connectionStart (c : Counters) : Int × Counters :=
  if c.monitoringEnabled = 0 ∨ c.currentConnections ≥ c.maxConnections then
    (-1, c)
  else
    (intOfU32 c.currentConnections,
      { c with
        currentConnections := c.currentConnections + 1
        total := c.total + 1
        active := c.active + 1 })

def connectionEnd (connIndex : Int) (obtained : Bool) (c : Counters) : Counters :=
  if c.monitoringEnabled = 0 ∨ connIndex < 0 ∨ connIndex ≥ intOfU32 c.currentConnections then
    c
  else
    { c with
      successful := if obtained then c.successful + 1 else c.successful
      failed := if obtained then c.failed else c.failed + 1
      active := if c.active > 0 then c.active - 1 else c.active }

def account (obtained : Bool) (c : Counters) : Counters :=
  let (connIndex, c) := c.connectionStart
  if connIndex ≥ 0 then c.connectionEnd connIndex obtained else c

end Counters

theorem onRecord_counters (change : ConnectionMetrics → ConnectionMetrics) (connIndex : Int)
    (ctx : PerfMetricsCtx) : (onRecord change connIndex ctx).counters = ctx.counters :=
  onRecord_keeps PerfMetricsCtx.counters (fun _ _ _ => rfl) change connIndex ctx

theorem ifStarted_counters (connIndex : Int) (call : Int → PerfMetricsCtx → PerfMetricsCtx)
    (kept : ∀ ctx, (call connIndex ctx).counters = ctx.counters) (ctx : PerfMetricsCtx) :
    (ifStarted connIndex call ctx).counters = ctx.counters := by
  unfold ifStarted
  split
  · exact kept ctx
  · rfl

theorem perfMetricsConnectionStart_counters (connectionId : UInt64) (ctx : PerfMetricsCtx) :
    (perfMetricsConnectionStart connectionId ctx).1 = ctx.counters.connectionStart.1 ∧
      (perfMetricsConnectionStart connectionId ctx).2.counters =
        ctx.counters.connectionStart.2 := by
  unfold perfMetricsConnectionStart Counters.connectionStart PerfMetricsCtx.counters
  by_cases enabled : ctx.monitoringEnabled = 0
  · simp [enabled]
  · by_cases room : ctx.currentConnections ≥ ctx.maxConnections
    · simp [enabled, room]
    · simp [enabled, room, PerfMetricsCtx.write]

theorem perfMetricsConnectionEnd_counters (connIndex success : Int) (ctx : PerfMetricsCtx) :
    (perfMetricsConnectionEnd connIndex success ctx).counters =
      ctx.counters.connectionEnd connIndex (decide (success ≠ 0)) := by
  unfold perfMetricsConnectionEnd Counters.connectionEnd PerfMetricsCtx.Tracks
    PerfMetricsCtx.counters
  by_cases refused : ctx.monitoringEnabled = 0 ∨ connIndex < 0 ∨
      connIndex ≥ intOfU32 ctx.currentConnections
  · simp only [refused, not_true_eq_false, if_false, if_true]
  · by_cases succeeded : success = 0
    · simp [refused, succeeded]
    · simp [refused, succeeded]

theorem eventBegins_counters (clock : EventClock) (event : TcpConnectEvent)
    (ctx : PerfMetricsCtx) :
    (eventBegins clock event ctx).1 = ctx.counters.connectionStart.1 ∧
      (eventBegins clock event ctx).2.counters = ctx.counters.connectionStart.2 := by
  obtain ⟨index, counters⟩ := perfMetricsConnectionStart_counters event.timestamp ctx
  refine ⟨index, ?_⟩
  rw [← counters]
  exact (ifStarted_counters _ _ (onRecord_counters _ _) _).trans
    (ifStarted_counters _ _ (onRecord_counters _ _) _)

theorem eventEnds_counters (clock : EventClock) (connIndex ret : Int) (ctx : PerfMetricsCtx) :
    (eventEnds clock connIndex ret ctx).counters =
      if connIndex ≥ 0 then ctx.counters.connectionEnd connIndex (decide (0 ≤ ret))
      else ctx.counters := by
  have measured : ∀ now ctx, (ifStarted connIndex (perfMetricsKeyNegotiationEnd now)
      ctx).counters = ctx.counters := fun now =>
    ifStarted_counters connIndex (perfMetricsKeyNegotiationEnd now) (onRecord_counters _ _)
  have timed : ∀ now ctx, (ifStarted connIndex (perfMetricsConnectionLatencyEnd now)
      ctx).counters = ctx.counters := fun now =>
    ifStarted_counters connIndex (perfMetricsConnectionLatencyEnd now) (onRecord_counters _ _)
  have ended : ∀ success ctx, (ifStarted connIndex
      (fun connIndex => perfMetricsConnectionEnd connIndex success) ctx).counters =
        if connIndex ≥ 0 then ctx.counters.connectionEnd connIndex (decide (success ≠ 0))
        else ctx.counters := by
    intro success ctx
    unfold ifStarted
    split
    · exact perfMetricsConnectionEnd_counters connIndex success ctx
    · rfl
  unfold eventEnds
  by_cases failed : ret < 0
  · rw [if_pos failed, ended, measured, decide_eq_false (by omega : ¬ 0 ≤ ret)]
    rfl
  · rw [if_neg failed, ended, timed, measured, decide_eq_true (by omega : 0 ≤ ret)]
    rfl

/-- The numbers of the report depend on the events by their outcomes only. -/
theorem account_counters (handled : HandledEvent) (ctx : PerfMetricsCtx) :
    (handled.account ctx).counters = ctx.counters.account handled.obtained := by
  obtain ⟨index, counters⟩ := eventBegins_counters handled.clock handled.event ctx
  calc (handled.account ctx).counters
      = (eventEnds handled.clock (eventBegins handled.clock handled.event ctx).1 handled.ret
          (eventBegins handled.clock handled.event ctx).2).counters := rfl
    _ = ctx.counters.account handled.obtained := by
      rw [eventEnds_counters, index, counters]
      rfl

theorem report_append (maxConnections : UInt32) (events : List HandledEvent)
    (handled : HandledEvent) :
    report maxConnections (events ++ [handled]) =
      handled.account (report maxConnections events) := by
  unfold report
  rw [List.foldl_append]
  rfl

/-! ## One event -/

namespace Counters
variable (obtained : Bool) (c : Counters)

theorem account_full (full : c.maxConnections.toNat ≤ c.currentConnections.toNat) :
    c.account obtained = c := by
  have refused : c.monitoringEnabled = 0 ∨ c.currentConnections ≥ c.maxConnections :=
    Or.inr (UInt32.le_iff_toNat_le.mpr full)
  rw [account, connectionStart, if_pos refused]
  rfl

variable (enabled : c.monitoringEnabled ≠ 0)
  (room : c.currentConnections.toNat < c.maxConnections.toNat)
include enabled room

theorem connectionStart_room :
    c.connectionStart =
      (intOfU32 c.currentConnections,
        { c with
          currentConnections := c.currentConnections + 1
          total := c.total + 1
          active := c.active + 1 }) := by
  have accepted : ¬ (c.monitoringEnabled = 0 ∨ c.currentConnections ≥ c.maxConnections) := by
    rintro (disabled | full)
    · exact enabled disabled
    · exact Nat.not_le.mpr room (UInt32.le_iff_toNat_le.mp full)
  rw [connectionStart, if_neg accepted]

omit enabled in
theorem next_toNat : (c.currentConnections + 1).toNat = c.currentConnections.toNat + 1 := by
  have bound := c.maxConnections.toNat_lt
  exact u32_succ c.currentConnections (by omega)

/-- The index fits an `int`, and so does the number of slots used afterwards. -/
theorem account_tracked (small : c.currentConnections.toNat + 1 < 2 ^ 31) :
    ∃ active, c.account obtained =
        { c with
          currentConnections := c.currentConnections + 1
          total := c.total + 1
          successful := if obtained then c.successful + 1 else c.successful
          failed := if obtained then c.failed else c.failed + 1
          active := active } ∧
      (c.active = 0 → active = 0) := by
  have next := c.next_toNat room
  have index := intOfU32_small c.currentConnections (by omega)
  have used : intOfU32 (c.currentConnections + 1) = c.currentConnections.toNat + 1 := by
    rw [intOfU32_small _ (by omega), next]
    rfl
  have nonneg : intOfU32 c.currentConnections ≥ 0 := by omega
  have tracked : ¬ (c.monitoringEnabled = 0 ∨ intOfU32 c.currentConnections < 0 ∨
      intOfU32 c.currentConnections ≥ intOfU32 (c.currentConnections + 1)) := by omega
  refine ⟨if c.active + 1 > 0 then c.active + 1 - 1 else c.active + 1, ?_, ?_⟩
  · rw [account, c.connectionStart_room enabled room]
    simp only [if_pos nonneg, connectionEnd, if_neg tracked]
  · intro idle
    rw [idle]
    rfl

/-- The index, or the number of slots, is negative as an `int`. -/
theorem account_untracked (large : 2 ^ 31 ≤ c.currentConnections.toNat + 1) :
    c.account obtained =
      { c with
        currentConnections := c.currentConnections + 1
        total := c.total + 1
        active := c.active + 1 } := by
  have next := c.next_toNat room
  have bound := (c.currentConnections + 1).toNat_lt
  have used : intOfU32 (c.currentConnections + 1) < 0 := by
    rw [intOfU32, if_neg (by omega)]
    omega
  rw [account, c.connectionStart_room enabled room]
  simp only
  split
  · rename_i nonneg
    exact if_pos (Or.inr (Or.inr (Int.le_trans (Int.le_of_lt used) nonneg)))
  · rfl

end Counters

theorem outcome_toNat (obtained : Bool) (successful failed : UInt64)
    (small : successful.toNat + failed.toNat < 2 ^ 31) :
    (if obtained then successful + 1 else successful).toNat =
        successful.toNat + (if obtained then 1 else 0) ∧
      (if obtained then failed else failed + 1).toNat =
        failed.toNat + (if obtained then 0 else 1) := by
  cases obtained with
  | true => exact ⟨u64_succ successful (by omega), rfl⟩
  | false => exact ⟨rfl, u64_succ failed (by omega)⟩

/-- The numbers after `count` events, whatever their outcomes and however many. -/
structure Counted (maxConnections : UInt32) (count : Nat) (c : Counters) : Prop where
  limit : c.maxConnections = maxConnections
  enabled : c.monitoringEnabled ≠ 0
  current : c.currentConnections.toNat = min count maxConnections.toNat
  total : c.total.toNat = c.currentConnections.toNat
  closed : c.successful.toNat + c.failed.toNat ≤ c.currentConnections.toNat
  signed : c.successful.toNat + c.failed.toNat < 2 ^ 31

theorem counted_init (maxConnections : UInt32) :
    Counted maxConnections 0 (perfMetricsInit maxConnections).counters where
  limit := rfl
  enabled := Int.one_ne_zero
  current := (Nat.zero_min _).symm
  total := rfl
  closed := Nat.le_refl 0
  signed := Nat.two_pow_pos 31

theorem counted_slot (maxConnections : UInt32) (count : Nat) (c : Counters)
    (counted : Counted maxConnections count c)
    (room : c.currentConnections.toNat < c.maxConnections.toNat)
    (successful failed : UInt64) (active : UInt32)
    (closed : successful.toNat + failed.toNat ≤ c.currentConnections.toNat + 1)
    (signed : successful.toNat + failed.toNat < 2 ^ 31) :
    Counted maxConnections (count + 1)
      { c with
        currentConnections := c.currentConnections + 1
        total := c.total + 1
        successful := successful
        failed := failed
        active := active } := by
  have bound := maxConnections.toNat_lt
  have current := counted.current
  have total := counted.total
  have next := c.next_toNat room
  have nextTotal := u64_succ c.total (by omega)
  rw [counted.limit] at room
  have nextCurrent : (c.currentConnections + 1).toNat =
      min (count + 1) maxConnections.toNat := by omega
  have nextCounted : (c.total + 1).toNat = (c.currentConnections + 1).toNat := by omega
  exact
    { limit := counted.limit
      enabled := counted.enabled
      current := nextCurrent
      total := nextCounted
      closed := by
        rw [next]
        exact closed
      signed := signed }

theorem counted_account (maxConnections : UInt32) (count : Nat) (c : Counters)
    (obtained : Bool) (counted : Counted maxConnections count c) :
    Counted maxConnections (count + 1) (c.account obtained) := by
  have closed := counted.closed
  by_cases full : c.maxConnections.toNat ≤ c.currentConnections.toNat
  case pos =>
    have current := counted.current
    rw [c.account_full obtained full]
    rw [counted.limit] at full
    exact { counted with current := by omega }
  case neg =>
    have room : c.currentConnections.toNat < c.maxConnections.toNat := Nat.not_le.mp full
    by_cases small : c.currentConnections.toNat + 1 < 2 ^ 31
    case pos =>
      obtain ⟨active, account, -⟩ := c.account_tracked obtained counted.enabled room small
      obtain ⟨successful, failed⟩ := outcome_toNat obtained c.successful c.failed counted.signed
      have closedOnce : (if obtained then c.successful + 1 else c.successful).toNat +
          (if obtained then c.failed else c.failed + 1).toNat =
            c.successful.toNat + c.failed.toNat + 1 := by
        rw [successful, failed]
        split <;> omega
      rw [account]
      apply counted_slot maxConnections count c counted room
      · rw [closedOnce]
        exact Nat.succ_le_succ closed
      · rw [closedOnce]
        exact Nat.lt_of_le_of_lt (Nat.succ_le_succ closed) small
    case neg =>
      -- a slot is taken, but the end of the connection is not recorded
      rw [c.account_untracked obtained counted.enabled room (Nat.not_lt.mp small)]
      exact counted_slot maxConnections count c counted room c.successful c.failed _
        (Nat.le_succ_of_le closed) counted.signed

theorem report_counted (maxConnections : UInt32) (events : List HandledEvent) :
    Counted maxConnections events.length (report maxConnections events).counters := by
  induction events using List.reverseRecOn with
  | nil => exact counted_init maxConnections
  | append_singleton events handled ih =>
      rw [report_append, account_counters, List.length_append]
      exact counted_account maxConnections events.length _ handled.obtained ih

theorem report_exact (maxConnections : UInt32) (events : List HandledEvent)
    (room : events.length ≤ maxConnections.toNat) (small : events.length < 2 ^ 31) :
    Reported (report maxConnections events) events := by
  induction events using List.reverseRecOn with
  | nil => exact ⟨rfl, rfl, rfl, rfl⟩
  | append_singleton events handled ih =>
      rw [List.length_append, List.length_singleton] at room small
      have reported := ih (by omega) (by omega)
      have counted := report_counted maxConnections events
      have current := counted.current
      have limit := counted.limit
      obtain ⟨active, account, idle⟩ :=
        (report maxConnections events).counters.account_tracked handled.obtained
          counted.enabled (by rw [limit]; omega) (by omega)
      rw [← account_counters, ← report_append] at account
      have total := congrArg Counters.total account
      have successful := congrArg Counters.successful account
      have failed := congrArg Counters.failed account
      have numActive := congrArg Counters.active account
      simp only [PerfMetricsCtx.counters] at total successful failed numActive
      obtain ⟨nextSuccessful, nextFailed⟩ := outcome_toNat handled.obtained _ _ counted.signed
      simp only [PerfMetricsCtx.counters] at nextSuccessful nextFailed
      have oldTotal := reported.total
      have oldSuccessful := reported.successful
      have oldFailed := reported.failed
      refine ⟨?_, ?_, ?_, numActive.trans (idle reported.active)⟩
      · rw [total, List.length_append, List.length_singleton, u64_succ _ (by omega), oldTotal]
      · rw [successful, nextSuccessful, oldSuccessful, List.countP_append, List.countP_singleton]
      · rw [failed, nextFailed, oldFailed, List.countP_append, List.countP_singleton]
        cases handled.obtained <;> rfl

theorem report_tracksNext (maxConnections : UInt32) (events : List HandledEvent)
    (handled : HandledEvent) (room : events.length < maxConnections.toNat) :
    (handled.account (report maxConnections events)).stats.totalConnections =
      (report maxConnections events).stats.totalConnections + 1 := by
  have counted := report_counted maxConnections events
  have current := counted.current
  have limit := counted.limit
  have account := account_counters handled (report maxConnections events)
  have free : (report maxConnections events).counters.currentConnections.toNat <
      (report maxConnections events).counters.maxConnections.toNat := by
    rw [limit]
    omega
  by_cases small :
      (report maxConnections events).counters.currentConnections.toNat + 1 < 2 ^ 31
  case pos =>
    obtain ⟨active, tracked, -⟩ := (report maxConnections events).counters.account_tracked
      handled.obtained counted.enabled free small
    exact congrArg Counters.total (account.trans tracked)
  case neg =>
    have untracked := (report maxConnections events).counters.account_untracked
      handled.obtained counted.enabled free (Nat.not_lt.mp small)
    exact congrArg Counters.total (account.trans untracked)

theorem length_le_of_reported (maxConnections : UInt32) (events : List HandledEvent)
    (reported : Reported (report maxConnections events) events) :
    events.length ≤ maxConnections.toNat := by
  have counted := report_counted maxConnections events
  have current := counted.current
  have total := counted.total
  simp only [PerfMetricsCtx.counters] at current total
  rw [reported.total] at total
  omega

/-- The keys obtained and the keys not obtained are counted only as far as the
number of slots used fits an `int`. -/
theorem length_lt_of_reported (maxConnections : UInt32) (events : List HandledEvent)
    (reported : Reported (report maxConnections events) events) : events.length < 2 ^ 31 := by
  have signed := (report_counted maxConnections events).signed
  simp only [PerfMetricsCtx.counters] at signed
  rw [reported.successful, reported.failed] at signed
  have outcomes : events.length =
      events.countP (·.obtained) + events.countP (!·.obtained) := by
    rw [List.length_eq_countP_add_countP (·.obtained)]
    simp only [Bool.not_eq_true, Bool.decide_eq_false]
  omega

theorem accountsForEvents_iff_slots (maxConnections : UInt32) (events : List HandledEvent) :
    AccountsForEvents maxConnections events ↔
      events.length ≤ maxConnections.toNat ∧ events.length < 2 ^ 31 := by
  constructor
  · rintro ⟨reported, -⟩
    exact ⟨length_le_of_reported maxConnections events reported,
      length_lt_of_reported maxConnections events reported⟩
  · rintro ⟨room, small⟩
    refine ⟨report_exact maxConnections events room small, ?_⟩
    intro before handled after split active
    rw [split, List.length_append, List.length_cons] at room
    exact report_tracksNext maxConnections before handled (by omega)

/-- Handling the events leaves the report on them, and it accounts for them if and only
if each gets a slot and the number of slots used fits an `int`. -/
theorem accountsForEvents_iff (maxConnections : UInt32) (events : List HandledEvent) :
    (∀ (W : Type) (getKey : FlowTuple → Program W Int) (w w' : W),
      KeysReturn getKey events w w' →
        handleTcpEvents getKey (events.map fun handled => (handled.event, handled.clock))
          (perfMetricsInit maxConnections) w = (.returned (report maxConnections events), w')) ∧
    (AccountsForEvents maxConnections events ↔
      events.length ≤ maxConnections.toNat ∧ events.length < 2 ^ 31) :=
  ⟨fun _ getKey w w' keys =>
      handleTcpEvents_returned getKey events (perfMetricsInit maxConnections) w w' keys,
    accountsForEvents_iff_slots maxConnections events⟩

def defaultMaxConnections : UInt32 := 1000

def obtainedEvent : HandledEvent :=
  let now : Timespec := ⟨0, 0⟩
  { event := ⟨0x0100000a, 0x0200000a, 40000, 443, 1, 1⟩
    clock := ⟨now, now, now, now⟩
    ret := 0 }

def nextResult (_ : FlowTuple) : Program (List Int) Int :=
  fun results => (.returned (results.headD 0), results.tail)

def refusedEvent : HandledEvent :=
  { event := ⟨0x0300000a, 0x0200000a, 40001, 8443, 2, 1⟩
    clock := ⟨⟨3, 0⟩, ⟨3, 10⟩, ⟨4, 0⟩, ⟨4, 5⟩⟩
    ret := -1 }

theorem obtained_and_refused_accounted :
    let events := [obtainedEvent, refusedEvent, obtainedEvent]
    handleTcpEvents nextResult (events.map fun handled => (handled.event, handled.clock))
        (perfMetricsInit 4) [0, -1, 0] = (.returned (report 4 events), []) ∧
      AccountsForEvents 4 events := by
  intro events
  have accounts := accountsForEvents_iff 4 events
  have keys : KeysReturn nextResult events [0, -1, 0] [] :=
    ⟨[-1, 0], rfl, [0], rfl, [], rfl, rfl⟩
  exact ⟨accounts.1 (List Int) nextResult [0, -1, 0] [] keys,
    accounts.2.mpr ⟨by decide, by decide⟩⟩

/-- After a thousand connections that have all ended, the next one is not counted. -/
theorem thousand_first_event_uncounted :
    (report defaultMaxConnections
        (List.replicate 1000 obtainedEvent)).systemMetrics.activeConnections = 0 ∧
      ¬ AccountsForEvents defaultMaxConnections (List.replicate 1001 obtainedEvent) := by
  constructor
  · have room : (List.replicate 1000 obtainedEvent).length ≤ defaultMaxConnections.toNat := by
      rw [List.length_replicate]
      exact Nat.le_refl 1000
    have small : (List.replicate 1000 obtainedEvent).length < 2 ^ 31 := by
      rw [List.length_replicate]
      decide
    exact (report_exact defaultMaxConnections _ room small).active
  · rintro ⟨reported, -⟩
    have atMost := length_le_of_reported defaultMaxConnections _ reported
    rw [List.length_replicate] at atMost
    exact absurd atMost (Nat.not_succ_le_self 1000)

end TlshubEbpf.Capture
