import TlshubEbpf.Capture.EventReport
import TlshubEbpf.Capture.MetricsInvariant

/-! # The records of the events

An event that finds a slot leaves one record, `eventRecord`, in the slot that is next;
an event that finds none leaves the context as it was.  Record `i` is therefore that
of event `i`, whatever comes later. -/

set_option autoImplicit false

namespace TlshubEbpf.Capture

open Lib Bpf

/-- What the clock shows while an event is handled, in nanoseconds; the latency of a
connection without a key is not measured to its end. -/
def HandledEvent.readings (handled : HandledEvent) : List Int :=
  [handled.clock.latencyStart.ns, handled.clock.keyStart.ns, handled.clock.keyEnd.ns] ++
    if handled.obtained then [handled.clock.latencyEnd.ns] else []

structure EventTimed (handled : HandledEvent) (cm : ConnectionMetrics) : Prop where
  id : cm.connectionId = handled.event.timestamp
  negotiation : (cm.keyNegotiation.durationNs.toNat : Int) =
    handled.clock.keyEnd.ns - handled.clock.keyStart.ns
  latency : handled.obtained = true → (cm.connectionLatency.durationNs.toNat : Int) =
    handled.clock.latencyEnd.ns - handled.clock.latencyStart.ns
  nested : handled.obtained = true →
    cm.keyNegotiation.durationNs ≤ cm.connectionLatency.durationNs
  unmeasured : handled.obtained = false → cm.connectionLatency.durationNs = 0

structure EventsTimed (maxConnections : UInt32) (events : List HandledEvent) : Prop where
  tracked : (report maxConnections events).currentConnections.toNat =
    min events.length maxConnections.toNat
  timed : ∀ i handled, i < maxConnections.toNat → events[i]? = some handled →
    EventTimed handled ((report maxConnections events).connMetrics i)
  kept : ∀ before after, events = before ++ after → ∀ i : Nat,
    i < (report maxConnections before).currentConnections.toNat →
      (report maxConnections events).connMetrics i =
        (report maxConnections before).connMetrics i
  refused : ∀ before handled after, events = before ++ handled :: after →
    maxConnections.toNat ≤ before.length →
      report maxConnections (before ++ [handled]) = report maxConnections before

def eventRecord (handled : HandledEvent) : ConnectionMetrics :=
  let clock := handled.clock
  { ConnectionMetrics.zeroed with
    connectionId := handled.event.timestamp
    connectionLatency :=
      if handled.ret < 0 then ⟨clock.latencyStart, zeroTime, 0⟩
      else
        ⟨clock.latencyStart, clock.latencyEnd,
          perfTimeDiffNs clock.latencyStart clock.latencyEnd⟩
    keyNegotiation :=
      ⟨clock.keyStart, clock.keyEnd, perfTimeDiffNs clock.keyStart clock.keyEnd⟩ }

/-- While an event is handled: its record, and the records of the others. -/
structure Handling (index : Int) (others : Int → ConnectionMetrics) (cm : ConnectionMetrics)
    (ctx : PerfMetricsCtx) : Prop where
  tracks : ctx.Tracks index
  started : 0 ≤ index
  records : ctx.connMetrics = Function.update others index cm

section Handling
variable {index : Int} {others : Int → ConnectionMetrics} {cm : ConnectionMetrics}
  {ctx : PerfMetricsCtx}

theorem Handling.onRecord (handling : Handling index others cm ctx)
    (change : ConnectionMetrics → ConnectionMetrics) :
    Handling index others (change cm) (ifStarted index (onRecord change) ctx) := by
  rw [ifStarted, if_pos handling.started, Capture.onRecord, if_pos handling.tracks]
  refine ⟨handling.tracks, handling.started, ?_⟩
  show Function.update ctx.connMetrics index (change (ctx.connMetrics index)) = _
  rw [handling.records, Function.update_self, Function.update_idem]

theorem Handling.connectionEnd (handling : Handling index others cm ctx) (success : Int) :
    (ifStarted index (fun connIndex => perfMetricsConnectionEnd connIndex success)
      ctx).connMetrics = Function.update others index cm := by
  rw [ifStarted, if_pos handling.started, perfMetricsConnectionEnd_connMetrics, handling.records]

end Handling

section Event
variable (handled : HandledEvent) (ctx : PerfMetricsCtx)

theorem connectionStart_handling (enabled : ctx.monitoringEnabled ≠ 0)
    (room : ctx.currentConnections.toNat < ctx.maxConnections.toNat)
    (fits : ctx.maxConnections.toNat < 2 ^ 31) (connectionId : UInt64) :
    (perfMetricsConnectionStart connectionId ctx).1 = ctx.currentConnections.toNat ∧
      Handling ctx.currentConnections.toNat ctx.connMetrics
        { ConnectionMetrics.zeroed with connectionId := connectionId }
        (perfMetricsConnectionStart connectionId ctx).2 := by
  have index := intOfU32_small ctx.currentConnections (by omega)
  have next := u32_succ ctx.currentConnections (by omega)
  have nonneg : (0 : Int) ≤ ctx.currentConnections.toNat := Int.natCast_nonneg _
  rcases perfMetricsConnectionStart_cases connectionId ctx with full | ⟨-, -, started⟩
  · have accepted : perfMetricsConnectionStart connectionId ctx ≠ (-1, ctx) := by
      intro refused
      have counted := (perfMetricsConnectionStart_counters connectionId ctx).1
      rw [ctx.counters.connectionStart_room enabled room, refused] at counted
      simp only [PerfMetricsCtx.counters] at counted
      omega
    exact absurd full accepted
  · rw [started, index]
    refine ⟨rfl, ?_, nonneg, rfl⟩
    rw [tracks_iff _ _ (by dsimp only; omega)]
    refine ⟨enabled, nonneg, ?_⟩
    dsimp only
    omega

theorem eventBegins_handling (enabled : ctx.monitoringEnabled ≠ 0)
    (room : ctx.currentConnections.toNat < ctx.maxConnections.toNat)
    (fits : ctx.maxConnections.toNat < 2 ^ 31) (clock : EventClock) (event : TcpConnectEvent) :
    (eventBegins clock event ctx).1 = ctx.currentConnections.toNat ∧
      Handling ctx.currentConnections.toNat ctx.connMetrics
        { ConnectionMetrics.zeroed with
          connectionId := event.timestamp
          connectionLatency := ⟨clock.latencyStart, zeroTime, 0⟩
          keyNegotiation := ⟨clock.keyStart, zeroTime, 0⟩ }
        (eventBegins clock event ctx).2 := by
  obtain ⟨index, fresh⟩ := connectionStart_handling ctx enabled room fits event.timestamp
  have latency := fresh.onRecord fun cm =>
    { cm with connectionLatency := perfTimepointStart clock.latencyStart cm.connectionLatency }
  have negotiation := latency.onRecord fun cm =>
    { cm with keyNegotiation := perfTimepointStart clock.keyStart cm.keyNegotiation }
  unfold eventBegins
  dsimp only
  rw [index]
  exact ⟨rfl, negotiation⟩

theorem eventEnds_records {index : Int} {others : Int → ConnectionMetrics}
    {cm : ConnectionMetrics} (handling : Handling index others cm ctx) (clock : EventClock)
    (ret : Int) :
    (eventEnds clock index ret ctx).connMetrics =
      Function.update others index
        { cm with
          connectionLatency :=
            if ret < 0 then cm.connectionLatency
            else perfTimepointEnd clock.latencyEnd cm.connectionLatency
          keyNegotiation := perfTimepointEnd clock.keyEnd cm.keyNegotiation } := by
  have negotiation := handling.onRecord fun cm =>
    { cm with keyNegotiation := perfTimepointEnd clock.keyEnd cm.keyNegotiation }
  have latency := negotiation.onRecord fun cm =>
    { cm with connectionLatency := perfTimepointEnd clock.latencyEnd cm.connectionLatency }
  unfold eventEnds
  by_cases failed : ret < 0
  · rw [if_pos failed, if_pos failed]
    exact negotiation.connectionEnd 0
  · rw [if_neg failed, if_neg failed]
    exact latency.connectionEnd 1

theorem account_records (enabled : ctx.monitoringEnabled ≠ 0)
    (room : ctx.currentConnections.toNat < ctx.maxConnections.toNat)
    (fits : ctx.maxConnections.toNat < 2 ^ 31) :
    (handled.account ctx).connMetrics =
      Function.update ctx.connMetrics ctx.currentConnections.toNat (eventRecord handled) := by
  obtain ⟨index, begun⟩ := eventBegins_handling ctx enabled room fits handled.clock handled.event
  have ended := eventEnds_records _ begun handled.clock handled.ret
  unfold HandledEvent.account
  dsimp only
  rw [index, ended, eventRecord]
  rfl

theorem account_refused (full : ctx.maxConnections.toNat ≤ ctx.currentConnections.toNat) :
    handled.account ctx = ctx := by
  have refused : perfMetricsConnectionStart handled.event.timestamp ctx = (-1, ctx) := by
    rcases perfMetricsConnectionStart_cases handled.event.timestamp ctx with full | ⟨-, room, -⟩
    · exact full
    · omega
  have skipped : ∀ (call : Int → PerfMetricsCtx → PerfMetricsCtx) ctx,
      ifStarted (-1) call ctx = ctx := fun _ _ => if_neg (by decide)
  simp only [HandledEvent.account, eventBegins, eventEnds, refused, skipped, ite_self]

theorem eventRecord_timed (advances : handled.readings.Pairwise (· ≤ ·))
    (sinceBoot : handled.clock.latencyStart.SinceBoot ∧ handled.clock.keyStart.SinceBoot ∧
      handled.clock.keyEnd.SinceBoot ∧
      (handled.obtained = true → handled.clock.latencyEnd.SinceBoot)) :
    EventTimed handled (eventRecord handled) := by
  obtain ⟨latencyStart, keyStart, keyEnd, latencyEnd⟩ := sinceBoot
  unfold HandledEvent.readings at advances
  rw [List.pairwise_append] at advances
  obtain ⟨inside, -, outside⟩ := advances
  simp only [List.pairwise_cons, List.mem_cons, List.not_mem_nil, or_false, forall_eq_or_imp,
    forall_eq] at inside
  have negotiation := perfTimeDiffNs_sinceBoot _ _ keyStart keyEnd inside.2.1
  have obtained_iff : handled.obtained = true ↔ ¬ handled.ret < 0 := by
    simp [HandledEvent.obtained]
  have latency : handled.obtained = true →
      ((eventRecord handled).connectionLatency.durationNs.toNat : Int) =
        handled.clock.latencyEnd.ns - handled.clock.latencyStart.ns := by
    intro obtained
    have last := outside handled.clock.latencyStart.ns (by simp) handled.clock.latencyEnd.ns
      (by simp [obtained])
    rw [eventRecord]
    dsimp only
    rw [if_neg (obtained_iff.mp obtained)]
    exact perfTimeDiffNs_sinceBoot _ _ latencyStart (latencyEnd obtained) last
  exact
    { id := rfl
      negotiation := negotiation
      latency := latency
      nested := fun obtained => by
        have last := outside handled.clock.keyEnd.ns (by simp) handled.clock.latencyEnd.ns
          (by simp [obtained])
        have whole := latency obtained
        have part : ((eventRecord handled).keyNegotiation.durationNs.toNat : Int) =
            handled.clock.keyEnd.ns - handled.clock.keyStart.ns := negotiation
        rw [UInt64.le_iff_toNat_le]
        omega
      unmeasured := fun failed => by
        have negative : handled.ret < 0 := by
          by_contra obtained
          rw [obtained_iff.mpr obtained] at failed
          cases failed
        rw [eventRecord]
        dsimp only
        rw [if_pos negative] }

end Event

theorem report_records (maxConnections : UInt32) (fits : maxConnections.toNat < 2 ^ 31)
    (events : List HandledEvent) (i : Nat) (handled : HandledEvent)
    (below : i < maxConnections.toNat) (here : events[i]? = some handled) :
    (report maxConnections events).connMetrics i = eventRecord handled := by
  induction events using List.reverseRecOn with
  | nil => simp at here
  | append_singleton events latest ih =>
      have counted := report_counted maxConnections events
      have current := counted.current
      have limit := counted.limit
      have enabled := counted.enabled
      simp only [PerfMetricsCtx.counters] at current limit enabled
      rw [report_append]
      by_cases full : maxConnections.toNat ≤ events.length
      case pos =>
        have earlier : i < events.length := Nat.lt_of_lt_of_le below full
        rw [account_refused latest _ (by rw [limit, current]; omega)]
        rw [List.getElem?_append_left earlier] at here
        exact ih here
      case neg =>
        have slot : (report maxConnections events).currentConnections.toNat = events.length := by
          omega
        rw [account_records latest _ enabled (by rw [limit]; omega) (by rw [limit]; exact fits),
          slot]
        by_cases last : i = events.length
        · subst last
          rw [List.getElem?_concat_length] at here
          rw [Function.update_self, Option.some.inj here]
        · have bound : i < (events ++ [latest]).length := (List.getElem?_eq_some_iff.mp here).1
          rw [List.length_append, List.length_singleton] at bound
          rw [List.getElem?_append_left (by omega)] at here
          rw [Function.update_of_ne (by omega)]
          exact ih here

/-- For any number of slots that an `int` counts, any events and any outcomes. -/
theorem events_timed (maxConnections : UInt32) (fits : maxConnections.toNat < 2 ^ 31)
    (events : List HandledEvent)
    (advances : (events.flatMap HandledEvent.readings).Pairwise (· ≤ ·))
    (sinceBoot : ∀ handled ∈ events, handled.clock.latencyStart.SinceBoot ∧
      handled.clock.keyStart.SinceBoot ∧ handled.clock.keyEnd.SinceBoot ∧
      (handled.obtained = true → handled.clock.latencyEnd.SinceBoot)) :
    EventsTimed maxConnections events where
  tracked := (report_counted maxConnections events).current
  timed := fun i handled below here => by
    have member := List.mem_of_getElem? here
    rw [report_records maxConnections fits events i handled below here]
    exact eventRecord_timed handled ((List.pairwise_flatMap.mp advances).1 handled member)
      (sinceBoot handled member)
  kept := fun before after split i recorded => by
    have current := (report_counted maxConnections before).current
    simp only [PerfMetricsCtx.counters] at current
    obtain ⟨handled, here⟩ : ∃ handled, before[i]? = some handled :=
      Option.ne_none_iff_exists'.mp fun none => by
        rw [List.getElem?_eq_none_iff] at none
        omega
    have later : events[i]? = some handled := by
      rw [split, List.getElem?_append_left (by omega), here]
    rw [report_records maxConnections fits events i handled (by omega) later,
      report_records maxConnections fits before i handled (by omega) here]
  refused := fun before handled _ _ full => by
    have counted := report_counted maxConnections before
    have current := counted.current
    have limit := counted.limit
    simp only [PerfMetricsCtx.counters] at current limit
    rw [report_append, account_refused]
    rw [limit]
    omega

def eventAt (second ret : Int) : HandledEvent :=
  { event := ⟨0x0100000a, 0x0200000a, 40000, 443, 1, 1⟩
    clock := ⟨⟨second, 0⟩, ⟨second, 5⟩, ⟨second + 1, 0⟩, ⟨second + 1, 5⟩⟩
    ret := ret }

/-- A key, a failure, and an event that finds no slot. -/
theorem threeEvents_timed : EventsTimed 2 [eventAt 1 0, eventAt 3 (-1), eventAt 5 0] :=
  events_timed 2 (by decide) [eventAt 1 0, eventAt 3 (-1), eventAt 5 0] (by decide) (by decide)

end TlshubEbpf.Capture
