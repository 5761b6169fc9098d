import TlshubEbpf.Capture.MetricsInvariant

/-! # Durations as intervals of the clock

A duration is measured by two calls, each of which is dropped while monitoring is
off.  Beside the context a run keeps for each timepoint the latest start call that
was made on it, whether or not it took effect, and the last end call that took
effect; it also keeps the latest reading of the clock. -/

set_option autoImplicit false

namespace TlshubEbpf.Capture

open Lib

inductive Measurement where
  | connectionLatency
  | keyNegotiation
  deriving DecidableEq

def ConnectionMetrics.timepoint (cm : ConnectionMetrics) : Measurement → Timepoint
  | .connectionLatency => cm.connectionLatency
  | .keyNegotiation => cm.keyNegotiation

inductive TimepointCall where
  | create
  | start (now : Timespec)
  | finish (now : Timespec)
  | other

def MetricsCall.onTimepoint (ctx : PerfMetricsCtx) (kind : Measurement) (index : Int) :
    MetricsCall → TimepointCall
  | .connectionStart connectionId =>
      if index ≠ -1 ∧ (perfMetricsConnectionStart connectionId ctx).1 = index then .create
      else .other
  | .latencyStart connIndex now =>
      if kind = .connectionLatency ∧ connIndex = index then .start now else .other
  | .latencyEnd connIndex now =>
      if kind = .connectionLatency ∧ connIndex = index then .finish now else .other
  | .keyNegotiationStart connIndex now =>
      if kind = .keyNegotiation ∧ connIndex = index then .start now else .other
  | .keyNegotiationEnd connIndex now =>
      if kind = .keyNegotiation ∧ connIndex = index then .finish now else .other
  | .recordDataTransfer _ _ _ _ _ => .other
  | .connectionEnd _ _ => .other
  | .setEnabled _ => .other
  | .calculateStats => .other

def MetricsCall.readings : MetricsCall → List Timespec
  | .connectionStart _ => []
  | .latencyStart _ now => [now]
  | .latencyEnd _ now => [now]
  | .keyNegotiationStart _ now => [now]
  | .keyNegotiationEnd _ now => [now]
  | .recordDataTransfer _ _ _ first last => [first, last]
  | .connectionEnd _ _ => []
  | .setEnabled _ => []
  | .calculateStats => []

structure StartCall where
  time : Timespec
  tookEffect : Bool

/-- An end call that took effect, with the latest start call before it. -/
structure Span where
  started : Timespec
  ended : Timespec

structure Timing where
  lastStart : Option StartCall
  lastEnd : Option Span

def Timing.none : Timing := ⟨.none, .none⟩

def Timing.after (tracked : Bool) (timing : Timing) : TimepointCall → Timing
  | .create => Timing.none
  | .start now => { timing with lastStart := some ⟨now, tracked⟩ }
  | .finish now =>
      if tracked then
        { timing with lastEnd := timing.lastStart.map fun start => ⟨start.time, now⟩ }
      else
        timing
  | .other => timing

structure TimedRun where
  ctx : PerfMetricsCtx
  timing : Measurement → Int → Timing
  clock : Timespec

def TimedRun.start (maxConnections : UInt32) (init : Timespec) : TimedRun :=
  ⟨perfMetricsInit maxConnections, fun _ _ => Timing.none, init⟩

def TimedRun.step (run : TimedRun) (call : MetricsCall) : Option TimedRun :=
  some
    { ctx := call.perform run.ctx
      timing := fun kind index =>
        (run.timing kind index).after (decide (run.ctx.Tracks index))
          (call.onTimepoint run.ctx kind index)
      clock := call.readings.getLastD run.clock }

def ClockAdvances (run : TimedRun) (call : MetricsCall) : Prop :=
  ((run.clock :: call.readings).map Timespec.ns).Pairwise (· ≤ ·)

instance (run : TimedRun) (call : MetricsCall) : Decidable (ClockAdvances run call) :=
  inferInstanceAs (Decidable (List.Pairwise _ _))

def EndFollowsStart (run : TimedRun) : MetricsCall → Prop
  | .latencyEnd connIndex _ =>
      (run.timing .connectionLatency connIndex).lastStart.isSome = true
  | .keyNegotiationEnd connIndex _ =>
      (run.timing .keyNegotiation connIndex).lastStart.isSome = true
  | _ => True

/-- The latest start call before an end call that takes effect took effect too, less
than 2^64 nanoseconds ago. -/
def Timing.Fits (timing : Timing) (now : Timespec) : Prop :=
  ∃ start, timing.lastStart = some start ∧ start.tookEffect = true ∧
    now.ns - start.time.ns < 2 ^ 64

instance (timing : Timing) (now : Timespec) : Decidable (timing.Fits now) :=
  inferInstanceAs (Decidable (∃ start ∈ timing.lastStart, _))

def EndFits (run : TimedRun) : MetricsCall → Prop
  | .latencyEnd connIndex now =>
      run.ctx.Tracks connIndex → (run.timing .connectionLatency connIndex).Fits now
  | .keyNegotiationEnd connIndex now =>
      run.ctx.Tracks connIndex → (run.timing .keyNegotiation connIndex).Fits now
  | _ => True

instance (run : TimedRun) (call : MetricsCall) : Decidable (EndFits run call) :=
  match call with
  | .latencyEnd .. => inferInstanceAs (Decidable (_ → Timing.Fits _ _))
  | .keyNegotiationEnd .. => inferInstanceAs (Decidable (_ → Timing.Fits _ _))
  | .connectionStart .. | .latencyStart .. | .keyNegotiationStart ..
  | .recordDataTransfer .. | .connectionEnd .. | .setEnabled .. | .calculateStats => isTrue trivial

/-- A duration is the time from the latest start call to the last end call, and not
longer than the time since `init`. -/
structure RealInterval (init clock : Timespec) (tp : Timepoint) (timing : Timing) : Prop where
  span : tp.durationNs ≠ 0 → ∃ span, timing.lastEnd = some span ∧
    (tp.durationNs.toNat : Int) = span.ended.ns - span.started.ns
  elapsed : (tp.durationNs.toNat : Int) ≤ clock.ns - init.ns

def DurationsReal (init : Timespec) (run : TimedRun) : Prop :=
  ∀ kind index, RealInterval init run.clock ((run.ctx.connMetrics index).timepoint kind)
    (run.timing kind index)

def Timepoint.after (tracked : Bool) (tp : Timepoint) : TimepointCall → Timepoint
  | .create => Timepoint.zeroed
  | .start now => if tracked then perfTimepointStart now tp else tp
  | .finish now => if tracked then perfTimepointEnd now tp else tp
  | .other => tp

/-- The invariant of a timepoint: what is stored as its start is the latest start
call, if this one took effect. -/
structure Watched (init clock : Timespec) (tp : Timepoint) (timing : Timing) : Prop where
  begun : ∀ start, timing.lastStart = some start →
    init.ns ≤ start.time.ns ∧ start.time.ns ≤ clock.ns ∧
      (start.tookEffect = true → tp.start = start.time)
  interval : RealInterval init clock tp timing

section Timepoint
variable (init clock next : Timespec) (tp : Timepoint) (timing : Timing)

theorem watched_zeroed (begun : init.ns ≤ clock.ns) :
    Watched init clock Timepoint.zeroed Timing.none where
  begun := fun _ started => nomatch started
  interval :=
    { span := fun positive => absurd rfl positive
      elapsed := Int.sub_nonneg.mpr begun }

variable (advances : clock.ns ≤ next.ns) (watched : Watched init clock tp timing)
include advances watched

theorem Watched.later : Watched init next tp timing where
  begun := fun start started => by
    obtain ⟨after, before, same⟩ := watched.begun start started
    exact ⟨after, before.trans advances, same⟩
  interval :=
    { span := watched.interval.span
      elapsed := watched.interval.elapsed.trans (Int.sub_le_sub_right advances _) }

theorem Watched.start (tracked : Bool) (begun : init.ns ≤ clock.ns) :
    Watched init next (tp.after tracked (.start next)) (timing.after tracked (.start next)) where
  begun := fun start started => by
    cases Option.some.inj started
    refine ⟨begun.trans advances, Int.le_refl _, ?_⟩
    intro tookEffect
    cases tookEffect
    rfl
  interval := by
    have kept := (watched.later init clock next tp timing advances).interval
    cases tracked with
    | true => exact ⟨kept.span, kept.elapsed⟩
    | false => exact ⟨kept.span, kept.elapsed⟩

theorem Watched.finish (tracked : Bool) (fits : tracked = true → timing.Fits next) :
    Watched init next (tp.after tracked (.finish next)) (timing.after tracked (.finish next)) := by
  have later := watched.later init clock next tp timing advances
  cases tracked with
  | false => exact later
  | true =>
      obtain ⟨start, started, tookEffect, short⟩ := fits rfl
      obtain ⟨after, before, same⟩ := watched.begun start started
      have stored := same tookEffect
      have duration : ((perfTimeDiffNs tp.start next).toNat : Int) =
          next.ns - start.time.ns := by
        rw [perfTimeDiffNs_toNat, stored]
        omega
      refine ⟨later.begun, ?_, ?_⟩
      · intro _
        refine ⟨⟨start.time, next⟩, ?_, duration⟩
        show timing.lastStart.map _ = _
        rw [started]
        rfl
      · show ((perfTimeDiffNs tp.start next).toNat : Int) ≤ _
        rw [duration]
        omega

end Timepoint

theorem onRecord_timepoint (change : ConnectionMetrics → ConnectionMetrics)
    (measured : Measurement) (call : TimepointCall)
    (untracked : ∀ tp : Timepoint, tp.after false call = tp)
    (changes : ∀ cm kind, (change cm).timepoint kind =
      if kind = measured then (cm.timepoint kind).after true call else cm.timepoint kind)
    (connIndex index : Int) (ctx : PerfMetricsCtx) (kind : Measurement) :
    ((onRecord change connIndex ctx).connMetrics index).timepoint kind =
      ((ctx.connMetrics index).timepoint kind).after (decide (ctx.Tracks index))
        (if kind = measured ∧ connIndex = index then call else .other) := by
  rw [onRecord_connMetrics]
  by_cases same : connIndex = index
  · subst same
    by_cases tracked : ctx.Tracks connIndex
    · rw [if_pos ⟨rfl, tracked⟩, changes, decide_eq_true tracked]
      by_cases here : kind = measured
      · rw [if_pos here, if_pos ⟨here, rfl⟩]
      · rw [if_neg here, if_neg fun both => here both.1]
        rfl
    · rw [if_neg fun both => tracked both.2, decide_eq_false tracked]
      split
      · exact (untracked _).symm
      · rfl
  · rw [if_neg fun both => same both.1, if_neg fun both => same both.2]
    rfl

theorem recordTransfer_timepoint (bytesSent bytesReceived : UInt64) (first last : Timespec)
    (cm : ConnectionMetrics) (kind : Measurement) :
    (recordTransfer bytesSent bytesReceived first last cm).timepoint kind =
      cm.timepoint kind := by
  unfold recordTransfer
  by_cases fresh : cm.bytesSent = 0 ∧ cm.bytesReceived = 0
  · rw [if_pos fresh]
    cases kind <;> dsimp only <;> split <;> rfl
  · rw [if_neg fresh]
    cases kind <;> dsimp only <;> split <;> rfl

theorem perform_timepoint (call : MetricsCall) (ctx : PerfMetricsCtx) (kind : Measurement)
    (index : Int) :
    ((call.perform ctx).connMetrics index).timepoint kind =
      ((ctx.connMetrics index).timepoint kind).after (decide (ctx.Tracks index))
        (call.onTimepoint ctx kind index) := by
  cases call with
  | connectionStart connectionId =>
      rw [MetricsCall.perform, perfMetricsConnectionStart_connMetrics, MetricsCall.onTimepoint]
      split
      · cases kind <;> rfl
      · rfl
  | latencyStart connIndex now =>
      exact onRecord_timepoint _ .connectionLatency (.start now) (fun _ => rfl)
        (fun cm kind => by cases kind <;> rfl) connIndex index ctx kind
  | latencyEnd connIndex now =>
      exact onRecord_timepoint _ .connectionLatency (.finish now) (fun _ => rfl)
        (fun cm kind => by cases kind <;> rfl) connIndex index ctx kind
  | keyNegotiationStart connIndex now =>
      exact onRecord_timepoint _ .keyNegotiation (.start now) (fun _ => rfl)
        (fun cm kind => by cases kind <;> rfl) connIndex index ctx kind
  | keyNegotiationEnd connIndex now =>
      exact onRecord_timepoint _ .keyNegotiation (.finish now) (fun _ => rfl)
        (fun cm kind => by cases kind <;> rfl) connIndex index ctx kind
  | recordDataTransfer connIndex bytesSent bytesReceived first last =>
      have changed := onRecord_timepoint (recordTransfer bytesSent bytesReceived first last)
        kind .other (fun _ => rfl)
        (fun cm kind => by rw [recordTransfer_timepoint]; split <;> rfl) connIndex index ctx kind
      rw [ite_self] at changed
      exact changed
  | connectionEnd connIndex success =>
      rw [MetricsCall.perform, perfMetricsConnectionEnd_connMetrics]
      rfl
  | setEnabled enabled => rfl
  | calculateStats => rfl

theorem of_ite_other {condition : Prop} [Decidable condition] {call answer : TimepointCall}
    (same : (if condition then call else .other) = answer) (some : answer ≠ .other) :
    condition ∧ call = answer := by
  split at same
  · exact ⟨‹condition›, same⟩
  · exact absurd same.symm some

theorem reading_of_onTimepoint (call : MetricsCall) (ctx : PerfMetricsCtx) (kind : Measurement)
    (index : Int) (clock now : Timespec)
    (measures : call.onTimepoint ctx kind index = .start now ∨
      call.onTimepoint ctx kind index = .finish now) :
    call.readings.getLastD clock = now := by
  have called : ∀ {condition : Prop} [Decidable condition] {what : TimepointCall},
      ((if condition then what else .other) = .start now ∨
        (if condition then what else .other) = .finish now) →
      what = .start now ∨ what = .finish now := by
    intro condition _ what either
    rcases either with same | same
    · exact Or.inl (of_ite_other same nofun).2
    · exact Or.inr (of_ite_other same nofun).2
  cases call with
  | connectionStart connectionId => rcases called measures with same | same <;> cases same
  | latencyStart connIndex time => rcases called measures with same | same <;> cases same; rfl
  | latencyEnd connIndex time => rcases called measures with same | same <;> cases same; rfl
  | keyNegotiationStart connIndex time =>
      rcases called measures with same | same <;> cases same; rfl
  | keyNegotiationEnd connIndex time =>
      rcases called measures with same | same <;> cases same; rfl
  | recordDataTransfer => rcases measures with same | same <;> cases same
  | connectionEnd => rcases measures with same | same <;> cases same
  | setEnabled => rcases measures with same | same <;> cases same
  | calculateStats => rcases measures with same | same <;> cases same

theorem fits_of_onTimepoint (run : TimedRun) (call : MetricsCall) (kind : Measurement)
    (index : Int) (now : Timespec) (fits : EndFits run call)
    (finishes : call.onTimepoint run.ctx kind index = .finish now)
    (tracked : run.ctx.Tracks index) : (run.timing kind index).Fits now := by
  cases call with
  | connectionStart connectionId => cases (of_ite_other finishes nofun).2
  | latencyStart connIndex time => cases (of_ite_other finishes nofun).2
  | latencyEnd connIndex time =>
      obtain ⟨⟨rfl, rfl⟩, same⟩ := of_ite_other finishes nofun
      cases same
      exact fits tracked
  | keyNegotiationStart connIndex time => cases (of_ite_other finishes nofun).2
  | keyNegotiationEnd connIndex time =>
      obtain ⟨⟨rfl, rfl⟩, same⟩ := of_ite_other finishes nofun
      cases same
      exact fits tracked
  | recordDataTransfer => cases finishes
  | connectionEnd => cases finishes
  | setEnabled => cases finishes
  | calculateStats => cases finishes

theorem clock_le_last (run : TimedRun) (call : MetricsCall) (advances : ClockAdvances run call) :
    run.clock.ns ≤ (call.readings.getLastD run.clock).ns := by
  unfold ClockAdvances at advances
  rw [List.map_cons, List.pairwise_cons] at advances
  by_cases none : call.readings = []
  · rw [none]
    exact Int.le_refl _
  · have last : call.readings.getLastD run.clock ∈ call.readings := by
      rw [List.getLastD_eq_getLast?, List.getLast?_eq_some_getLast none]
      exact List.getLast_mem none
    exact advances.1 _ (List.mem_map_of_mem last)

/-! ## All calls -/

structure TimedRun.Inv (init : Timespec) (run : TimedRun) : Prop where
  begun : init.ns ≤ run.clock.ns
  watched : ∀ kind index, Watched init run.clock
    ((run.ctx.connMetrics index).timepoint kind) (run.timing kind index)

theorem timedRun_start_inv (maxConnections : UInt32) (init : Timespec) :
    (TimedRun.start maxConnections init).Inv init where
  begun := Int.le_refl _
  watched := fun kind _ => by
    cases kind <;> exact watched_zeroed init init (Int.le_refl _)

theorem TimedRun.Inv.step (init : Timespec) (run next : TimedRun) (call : MetricsCall)
    (inv : run.Inv init) (advances : ClockAdvances run call) (fits : EndFits run call)
    (taken : run.step call = some next) : next.Inv init := by
  cases Option.some.inj taken
  have later := clock_le_last run call advances
  refine ⟨inv.begun.trans later, ?_⟩
  intro kind index
  have watched := inv.watched kind index
  dsimp only
  rw [perform_timepoint]
  cases onTimepoint : call.onTimepoint run.ctx kind index with
  | create => exact watched_zeroed init _ (inv.begun.trans later)
  | start now =>
      have reading := reading_of_onTimepoint call run.ctx kind index run.clock now (.inl onTimepoint)
      rw [reading] at later ⊢
      exact watched.start init run.clock now _ _ later _ inv.begun
  | finish now =>
      have reading := reading_of_onTimepoint call run.ctx kind index run.clock now (.inr onTimepoint)
      rw [reading] at later ⊢
      refine watched.finish init run.clock now _ _ later _ fun tracked => ?_
      exact fits_of_onTimepoint run call kind index now fits onTimepoint (of_decide_eq_true tracked)
  | other => exact watched.later init run.clock _ _ _ later

/-- Where every end call that takes effect comes after a start call that did, the
durations are real intervals in every state of the run. -/
theorem durations_real (maxConnections : UInt32) (init : Timespec) (calls : List MetricsCall)
    (advances : ∀ t ∈ transitions TimedRun.step (TimedRun.start maxConnections init) calls,
      ClockAdvances t.before t.event)
    (fits : ∀ t ∈ transitions TimedRun.step (TimedRun.start maxConnections init) calls,
      EndFits t.before t.event) :
    ∀ t ∈ transitions TimedRun.step (TimedRun.start maxConnections init) calls,
      DurationsReal init t.after := by
  have kept := transitions_inv TimedRun.step (TimedRun.Inv init)
    (fun run call => ClockAdvances run call ∧ EndFits run call)
    (fun run call next inv both taken => inv.step init run next call both.1 both.2 taken)
    (TimedRun.start maxConnections init) (timedRun_start_inv maxConnections init) calls
    (fun t member => ⟨advances t member, fits t member⟩)
  intro t member kind index
  exact ((kept t member).2.watched kind index).interval

/-- Two connections are measured at once, and monitoring is off for a while between their
calls, when an end call is dropped. -/
def measuredSecond : List MetricsCall :=
  [.connectionStart 1, .connectionStart 2, .latencyStart 0 ⟨5, 0⟩, .latencyStart 1 ⟨5, 500⟩,
    .setEnabled 0, .latencyEnd 1 ⟨5, 900⟩, .setEnabled 1, .latencyEnd 0 ⟨6, 0⟩,
    .keyNegotiationStart 0 ⟨6, 0⟩, .latencyEnd 1 ⟨6, 700⟩, .keyNegotiationEnd 0 ⟨6, 900⟩]

theorem measuredSecond_real :
    ∃ t ∈ transitions TimedRun.step (TimedRun.start 2 ⟨3, 0⟩) measuredSecond,
      (t.after.ctx.connMetrics 0).connectionLatency.durationNs = 1000000000 ∧
        (t.after.ctx.connMetrics 0).keyNegotiation.durationNs = 900 ∧
        (t.after.ctx.connMetrics 1).connectionLatency.durationNs = 1000000200 ∧
        DurationsReal ⟨3, 0⟩ t.after := by
  have last : ∃ t, (transitions TimedRun.step (TimedRun.start 2 ⟨3, 0⟩) measuredSecond).getLast? =
      some t ∧ (t.after.ctx.connMetrics 0).connectionLatency.durationNs = 1000000000 ∧
        (t.after.ctx.connMetrics 0).keyNegotiation.durationNs = 900 ∧
        (t.after.ctx.connMetrics 1).connectionLatency.durationNs = 1000000200 :=
    ⟨_, rfl, rfl, rfl, rfl⟩
  obtain ⟨t, getLast, latency, negotiation, latency'⟩ := last
  have member := List.mem_of_getLast? getLast
  exact ⟨t, member, latency, negotiation, latency',
    durations_real 2 ⟨3, 0⟩ measuredSecond (by decide) (by decide) t member⟩

def toggledSecond : List MetricsCall :=
  [.connectionStart 1, .setEnabled 0, .latencyStart 0 ⟨5, 0⟩, .setEnabled 1,
    .latencyEnd 0 ⟨6, 0⟩]

/-- The duration is then six seconds, three seconds after `perf_metrics_init`. -/
theorem toggledSecond_unreal :
    (∀ t ∈ transitions TimedRun.step (TimedRun.start 1 ⟨3, 0⟩) toggledSecond,
        ClockAdvances t.before t.event ∧ EndFollowsStart t.before t.event) ∧
      ¬ ∀ t ∈ transitions TimedRun.step (TimedRun.start 1 ⟨3, 0⟩) toggledSecond,
        DurationsReal ⟨3, 0⟩ t.after := by
  constructor
  · intro t member
    simp only [toggledSecond, transitions, TimedRun.step, List.mem_cons, List.not_mem_nil,
      or_false] at member
    rcases member with rfl | rfl | rfl | rfl | rfl
    · exact ⟨by decide, trivial⟩
    · exact ⟨by decide, trivial⟩
    · exact ⟨by decide, trivial⟩
    · exact ⟨by decide, trivial⟩
    · exact ⟨by decide, rfl⟩
  · intro real
    have last := real _ (List.mem_of_getLast? (by rfl :
      (transitions TimedRun.step (TimedRun.start 1 ⟨3, 0⟩) toggledSecond).getLast? = some _))
    have elapsed := (last .connectionLatency 0).elapsed
    exact absurd elapsed (by decide)

end TlshubEbpf.Capture
