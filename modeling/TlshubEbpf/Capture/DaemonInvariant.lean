import TlshubEbpf.Capture.Daemon
import TlshubEbpf.Capture.ProviderCleanup
import TlshubEbpf.Capture.SystemUpdates
import TlshubEbpf.Lib.Transitions

/-! # What holds throughout a run of the capture program

The handles that are held are those that the variables point to, the key provider can be
cleaned up, and the context is that of the events handled so far. -/

set_option autoImplicit false

namespace TlshubEbpf.Capture

open Lib Bpf Program

namespace Daemon

def handles (s : Daemon) : List Handle :=
  (if s.pb = .valid then [.perfBuffer] else []) ++
    (((List.range s.linkCount).filterMap s.links).map .link ++
      ((if s.obj = .valid then [.object] else []) ++
        ((if s.perfCtx.isSome then [.connMetrics, .perfCtx] else []) ++
          (if s.podNodeTable.isSome then [.podNodeTable] else []))))

structure Inv (s : Daemon) : Prop where
  holding : Holding s.uses s.handles
  closable : s.provider.Closable
  measured : ∀ ctx ∈ s.perfCtx, ∃ usage,
    ctx = (report defaultMaxConnections s.handled).withUsage usage
  unwritten : s.written = []

structure Quiet (s : Daemon) : Prop where
  running : s.keepRunning = true
  handled : s.handled = []
  updates : s.updates = []
  pb : s.pb ≠ .valid

end Daemon

section Stages
variable (env : DaemonEnv)

theorem start_inv : Daemon.start.Inv where
  holding := holding_start
  closable := closable_of_vacant _ (fun r => (start_vacant r).1) fun r => (start_vacant r).2
  measured := fun ctx none => by cases none
  unwritten := rfl

theorem start_quiet : Daemon.start.Quiet := ⟨rfl, rfl, rfl, BpfPtr.noConfusion⟩

theorem openPodNodeTable_triple (path : CharArray 256)
    (fits : ∀ overrun, initPodNodeMapping env.podMalloc (env.podFile path) ≠ .error overrun) :
    Triple (fun s => s.Inv ∧ s.Quiet ∧ s.linkCount = 0 ∧ s.obj ≠ .valid ∧
        s.perfCtx = none ∧ s.provider = Provider.start ∧ s.podNodeTable = none)
      (openPodNodeTable env path)
      fun _ s => s.Inv ∧ s.Quiet ∧ s.linkCount = 0 ∧ s.obj ≠ .valid ∧
        s.perfCtx = none ∧ s.provider = Provider.start := by
  rintro s ⟨inv, quiet, links, obj, perfCtx, provider, vacant⟩
  have holding := inv.holding
  simp only [Daemon.handles, if_neg quiet.pb, if_neg obj, perfCtx, links, vacant] at holding
  have step : ∀ (uses : List (Use Handle)) (table : Option PodNodeTable),
      Holding uses (if table.isSome then [.podNodeTable] else []) →
        ({ s with uses := uses, podNodeTable := table } : Daemon).Inv := by
    intro uses table held
    refine { inv with holding := ?_ }
    simpa [Daemon.handles, quiet.pb, obj, perfCtx, links] using held
  unfold openPodNodeTable useIf use
  cases outcome : initPodNodeMapping env.podMalloc (env.podFile path) with
  | error overrun => exact absurd outcome (fits overrun)
  | ok table =>
      cases allocated : env.podMalloc with
      | false =>
          rw [allocated] at outcome
          cases outcome
          exact ⟨inv, quiet, links, obj, perfCtx, provider⟩
      | true =>
          cases table with
          | none =>
              refine ⟨step _ s.podNodeTable ?_, { quiet with }, links, obj, perfCtx, provider⟩
              rw [vacant]
              exact (holding.acquire .podNodeTable).release
          | some table =>
              exact ⟨step _ (some table) (holding.acquire .podNodeTable), { quiet with }, links,
                obj, perfCtx, provider⟩

theorem keyProviderInit_triple (mode : KeyProviderMode) :
    Triple (fun s => s.Inv ∧ s.Quiet ∧ s.linkCount = 0 ∧ s.obj ≠ .valid ∧
        s.perfCtx = none ∧ s.provider = Provider.start)
      (onProvider (keyProviderInit env.provider env.sslCtxNew mode))
      fun ret s => (s.Inv ∧ s.Quiet ∧ s.linkCount = 0 ∧ s.obj ≠ .valid ∧ s.perfCtx = none) ∧
        (keyProviderInit env.provider env.sslCtxNew mode Provider.start).1 = .returned ret := by
  refine triple_onPart _ _ _ _ _ ?_
  rintro s ⟨inv, quiet, links, obj, perfCtx, provider⟩
  rw [provider]
  refine triple_conseq _ _ _ _ _
    (keyProviderInit_closable env.provider env.sslCtxNew mode).ran (fun _ same => same) ?_
  rintro ret next ⟨closable, _, rfl, ran⟩
  exact ⟨⟨{ inv with closable := closable }, { quiet with }, links, obj, perfCtx⟩,
    congrArg Prod.fst ran⟩

theorem openPerfCtx_triple :
    Triple (fun s => s.Inv ∧ s.Quiet ∧ s.linkCount = 0 ∧ s.obj ≠ .valid ∧
        s.perfCtx = none)
      (openPerfCtx env)
      fun _ s => s.Inv ∧ s.Quiet ∧ s.perfCtx.isSome = (env.ctxCalloc && env.arrayCalloc) ∧
        s.linkCount = 0 ∧ s.obj ≠ .valid := by
  rintro s ⟨inv, quiet, links, obj, vacant⟩
  have holding := inv.holding
  simp only [Daemon.handles, if_neg quiet.pb, if_neg obj, vacant, links] at holding
  unfold openPerfCtx use
  cases env.ctxCalloc with
  | false => exact ⟨inv, quiet, congrArg Option.isSome vacant, links, obj⟩
  | true =>
      cases env.arrayCalloc with
      | false =>
          refine ⟨{ inv with holding := ?_ }, { quiet with }, congrArg Option.isSome vacant,
            links, obj⟩
          simp only [Daemon.handles, if_neg quiet.pb, if_neg obj, vacant, links]
          exact (holding.acquire .perfCtx).release
      | true =>
          refine ⟨{ inv with holding := ?_, measured := ?_ }, { quiet with }, rfl, links, obj⟩
          · simp only [Daemon.handles, if_neg quiet.pb, if_neg obj, links]
            exact (holding.acquire .perfCtx).acquire .connMetrics
          · intro ctx opened
            cases opened
            have none : (report defaultMaxConnections s.handled) =
                perfMetricsInit defaultMaxConnections := by
              rw [quiet.handled]
              rfl
            exact ⟨(perfMetricsInit defaultMaxConnections).usagePart, by rw [none]; rfl⟩

theorem libbpfReturns_fails (major : ℕ) :
    libbpfReturns major false ≠ .valid ∧ libbpfGetError major (libbpfReturns major false) = true := by
  unfold libbpfReturns
  rw [if_neg Bool.false_ne_true]
  by_cases newer : 1 ≤ major
  · rw [if_pos newer]
    exact ⟨BpfPtr.noConfusion, decide_eq_true newer⟩
  · rw [if_neg newer]
    exact ⟨BpfPtr.noConfusion, rfl⟩

theorem openObject_triple (opened : Bool) (paths : List String) :
    Triple (fun s => s.Inv ∧ s.Quiet ∧ s.perfCtx.isSome = opened ∧ s.linkCount = 0 ∧
        s.obj ≠ .valid)
      (openObject env paths)
      fun _ s => (s.Inv ∧ s.Quiet ∧ s.perfCtx.isSome = opened ∧ s.linkCount = 0) ∧
        (s.obj = .valid ↔ ∃ path ∈ paths, env.opens path = true) := by
  induction paths with
  | nil =>
      rintro s ⟨inv, quiet, perfCtx, links, vacant⟩
      refine ⟨⟨inv, quiet, perfCtx, links⟩, fun valid => absurd valid vacant, ?_⟩
      rintro ⟨path, among, -⟩
      cases among
  | cons path rest ih =>
      rintro s ⟨inv, quiet, perfCtx, links, vacant⟩
      have holding := inv.holding
      simp only [Daemon.handles, if_neg quiet.pb, if_neg vacant, links] at holding
      unfold openObject useIf use
      cases found : env.opens path with
      | true =>
          refine ⟨⟨{ inv with holding := ?_ }, { quiet with }, perfCtx, links⟩,
            fun _ => ⟨path, List.mem_cons_self, found⟩, fun _ => rfl⟩
          simp only [Daemon.handles, if_neg quiet.pb, links]
          exact holding.acquire .object
      | false =>
          have error := (libbpfReturns_fails env.libbpfMajor).2
          have again : (({ s with obj := .null } : Daemon).Inv) := by
            refine { inv with holding := ?_ }
            simpa [Daemon.handles, quiet.pb, links] using holding
          have met := ih { s with obj := .null }
            ⟨again, { quiet with }, perfCtx, links, BpfPtr.noConfusion⟩
          have later : (∃ other ∈ path :: rest, env.opens other = true) ↔
              ∃ other ∈ rest, env.opens other = true := by
            rw [List.exists_mem_cons_iff, or_iff_right (by rw [found]; exact Bool.false_ne_true)]
          simp only [Program.bind_apply, error, Bool.false_eq_true, Bool.true_eq_false, if_false,
            later]
          exact met

def AttachFits (count : ℕ) (programs : List Bool) : Prop :=
  ∀ before attaches after, programs = before ++ attaches :: after → count + before.count true < 10

theorem attachPrograms_triple (opened : Bool) (programs : List Bool) (number count : ℕ)
    (fits : AttachFits count programs) :
    Triple (fun s => s.Inv ∧ s.Quiet ∧ s.perfCtx.isSome = opened ∧ s.linkCount = count)
      (attachPrograms programs number)
      fun _ s => s.Inv ∧ s.Quiet ∧ s.perfCtx.isSome = opened := by
  induction programs generalizing number count with
  | nil => exact fun s holds => ⟨holds.1, holds.2.1, holds.2.2.1⟩
  | cons attaches rest ih =>
      rintro s ⟨inv, quiet, perfCtx, links⟩
      have room : ¬ s.linkCount ≥ 10 := by
        have first := fits [] attaches rest rfl
        rw [List.count_nil] at first
        omega
      have later : AttachFits (if attaches then count + 1 else count) rest := by
        intro before next after split
        have whole := fits (attaches :: before) next after (by rw [split]; rfl)
        cases attaches with
        | true =>
            rw [List.count_cons_self] at whole
            simp only [if_true]
            omega
        | false =>
            rw [List.count_cons_of_ne Bool.false_ne_true] at whole
            simpa using whole
      have unchanged : ∀ value : Option ℕ,
          (List.range s.linkCount).filterMap (Function.update s.links s.linkCount value) =
            (List.range s.linkCount).filterMap s.links := by
        intro value
        refine List.filterMap_congr fun i among => ?_
        exact Function.update_of_ne (Nat.ne_of_lt (List.mem_range.mp among)) _ _
      have holding := inv.holding
      simp only [Daemon.handles, if_neg quiet.pb, List.nil_append] at holding
      unfold attachPrograms useIf use
      cases attaches with
      | true =>
          have next : (({ s with
              uses := s.uses ++ [.acquire (.link number)]
              links := Function.update s.links s.linkCount (some number)
              linkCount := s.linkCount + 1 } : Daemon).Inv) := by
            refine { inv with holding := ?_ }
            have held := holding.insert (.link number)
            simp only [Daemon.handles, if_neg quiet.pb, List.nil_append, List.range_succ,
              List.filterMap_append, unchanged, List.map_append]
            simpa using held
          have met := ih (number + 1) (count + 1) later _
            ⟨next, { quiet with }, perfCtx, congrArg (· + 1) links⟩
          simp only [Program.bind_apply, Program.get_apply, if_neg room, if_true,
            Program.modify_apply]
          exact met
      | false =>
          have next : (({ s with
              links := Function.update s.links s.linkCount none } : Daemon).Inv) := by
            refine { inv with holding := ?_ }
            simp only [Daemon.handles, if_neg quiet.pb, List.nil_append, unchanged]
            exact holding
          have met := ih (number + 1) count later _ ⟨next, { quiet with }, perfCtx, links⟩
          simp only [Program.bind_apply, Program.get_apply, if_neg room, Bool.false_eq_true,
            if_false, Program.modify_apply, Program.pure_apply]
          exact met

/-! ## One event -/

theorem eventKey_triple (sample : Sample) (tuple : FlowTuple) (s : Daemon)
    (closable : s.provider.Closable) :
    Triple (· = s) (eventKey sample tuple) fun ret next =>
      ∃ provider : Provider, provider.Closable ∧
        next = { s with
          provider := provider
          handled := s.handled ++ [⟨sample.event, sample.clock, ret⟩] } := by
  have asked : Triple (· = s) (onProvider
      (providerGetKey sample.env sample.answers (some tuple) (some sample.keyInfo)))
      fun _ next => ∃ provider : Provider, provider.Closable ∧
        next = { s with provider := provider } := by
    refine triple_onPart _ _ _ _ _ ?_
    rintro s rfl
    refine triple_of_returned _ _ _ ?_ ?_
    · exact triple_conseq _ _ _ _ _ (returnsOrWaits_providerGetKey _ _ _ _)
        (fun _ _ => trivial) fun _ _ _ => trivial
    · rintro _ rfl value next ran
      have kept := providerGetKey_closable sample.env sample.answers (some tuple)
        (some sample.keyInfo) s.provider closable
      rw [ran] at kept
      exact ⟨next, kept, rfl⟩
  refine triple_bind _ _ _ _ _ asked ?_
  rintro ⟨ret, info⟩ _ ⟨provider, kept, rfl⟩
  exact ⟨provider, kept, rfl⟩

theorem handleSample_triple (sample : Sample) (s : Daemon) (inv : s.Inv) :
    Triple (· = s) (handleSample sample) fun _ next =>
      next.Inv ∧ next.keepRunning = s.keepRunning ∧
        next.perfCtx.isSome = s.perfCtx.isSome ∧ next.updates = s.updates ∧
          ∃ ret, next.handled = s.handled ++ [⟨sample.event, sample.clock, ret⟩] := by
  rintro s rfl
  have asked := eventKey_triple sample (flowTupleOf sample.event) s inv.closable s rfl
  unfold handleSample
  rw [Program.bind_apply, Program.get_apply]
  cases opened : s.perfCtx with
  | none =>
      refine Meets.bind asked ?_
      rintro ret _ ⟨provider, closable, rfl⟩
      refine ⟨{ inv with closable := closable, measured := ?_ }, rfl,
        congrArg Option.isSome opened, rfl, ret, rfl⟩
      intro ctx here
      rw [opened] at here
      cases here
  | some ctx =>
      have accounted : Meets (fun ctx' next => ∃ ret, ∃ provider : Provider, provider.Closable ∧
          ctx' = HandledEvent.account ⟨sample.event, sample.clock, ret⟩ ctx ∧
            next = { s with
              provider := provider
              handled := s.handled ++ [⟨sample.event, sample.clock, ret⟩] })
          (handleTcpEvent (eventKey sample) sample.clock sample.event ctx s) := by
        refine Meets.bind asked ?_
        rintro ret next ⟨provider, closable, same⟩
        exact ⟨ret, provider, closable, rfl, same⟩
      refine Meets.bind accounted ?_
      rintro _ _ ⟨ret, provider, closable, rfl, rfl⟩
      obtain ⟨usage, measured⟩ := inv.measured ctx opened
      refine ⟨{ inv with holding := ?_, closable := closable, measured := ?_ }, rfl, rfl, rfl,
        ret, rfl⟩
      · have holding := inv.holding
        simp only [Daemon.handles, opened] at holding
        exact holding
      · intro ctx' stored
        obtain rfl := Option.some.inj stored
        refine ⟨usage, ?_⟩
        dsimp only
        rw [report_append, ← account_withUsage, ← measured]

def Shows (samples : List Sample) (handled : List HandledEvent) : Prop :=
  handled.map (fun one => (one.event, one.clock)) =
    samples.map fun sample => (sample.event, sample.clock)

theorem handleSamples_triple (samples : List Sample) (s : Daemon) (inv : s.Inv) :
    Triple (· = s) (handleSamples samples) fun _ next =>
      next.Inv ∧ next.keepRunning = s.keepRunning ∧
        next.perfCtx.isSome = s.perfCtx.isSome ∧ next.updates = s.updates ∧
          ∃ handled, Shows samples handled ∧ next.handled = s.handled ++ handled := by
  induction samples generalizing s with
  | nil =>
      rintro s rfl
      exact ⟨inv, rfl, rfl, rfl, [], rfl, (List.append_nil _).symm⟩
  | cons sample rest ih =>
      refine triple_bind _ _ _ _ _ (handleSample_triple sample s inv) ?_
      rintro _ next ⟨kept, running, opened, updates, ret, handled⟩
      refine (ih next kept next rfl).imp ?_
      rintro _ last ⟨inv, running', opened', updates', more, shows, handled'⟩
      refine ⟨inv, running'.trans running, opened'.trans opened, updates'.trans updates,
        ⟨sample.event, sample.clock, ret⟩ :: more, ?_, ?_⟩
      · exact congrArg ((sample.event, sample.clock) :: ·) shows
      · rw [handled', handled, List.append_assoc, List.singleton_append]

def dueTimes (last : Int) : List Int → List Int
  | [] => []
  | now :: rest =>
      if now - last ≥ perfUpdateIntervalSec then now :: dueTimes now rest else dueTimes last rest

theorem updateSystem_triple (turn : Turn) (lastPerfUpdate : Int) (s : Daemon) (inv : s.Inv) :
    Triple (· = s) (updateSystem turn lastPerfUpdate) fun last next =>
      next.Inv ∧ next.keepRunning = s.keepRunning ∧ next.perfCtx.isSome = s.perfCtx.isSome ∧
        next.handled = s.handled ∧
          ∀ times, (if s.perfCtx.isSome then
              s.updates ++ dueTimes lastPerfUpdate (turn.now :: times) else s.updates) =
            if s.perfCtx.isSome then next.updates ++ dueTimes last times else next.updates := by
  rintro s rfl
  unfold updateSystem
  rw [Program.bind_apply, Program.get_apply]
  cases opened : s.perfCtx with
  | none => exact ⟨inv, rfl, congrArg Option.isSome opened, rfl, fun _ => rfl⟩
  | some ctx =>
      simp only [Option.isSome_some, if_true, dueTimes]
      by_cases due : turn.now - lastPerfUpdate ≥ perfUpdateIntervalSec
      · simp only [if_pos due]
        obtain ⟨usage, measured⟩ := inv.measured ctx opened
        refine ⟨{ inv with holding := ?_, measured := ?_ }, rfl, rfl, rfl, fun times => ?_⟩
        · have holding := inv.holding
          simp only [Daemon.handles, opened] at holding
          exact holding
        · intro ctx' stored
          obtain rfl := Option.some.inj stored
          obtain ⟨usage', updated⟩ : ∃ usage', (perfMetricsUpdateSystem (readCpuStat turn.procStat)
              (readMemoryUsage turn.procStatus) turn.clock ctx).2 = ctx.withUsage usage' :=
            ⟨_, perfMetricsUpdateSystem_withUsage ctx _ _ _⟩
          refine ⟨usage', ?_⟩
          rw [updated, measured, withUsage_withUsage]
        · exact (List.append_assoc _ [turn.now] _).symm
      · simp only [if_neg due]
        exact ⟨inv, rfl, congrArg Option.isSome opened, rfl, fun _ => rfl⟩

/-- The poll of the turn fails, which ends the loop at once. -/
def Turn.Fails (turn : Turn) : Prop := turn.err < 0 ∧ turn.err ≠ -eintr

instance (turn : Turn) : Decidable turn.Fails := inferInstanceAs (Decidable (_ ∧ _))

def Turn.Ends (turn : Turn) : Prop := turn.Fails ∨ turn.signalled = true

instance (turn : Turn) : Decidable turn.Ends := inferInstanceAs (Decidable (_ ∨ _))

def Turn.times (turn : Turn) : List Int := if turn.Fails then [] else [turn.now]

/-- The turns that are taken, and the result of the last poll. -/
def LoopEnds (turns taken : List Turn) (err : Int) : Prop :=
  ∃ before last, EndsAt Turn.Ends turns before last ∧ taken = before ++ [last] ∧ err = last.err

theorem Shows.append {samples samples' : List Sample} {handled handled' : List HandledEvent}
    (shows : Shows samples handled) (shows' : Shows samples' handled') :
    Shows (samples ++ samples') (handled ++ handled') := by
  unfold Shows at *
  rw [List.map_append, List.map_append, shows, shows']

theorem LoopEnds.here (turn : Turn) (rest : List Turn) (ends : turn.Ends) :
    LoopEnds (turn :: rest) [turn] turn.err :=
  ⟨[], turn, EndsAt.here rest ends, rfl, rfl⟩

theorem LoopEnds.later {rest taken : List Turn} {err : Int} (ends : LoopEnds rest taken err)
    (turn : Turn) (goesOn : ¬ turn.Ends) : LoopEnds (turn :: rest) (turn :: taken) err := by
  obtain ⟨before, last, stops, rfl, isErr⟩ := ends
  exact ⟨turn :: before, last, stops.later goesOn, rfl, isErr⟩

theorem pollLoop_stopped (err last : Int) (turns : List Turn) (s : Daemon)
    (stopped : s.keepRunning = false) : pollLoop err last turns s = (.returned err, s) := by
  have notRunning : ¬ s.keepRunning = true := by rw [stopped]; exact Bool.false_ne_true
  cases turns <;>
  · unfold pollLoop
    rw [Program.bind_apply, Program.get_apply]
    exact congrFun (if_neg notRunning) s

theorem pollLoop_running (err last : Int) (turn : Turn) (rest : List Turn) (s : Daemon)
    (running : s.keepRunning = true) :
    pollLoop err last (turn :: rest) s =
      (handleSamples turn.samples >>= fun _ =>
        if turn.Fails then
          pure turn.err
        else
          updateSystem turn last >>= fun last =>
            Program.modify (fun s => { s with keepRunning := s.keepRunning && !turn.signalled })
              >>= fun _ => pollLoop turn.err last rest) s := by
  rw [pollLoop, Program.bind_apply, Program.get_apply]
  exact congrFun (if_pos running) s

structure LoopLeaves (s next : Daemon) (lastPerfUpdate : Int) (taken : List Turn) : Prop where
  inv : next.Inv
  perfCtx : next.perfCtx.isSome = s.perfCtx.isSome
  handled : ∃ handled, Shows (taken.flatMap Turn.samples) handled ∧
    next.handled = s.handled ++ handled
  updates : next.updates =
    if s.perfCtx.isSome then s.updates ++ dueTimes lastPerfUpdate (taken.flatMap Turn.times)
    else s.updates

theorem LoopLeaves.start (s : Daemon) (inv : s.Inv) (last : Int) : LoopLeaves s s last [] where
  inv := inv
  perfCtx := rfl
  handled := ⟨[], rfl, (List.append_nil _).symm⟩
  updates := by rw [List.flatMap_nil, dueTimes, List.append_nil, ite_self]

theorem LoopLeaves.later {s after next : Daemon} {last last' : Int} {taken : List Turn}
    {handled : List HandledEvent} (leaves : LoopLeaves after next last' taken) (turn : Turn)
    (polled : ¬ turn.Fails) (opened : after.perfCtx.isSome = s.perfCtx.isSome)
    (shows : Shows turn.samples handled) (appended : after.handled = s.handled ++ handled)
    (times : ∀ times, (if s.perfCtx.isSome then
        s.updates ++ dueTimes last (turn.now :: times) else s.updates) =
      if s.perfCtx.isSome then after.updates ++ dueTimes last' times else after.updates) :
    LoopLeaves s next last (turn :: taken) := by
  obtain ⟨more, shows', appended'⟩ := leaves.handled
  have time : turn.times = [turn.now] := if_neg polled
  refine ⟨leaves.inv, leaves.perfCtx.trans opened, ⟨handled ++ more, ?_, ?_⟩, ?_⟩
  · rw [List.flatMap_cons]
    exact shows.append shows'
  · rw [appended', appended, List.append_assoc]
  · rw [List.flatMap_cons, time, List.singleton_append, times, leaves.updates]
    simp only [opened]

theorem pollLoop_triple (turns : List Turn) (err last : Int) (s : Daemon) (inv : s.Inv)
    (running : s.keepRunning = true) :
    Triple (· = s) (pollLoop err last turns) fun err next =>
      ∃ taken, LoopEnds turns taken err ∧ LoopLeaves s next last taken := by
  induction turns generalizing s err last with
  | nil =>
      rintro s rfl
      have waits : pollLoop err last [] s = (.blocked, s) := by
        rw [pollLoop, Program.bind_apply, Program.get_apply]
        exact congrFun (if_pos running) s
      rw [waits]
      trivial
  | cons turn rest ih =>
      rintro s rfl
      rw [pollLoop_running err _ turn rest s running]
      refine Meets.bind (handleSamples_triple turn.samples s inv s rfl) ?_
      rintro _ middle ⟨kept, running', opened, updates, handled, shows, appended⟩
      by_cases fails : turn.Fails
      · rw [if_pos fails]
        have only : Shows ([turn].flatMap Turn.samples) handled := by
          rw [List.flatMap_singleton]
          exact shows
        have none : [turn].flatMap Turn.times = [] := by
          rw [List.flatMap_singleton, Turn.times, if_pos fails]
        refine ⟨[turn], .here turn rest (Or.inl fails), kept, opened, ⟨handled, only, appended⟩, ?_⟩
        rw [none, dueTimes, List.append_nil, ite_self]
        exact updates
      · rw [if_neg fails]
        refine Meets.bind (updateSystem_triple turn last middle kept middle rfl) ?_
        rintro last' after ⟨kept', running'', opened', handled', times⟩
        rw [running', running] at running''
        rw [updates, opened] at times
        have opened'' := opened'.trans opened
        have appended' := handled'.trans appended
        rw [Program.bind_apply, Program.modify_apply]
        dsimp only
        cases signal : turn.signalled with
        | true =>
            rw [pollLoop_stopped turn.err _ rest _ (by rw [running'']; rfl)]
            let stopping : Daemon := { after with keepRunning := after.keepRunning && !true }
            have atEnd : LoopLeaves stopping stopping last' [] :=
              LoopLeaves.start stopping { kept' with } last'
            exact ⟨[turn], .here turn rest (Or.inr signal),
              atEnd.later turn fails opened'' shows appended' times⟩
        | false =>
            have goesOn : ¬ turn.Ends := by
              rintro (failed | signalled)
              · exact fails failed
              · rw [signal] at signalled
                cases signalled
            have goes : (after.keepRunning && !false) = true := by rw [running'']; rfl
            have met := ih turn.err last'
              { after with keepRunning := after.keepRunning && !false } { kept' with } goes _ rfl
            refine met.imp ?_
            rintro err next ⟨taken, ends, leaves⟩
            exact ⟨turn :: taken, ends.later turn goesOn,
              leaves.later turn fails opened'' shows appended' times⟩

end Stages

end TlshubEbpf.Capture
