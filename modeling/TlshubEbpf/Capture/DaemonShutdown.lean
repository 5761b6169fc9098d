import TlshubEbpf.Capture.DaemonInvariant
import TlshubEbpf.Capture.ExportRoundTrip
import TlshubEbpf.Capture.Statistics

/-! # How the capture program shuts down

Wherever `main` stops, the cleanup releases what it has acquired, each handle once.  The
files that it writes then tell of the events handled, as far as there were slots for them,
and the status is that of the last call that could fail. -/

set_option autoImplicit false

namespace TlshubEbpf.Capture

open Lib Bpf Program

section Run
variable (env : DaemonEnv)

structure DaemonEnv.Fits (env : DaemonEnv) : Prop where
  config : ∀ overrun, loadConfig env.configFile env.priorConfig ≠ .error overrun
  mapping : ∀ err config, loadConfig env.configFile env.priorConfig = .ok (err, config) →
    ∀ overrun, initPodNodeMapping env.podMalloc (env.podFile config.podNodeConfigPath) ≠
      .error overrun
  links : AttachFits 0 env.programs

/-- The loop is ended by a signal or by an error; a signal may be ahead of it. -/
def LoopRuns (turns taken : List Turn) (err : Int) : Prop :=
  if env.signalled then taken = [] ∧ err = 0 else LoopEnds turns taken err

def DaemonEnv.Initialises (ret : Int) : Prop :=
  ∃ config, loadConfig env.configFile env.priorConfig = .ok (0, config) ∧
    (keyProviderInit env.provider env.sslCtxNew config.mode Provider.start).1 = .returned ret

/-- The value of `err` with which a failed call leads to the cleanup ahead of the loop. -/
def DaemonEnv.stop (initialised : Int) : Option Int :=
  if initialised < 0 then some initialised
  else if ∀ path ∈ bpfPaths, env.opens path = false then some (-1)
  else if env.load ≠ 0 then some env.load
  else if env.eventsFd < 0 then some (-1)
  else if env.perfBufferNew = false then some (-1)
  else none

/-- The run comes to the cleanup without a turn of the loop where a call ahead of it fails,
and after the loop otherwise. -/
def RunEnds (turns : List Turn) (initialised : Int) (taken : List Turn) (err : Int) : Prop :=
  env.Initialises initialised ∧
    match env.stop initialised with
    | some failed => taken = [] ∧ err = failed
    | none => LoopRuns env turns taken err

structure RunLeaves (turns : List Turn) (initialised : Int) (taken : List Turn) (err : Int)
    (s : Daemon) : Prop where
  inv : s.Inv
  handled : Shows (taken.flatMap Turn.samples) s.handled
  updates : s.updates =
    if s.perfCtx.isSome then dueTimes env.startTime (taken.flatMap Turn.times) else []
  perfCtx : s.perfCtx.isSome = (decide (0 ≤ initialised) && (env.ctxCalloc && env.arrayCalloc))
  ends : RunEnds env turns initialised taken err

section Stages
variable (turns : List Turn) (initialised : Int) (initialises : env.Initialises initialised)
include initialises

theorem leaves_stopped (err : Int) (stopped : env.stop initialised = some err) (s : Daemon)
    (inv : s.Inv) (quiet : s.Quiet)
    (opened : s.perfCtx.isSome =
      (decide (0 ≤ initialised) && (env.ctxCalloc && env.arrayCalloc))) :
    RunLeaves env turns initialised [] err s where
  inv := inv
  handled := by rw [quiet.handled]; rfl
  updates := by rw [quiet.updates]; exact (ite_self _).symm
  perfCtx := opened
  ends := by
    refine ⟨initialises, ?_⟩
    rw [stopped]
    exact ⟨rfl, rfl⟩

theorem enterLoop_triple (reached : env.stop initialised = none) :
    Triple
      (fun s => s.Inv ∧ s.keepRunning = true ∧ s.handled = [] ∧ s.updates = [] ∧
        s.perfCtx.isSome = (decide (0 ≤ initialised) && (env.ctxCalloc && env.arrayCalloc)))
      (Program.modify (fun s => { s with keepRunning := s.keepRunning && !env.signalled }) >>=
        fun _ => pollLoop 0 env.startTime turns)
      fun err s => ∃ taken, RunLeaves env turns initialised taken err s := by
  rintro s ⟨inv, running, handled, updates, opened⟩
  have runs : ∀ taken err, LoopRuns env turns taken err →
      RunEnds env turns initialised taken err := by
    intro taken err runs
    refine ⟨initialises, ?_⟩
    rw [reached]
    exact runs
  rw [Program.bind_apply, Program.modify_apply]
  dsimp only
  cases signal : env.signalled with
  | true =>
      rw [pollLoop_stopped 0 env.startTime turns _ (Bool.and_false _)]
      refine ⟨[], { inv with }, ?_, ?_, opened, runs _ _ ?_⟩
      · rw [handled]
        rfl
      · rw [updates]
        exact (ite_self _).symm
      · rw [LoopRuns, if_pos signal]
        exact ⟨rfl, rfl⟩
  | false =>
      have goes : (s.keepRunning && !false) = true := by rw [running]; rfl
      have met := pollLoop_triple turns 0 env.startTime
        { s with keepRunning := s.keepRunning && !false } { inv with } goes _ rfl
      refine met.imp ?_
      rintro err next ⟨taken, ends, leaves⟩
      obtain ⟨more, shows, appended⟩ := leaves.handled
      refine ⟨taken, leaves.inv, ?_, ?_, leaves.perfCtx.trans opened, runs _ _ ?_⟩
      · rw [appended, handled]
        exact shows
      · rw [leaves.updates, leaves.perfCtx, updates]
        rfl
      · rw [LoopRuns, if_neg (by rw [signal]; exact Bool.false_ne_true)]
        exact ends

theorem monitor_triple (attached : env.stop initialised =
      if env.eventsFd < 0 then some (-1) else if env.perfBufferNew = false then some (-1)
      else none) :
    Triple (fun s => s.Inv ∧ s.Quiet ∧
        s.perfCtx.isSome = (decide (0 ≤ initialised) && (env.ctxCalloc && env.arrayCalloc)))
      (monitor env turns)
      fun err s => ∃ taken, RunLeaves env turns initialised taken err s := by
  rintro s ⟨inv, quiet, opened⟩
  have holding := inv.holding
  simp only [Daemon.handles, if_neg quiet.pb, List.nil_append] at holding
  unfold monitor
  by_cases missing : env.eventsFd < 0
  · rw [if_pos missing] at attached ⊢
    exact ⟨[], leaves_stopped env turns initialised initialises (-1) attached s inv quiet opened⟩
  rw [if_neg missing] at attached ⊢
  unfold useIf use
  cases created : env.perfBufferNew with
  | false =>
      obtain ⟨invalid, error⟩ := libbpfReturns_fails env.libbpfMajor
      have same : ({ s with pb := libbpfReturns env.libbpfMajor false } : Daemon).Inv := by
        refine { inv with holding := ?_ }
        simp only [Daemon.handles, if_neg invalid, List.nil_append]
        exact holding
      rw [if_pos created] at attached
      simp only [Program.bind_apply, error, Bool.false_eq_true, if_true, if_false]
      exact ⟨[], leaves_stopped env turns initialised initialises (-1) attached _ same
        { quiet with pb := invalid } opened⟩
  | true =>
      have held : ({ s with
          uses := s.uses ++ [.acquire .perfBuffer]
          pb := .valid } : Daemon).Inv := by
        refine { inv with holding := ?_ }
        exact holding.acquire .perfBuffer
      rw [if_neg (by rw [created]; decide)] at attached
      exact enterLoop_triple env turns initialised initialises attached _
        ⟨held, quiet.running, quiet.handled, quiet.updates, opened⟩

end Stages

theorem runDaemon_triple (config : CaptureConfig) (turns : List Turn)
    (loaded : loadConfig env.configFile env.priorConfig = .ok (0, config))
    (mapping : ∀ overrun,
      initPodNodeMapping env.podMalloc (env.podFile config.podNodeConfigPath) ≠ .error overrun)
    (links : AttachFits 0 env.programs) :
    Triple (· = Daemon.start) (runDaemon env config turns)
      fun err s => ∃ initialised taken, RunLeaves env turns initialised taken err s := by
  unfold runDaemon
  refine triple_bind _ _ _ _ _
    (triple_conseq _ _ _ _ _ (openPodNodeTable_triple env config.podNodeConfigPath mapping)
      ?_ fun _ _ holds => holds) fun _ => ?_
  · rintro _ rfl
    exact ⟨start_inv, start_quiet, rfl, BpfPtr.noConfusion, rfl, rfl, rfl⟩
  refine triple_bind _ _ _ _ _ (keyProviderInit_triple env config.mode) fun ret => ?_
  refine triple_of_known _ (env.Initialises ret) _ _
    (fun s holds => ⟨config, loaded, holds.2⟩) fun initialises => ?_
  refine triple_conseq _ (fun s => s.Inv ∧ s.Quiet ∧ s.linkCount = 0 ∧ s.obj ≠ .valid ∧
    s.perfCtx = none) _ _ _ ?_ (fun s holds => holds.1) fun err s leaves => ⟨ret, leaves⟩
  have stopped := leaves_stopped env turns ret initialises
  refine triple_ite _ _ _ _ _ (fun failed s holds => ?_) fun nonneg => ?_
  · obtain ⟨inv, quiet, -, -, vacant⟩ := holds
    refine ⟨[], stopped ret (if_pos failed) s inv quiet ?_⟩
    rw [vacant, decide_eq_false (by omega)]
    rfl
  have opened : (decide (0 ≤ ret) && (env.ctxCalloc && env.arrayCalloc)) =
      (env.ctxCalloc && env.arrayCalloc) := by
    rw [decide_eq_true (by omega), Bool.true_and]
  refine triple_bind _ _ _ _ _ (openPerfCtx_triple env) fun _ => ?_
  refine triple_bind _ _ _ _ _ (openObject_triple env _ bpfPaths) fun _ => ?_
  refine triple_bind _ _ _ _ _ (triple_get _ Daemon.obj) fun obj => ?_
  refine triple_ite _ _ _ _ _ (fun invalid s holds => ?_) fun valid => ?_
  · obtain ⟨⟨⟨inv, quiet, ctx, -⟩, found⟩, rfl⟩ := holds
    have none : ∀ path ∈ bpfPaths, env.opens path = false := fun path among =>
      Bool.eq_false_iff.mpr fun opens => invalid (found.mpr ⟨path, among, opens⟩)
    exact ⟨[], stopped (-1) (by rw [DaemonEnv.stop, if_neg nonneg, if_pos none]) s inv quiet
      (ctx.trans opened.symm)⟩
  refine triple_of_known _ (¬ ∀ path ∈ bpfPaths, env.opens path = false) _ _
    (fun s holds none => ?_) fun found => ?_
  · obtain ⟨path, among, opens⟩ := holds.1.2.mp (holds.2.symm.trans (not_not.mp valid))
    rw [none path among] at opens
    cases opens
  refine triple_ite _ _ _ _ _ (fun failed s holds => ?_) fun loads => ?_
  · obtain ⟨⟨⟨inv, quiet, ctx, -⟩, -⟩, -⟩ := holds
    exact ⟨[], stopped env.load
      (by rw [DaemonEnv.stop, if_neg nonneg, if_neg found, if_pos failed]) s inv quiet
      (ctx.trans opened.symm)⟩
  have attached := monitor_triple env turns ret initialises
    (by rw [DaemonEnv.stop, if_neg nonneg, if_neg found, if_neg loads])
  refine triple_bind _ _ _ _ _ ?_ fun _ => attached
  refine triple_conseq _ _ _ _ _ (attachPrograms_triple _ env.programs 0 0 links)
    (fun s holds => ?_) fun _ s holds => holds
  obtain ⟨⟨⟨inv, quiet, ctx, count⟩, -⟩, -⟩ := holds
  exact ⟨inv, quiet, ctx.trans opened.symm, count⟩

end Run

/-! ## Cleanup -/

def Daemon.releasing (s : Daemon) (handles : List Handle) : Daemon :=
  { s with uses := s.uses ++ handles.map .release }

theorem releasing_releasing (s : Daemon) (first second : List Handle) :
    (s.releasing first).releasing second = s.releasing (first ++ second) := by
  simp only [Daemon.releasing, List.map_append, List.append_assoc]

theorem useIf_release (made : Bool) (handle : Handle) (s : Daemon) :
    useIf made (.release handle) s =
      (.returned (), s.releasing (if made then [handle] else [])) := by
  cases made with
  | true => rfl
  | false =>
      have same : s.releasing [] = s := by simp [Daemon.releasing]
      exact Prod.ext rfl same.symm

theorem freePerfBuffer_apply (s : Daemon) :
    freePerfBuffer s =
      (.returned (), s.releasing (if s.pb = .valid then [.perfBuffer] else [])) := by
  rw [freePerfBuffer, Program.bind_apply, Program.get_apply]
  dsimp only
  rw [useIf_release]
  simp only [decide_eq_true_eq]

theorem closeObject_apply (s : Daemon) :
    closeObject s = (.returned (), s.releasing (if s.obj = .valid then [.object] else [])) := by
  rw [closeObject, Program.bind_apply, Program.get_apply]
  dsimp only
  rw [useIf_release]
  simp only [decide_eq_true_eq]

theorem destroyLinks_apply (i left : ℕ) (s : Daemon) :
    destroyLinks i left s =
      (.returned (), s.releasing (((List.range' i left).filterMap s.links).map .link)) := by
  induction left generalizing i s with
  | zero =>
      have same : s.releasing [] = s := by simp [Daemon.releasing]
      exact Prod.ext rfl same.symm
  | succ left ih =>
      rw [destroyLinks, Program.bind_apply, Program.get_apply, List.range'_succ]
      cases link : s.links i with
      | none =>
          rw [List.filterMap_cons_none link]
          exact ih (i + 1) s
      | some number =>
          rw [List.filterMap_cons_some link]
          have later := ih (i + 1) (s.releasing [.link number])
          rw [releasing_releasing] at later
          exact later

theorem closePerfCtx_apply (s : Daemon) :
    closePerfCtx s =
      (.returned (), s.releasing (if s.perfCtx.isSome then [.connMetrics, .perfCtx] else [])) := by
  rw [closePerfCtx, Program.bind_apply, Program.get_apply]
  cases opened : s.perfCtx with
  | none =>
      have same : s.releasing [] = s := by simp [Daemon.releasing]
      exact Prod.ext rfl same.symm
  | some ctx =>
      show (use _ >>= fun _ => use _) s = _
      simp [Program.bind_apply, use, Daemon.releasing]

theorem freePodNodeTable_apply (s : Daemon) :
    freePodNodeTable s =
      (.returned (), s.releasing (if s.podNodeTable.isSome then [.podNodeTable] else [])) := by
  rw [freePodNodeTable, Program.bind_apply, Program.get_apply]
  cases opened : s.podNodeTable with
  | none =>
      have same : s.releasing [] = s := by simp [Daemon.releasing]
      exact Prod.ext rfl same.symm
  | some table => rfl

section Cleanup
variable (doubles : Doubles) (env : DaemonEnv)

def reportFiles (perfCtx : Option PerfMetricsCtx) : List (List Char × List Char) :=
  match perfCtx with
  | none => []
  | some ctx =>
      let ctx := perfMetricsCalculateStats doubles ctx
      let json := perfMetricsExportJson doubles env.jsonOpened env.jsonTime ctx
      let csv := perfMetricsExportCsv doubles env.csvOpened json.ctx
      (json.file.map (fprintf "perf_metrics_%ld.json" [.ld env.stopTime], ·)).toList ++
        (csv.file.map (fprintf "perf_metrics_%ld.csv" [.ld env.stopTime], ·)).toList

theorem reportMetrics_apply (s : Daemon) :
    ∃ perfCtx, perfCtx.isSome = s.perfCtx.isSome ∧
      reportMetrics doubles env s =
        (.returned (),
          { s with
            perfCtx := perfCtx
            written := s.written ++ reportFiles doubles env s.perfCtx }) := by
  unfold reportMetrics
  rw [Program.bind_apply, Program.get_apply]
  cases opened : s.perfCtx with
  | none =>
      have same : s = { s with
          perfCtx := none
          written := s.written ++ reportFiles doubles env none } := by
        rw [reportFiles, List.append_nil, ← opened]
      exact ⟨none, rfl, Prod.ext rfl same⟩
  | some ctx =>
      let json := perfMetricsExportJson doubles env.jsonOpened env.jsonTime
        (perfMetricsCalculateStats doubles ctx)
      exact ⟨some (perfMetricsExportCsv doubles env.csvOpened json.ctx).ctx, rfl, rfl⟩

theorem cleanup_apply (s : Daemon) :
    ∃ next, cleanup doubles env s = (.returned (), next) ∧
      next.uses = s.uses ++ s.handles.map .release ∧
      next.provider = (keyProviderCleanup s.provider).2 ∧
      next.handled = s.handled ∧ next.updates = s.updates ∧
      next.written = s.written ++ reportFiles doubles env s.perfCtx := by
  obtain ⟨perfCtx, opened, reported⟩ := reportMetrics_apply doubles env s
  have provider : ∀ s : Daemon, onProvider keyProviderCleanup s =
      (.returned (), { s with provider := (keyProviderCleanup s.provider).2 }) := by
    intro s
    exact Prod.ext (keyProviderCleanup_returns s.provider) rfl
  have ran := reported
  unfold cleanup
  simp only [Program.bind_apply, Program.get_apply, reported, freePerfBuffer_apply,
    destroyLinks_apply, closeObject_apply, provider, closePerfCtx_apply, freePodNodeTable_apply]
  refine ⟨_, rfl, ?_, rfl, rfl, rfl, rfl⟩
  simp only [Daemon.releasing, Daemon.handles, List.range_eq_range', opened, List.map_append,
    List.append_assoc]

/-- What the cleanup after a run leaves, which came to it with the state `before`. -/
structure MainLeaves (turns : List Turn) (initialised : Int) (taken : List Turn) (err : Int)
    (before s : Daemon) (status : Int) : Prop where
  run : RunLeaves env turns initialised taken err before
  settled : Settled s.uses
  provider : ∀ r, (s.provider.slot r).opened = []
  status : status = if err < 0 then 1 else 0
  handled : s.handled = before.handled
  updates : s.updates = before.updates
  written : s.written = reportFiles doubles env before.perfCtx

theorem loadConfig_err (file : Option (List UInt8)) (prior config : CaptureConfig) (err : Int)
    (loaded : loadConfig file prior = .ok (err, config)) : err = 0 := by
  unfold loadConfig at loaded
  cases file with
  | none => exact (Prod.mk.inj (Except.ok.inj loaded)).1.symm
  | some content =>
      dsimp only at loaded
      cases folded : (reads 512 content).foldlM readSetting
          ⟨.tlshub, prior.podNodeConfigPath.strncpy defaultPodNodeConfig⟩ with
      | error overrun =>
          rw [folded] at loaded
          cases loaded
      | ok last =>
          rw [folded] at loaded
          exact (Prod.mk.inj (Except.ok.inj loaded)).1.symm

theorem main_leaves (turns : List Turn) (fits : env.Fits) :
    Triple (· = Daemon.start) (main doubles env turns) fun status s =>
      ∃ initialised taken err before,
        MainLeaves doubles env turns initialised taken err before s status := by
  unfold main
  cases loaded : loadConfig env.configFile env.priorConfig with
  | error overrun => exact absurd loaded (fits.config overrun)
  | ok result =>
      obtain ⟨err, config⟩ := result
      have zero := loadConfig_err _ _ config err loaded
      have mapping := fits.mapping err config loaded
      subst zero
      dsimp only
      rw [if_neg (by omega)]
      refine triple_bind _ _ _ _ _ (runDaemon_triple env config turns loaded mapping fits.links) ?_
      rintro err before ⟨initialised, taken, run⟩
      obtain ⟨next, cleaned, uses, provider, handled, updates, written⟩ :=
        cleanup_apply doubles env before
      rw [Program.bind_apply, cleaned]
      have held : Holding before.uses (before.handles ++ []) := by
        rw [List.append_nil]
        exact run.inv.holding
      have released := Holding.releaseAll before.handles held
      refine ⟨initialised, taken, err, before, run, ?_, ?_, rfl, handled, updates, ?_⟩
      · rw [uses]
        exact released.settled
      · rw [provider]
        exact keyProviderCleanup_closes before.provider run.inv.closable
      · rw [written, run.inv.unwritten, List.nil_append]

end Cleanup

end TlshubEbpf.Capture
