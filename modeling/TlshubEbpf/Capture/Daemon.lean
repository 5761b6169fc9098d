import TlshubEbpf.Capture.EventReport
import TlshubEbpf.Capture.Export
import TlshubEbpf.Capture.LoadConfig
import TlshubEbpf.Capture.ProcFiles
import TlshubEbpf.Capture.ProviderLifecycle
import TlshubEbpf.Lib.Ledger
import TlshubEbpf.Lib.Triple

/-! # The capture program (`main.c`)

`main` acquires what it needs one after the other, handles the events that each poll hands
over until a signal or an error ends the loop, and comes from wherever it stopped to one
cleanup.  What libbpf, the files, the clocks and the allocator answer is in `DaemonEnv` and
in the turns of the loop; a run whose turns are used up is still running. -/

set_option autoImplicit false

namespace TlshubEbpf.Capture

open Lib Bpf

/-- What `main` acquires besides the resources of the key provider. -/
inductive Handle where
  | podNodeTable
  | perfCtx
  | connMetrics
  | object
  | link (program : ℕ)
  | perfBuffer
  deriving DecidableEq, Repr

inductive BpfPtr where
  | null
  | error
  | valid
  deriving DecidableEq, Repr

/-- Whether `libbpf_get_error` is not 0; before version 1 a NULL is no error. -/
def libbpfGetError (major : ℕ) : BpfPtr → Bool
  | .null => 1 ≤ major
  | .error => true
  | .valid => false

def libbpfReturns (major : ℕ) (succeeds : Bool) : BpfPtr :=
  if succeeds then .valid else if 1 ≤ major then .null else .error

structure DaemonEnv where
  configFile : Option (List UInt8)
  priorConfig : CaptureConfig
  podMalloc : Bool
  podFile : CharArray 256 → Option (List UInt8)
  provider : Netlink.Env
  sslCtxNew : Bool
  ctxCalloc : Bool
  arrayCalloc : Bool
  libbpfMajor : ℕ
  opens : String → Bool
  load : Int
  programs : List Bool
  eventsFd : Int
  perfBufferNew : Bool
  signalled : Bool
  startTime : Int
  stopTime : Int
  jsonOpened : Bool
  jsonTime : Int
  csvOpened : Bool

structure Sample where
  event : TcpConnectEvent
  clock : EventClock
  env : Netlink.Env
  answers : SslAnswers
  keyInfo : TlsKeyInfo

structure Turn where
  samples : List Sample
  err : Int
  now : Int
  procStat : Option (List UInt8)
  procStatus : Option (List UInt8)
  clock : Timespec
  signalled : Bool

structure Daemon where
  keepRunning : Bool
  provider : Provider
  podNodeTable : Option PodNodeTable
  perfCtx : Option PerfMetricsCtx
  obj : BpfPtr
  links : ℕ → Option ℕ
  linkCount : ℕ
  pb : BpfPtr
  uses : List (Use Handle)
  handled : List HandledEvent
  updates : List Int
  written : List (List Char × List Char)

def Daemon.start : Daemon :=
  { keepRunning := true
    provider := Provider.start
    podNodeTable := none
    perfCtx := none
    obj := .null
    links := fun _ => none
    linkCount := 0
    pb := .null
    uses := []
    handled := []
    updates := []
    written := [] }

def use (used : Use Handle) : Program Daemon Unit :=
  Program.modify fun s => { s with uses := s.uses ++ [used] }

def useIf (made : Bool) (used : Use Handle) : Program Daemon Unit :=
  if made then use used else pure ()

def onProvider {α : Type} (p : Program Provider α) : Program Daemon α :=
  Program.onPart Daemon.provider (fun s provider => { s with provider }) p

/-- `init_pod_node_mapping`, whose table is freed again if there is no file. -/
def openPodNodeTable (env : DaemonEnv) (path : CharArray 256) : Program Daemon Unit := do
  useIf env.podMalloc (.acquire .podNodeTable)
  match initPodNodeMapping env.podMalloc (env.podFile path) with
  | .error _ => Program.crash
  | .ok none => useIf env.podMalloc (.release .podNodeTable)
  | .ok (some table) => Program.modify fun s => { s with podNodeTable := some table }

/-- `perf_metrics_init`, which frees the context again if there is no array. -/
def openPerfCtx (env : DaemonEnv) : Program Daemon Unit := do
  if env.ctxCalloc then
    use (.acquire .perfCtx)
    if env.arrayCalloc then
      use (.acquire .connMetrics)
      Program.modify fun s => { s with perfCtx := some (perfMetricsInit defaultMaxConnections) }
    else
      use (.release .perfCtx)

def bpfPaths : List String := ["capture.bpf.o", "/usr/local/lib/capture.bpf.o"]

def openObject (env : DaemonEnv) : List String → Program Daemon Unit
  | [] => pure ()
  | path :: rest => do
      let obj := libbpfReturns env.libbpfMajor (env.opens path)
      useIf (env.opens path) (.acquire .object)
      if libbpfGetError env.libbpfMajor obj = false then
        Program.modify fun s => { s with obj }
      else
        Program.modify fun s => { s with obj := .null }
        openObject env rest

/-- The loop over the programs of the object; `links` has ten elements. -/
def attachPrograms : List Bool → ℕ → Program Daemon Unit
  | [], _ => pure ()
  | attaches :: rest, number => do
      let count ← Program.get Daemon.linkCount
      if count ≥ 10 then
        Program.crash
      else
        useIf attaches (.acquire (.link number))
        Program.modify fun s =>
          { s with
            links := Function.update s.links count (if attaches then some number else none)
            linkCount := if attaches then count + 1 else count }
        attachPrograms rest (number + 1)

/-! ## The loop -/

def eventKey (sample : Sample) (tuple : FlowTuple) : Program Daemon Int := do
  let (ret, _) ← onProvider
    (providerGetKey sample.env sample.answers (some tuple) (some sample.keyInfo))
  Program.modify fun s => { s with handled := s.handled ++ [⟨sample.event, sample.clock, ret⟩] }
  return ret

/-- `handle_tcp_event`, which takes no measurements without a context. -/
def handleSample (sample : Sample) : Program Daemon Unit := do
  let perfCtx ← Program.get Daemon.perfCtx
  match perfCtx with
  | none =>
      let _ ← eventKey sample (flowTupleOf sample.event)
      return ()
  | some ctx =>
      let ctx ← handleTcpEvent (eventKey sample) sample.clock sample.event ctx
      Program.modify fun s => { s with perfCtx := some ctx }

def handleSamples : List Sample → Program Daemon Unit
  | [] => pure ()
  | sample :: rest => do
      handleSample sample
      handleSamples rest

def perfUpdateIntervalSec : Int := 5

def updateSystem (turn : Turn) (lastPerfUpdate : Int) : Program Daemon Int := do
  let perfCtx ← Program.get Daemon.perfCtx
  match perfCtx with
  | none => return lastPerfUpdate
  | some ctx =>
      if turn.now - lastPerfUpdate ≥ perfUpdateIntervalSec then
        Program.modify fun s =>
          { s with
            perfCtx := some (perfMetricsUpdateSystem (readCpuStat turn.procStat)
              (readMemoryUsage turn.procStatus) turn.clock ctx).2
            updates := s.updates ++ [turn.now] }
        return turn.now
      else
        return lastPerfUpdate

def eintr : Int := 4

/-- The value of `err` when the loop is left. -/
def pollLoop (err lastPerfUpdate : Int) : List Turn → Program Daemon Int
  | [] => do
      let keepRunning ← Program.get Daemon.keepRunning
      if keepRunning then
        -- a poll that never returns
        fun s => (.blocked, s)
      else
        return err
  | turn :: rest => do
      let keepRunning ← Program.get Daemon.keepRunning
      if keepRunning then
        handleSamples turn.samples
        if turn.err < 0 ∧ turn.err ≠ -eintr then
          return turn.err
        else
          let lastPerfUpdate ← updateSystem turn lastPerfUpdate
          Program.modify fun s => { s with keepRunning := s.keepRunning && !turn.signalled }
          pollLoop turn.err lastPerfUpdate rest
      else
        return err

section Cleanup
variable (doubles : Doubles) (env : DaemonEnv)

def reportMetrics : Program Daemon Unit := do
  let perfCtx ← Program.get Daemon.perfCtx
  match perfCtx with
  | none => return ()
  | some ctx =>
      let ctx := perfMetricsCalculateStats doubles ctx
      let json := perfMetricsExportJson doubles env.jsonOpened env.jsonTime ctx
      let csv := perfMetricsExportCsv doubles env.csvOpened json.ctx
      let jsonFile := json.file.map (fprintf "perf_metrics_%ld.json" [.ld env.stopTime], ·)
      let csvFile := csv.file.map (fprintf "perf_metrics_%ld.csv" [.ld env.stopTime], ·)
      Program.modify fun s =>
        { s with
          perfCtx := some csv.ctx
          written := s.written ++ (jsonFile.toList ++ csvFile.toList) }

/-- `perf_buffer__free`, which does nothing for an error. -/
def freePerfBuffer : Program Daemon Unit := do
  let pb ← Program.get Daemon.pb
  useIf (pb = .valid) (.release .perfBuffer)

def destroyLinks : ℕ → ℕ → Program Daemon Unit
  | _, 0 => pure ()
  | i, left + 1 => do
      let link ← Program.get fun s => s.links i
      match link with
      | some number => use (.release (.link number))
      | none => pure ()
      destroyLinks (i + 1) left

def closeObject : Program Daemon Unit := do
  let obj ← Program.get Daemon.obj
  useIf (obj = .valid) (.release .object)

def closePerfCtx : Program Daemon Unit := do
  let perfCtx ← Program.get Daemon.perfCtx
  match perfCtx with
  | none => return ()
  | some _ =>
      use (.release .connMetrics)
      use (.release .perfCtx)

def freePodNodeTable : Program Daemon Unit := do
  let podNodeTable ← Program.get Daemon.podNodeTable
  match podNodeTable with
  | none => return ()
  | some _ => use (.release .podNodeTable)

def cleanup : Program Daemon Unit := do
  reportMetrics doubles env
  freePerfBuffer
  let linkCount ← Program.get Daemon.linkCount
  destroyLinks 0 linkCount
  closeObject
  onProvider keyProviderCleanup
  closePerfCtx
  freePodNodeTable

/-- From `bpf_object__find_map_fd_by_name` on. -/
def monitor (turns : List Turn) : Program Daemon Int := do
  if env.eventsFd < 0 then
    return -1
  useIf env.perfBufferNew (.acquire .perfBuffer)
  let pb := libbpfReturns env.libbpfMajor env.perfBufferNew
  Program.modify fun s => { s with pb }
  if libbpfGetError env.libbpfMajor pb then
    return -1
  Program.modify fun s => { s with keepRunning := s.keepRunning && !env.signalled }
  pollLoop 0 env.startTime turns

def runDaemon (config : CaptureConfig) (turns : List Turn) : Program Daemon Int := do
  openPodNodeTable env config.podNodeConfigPath
  let err ← onProvider (keyProviderInit env.provider env.sslCtxNew config.mode)
  if err < 0 then
    return err
  openPerfCtx env
  openObject env bpfPaths
  let obj ← Program.get Daemon.obj
  if obj ≠ .valid then
    return -1
  if env.load ≠ 0 then
    return env.load
  attachPrograms env.programs 0
  monitor env turns

def main (turns : List Turn) : Program Daemon Int :=
  match loadConfig env.configFile env.priorConfig with
  | .error _ => Program.crash
  | .ok (err, config) => do
      if err < 0 then
        return 1
      let err ← runDaemon env config turns
      cleanup doubles env
      return if err < 0 then 1 else 0

end Cleanup

end TlshubEbpf.Capture
