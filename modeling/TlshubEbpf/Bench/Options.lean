import TlshubEbpf.Bench.TcpClient
import TlshubEbpf.Lib.CString
import TlshubEbpf.Lib.Printf

/-! # The options of the benchmark (`main.c`, `bench_common.c`)

An option is what `getopt_long` returns for it, with its argument.  Those that `main`
accepts build up the configuration, and the first that it refuses ends the program. -/

set_option autoImplicit false

namespace TlshubEbpf.Bench

open Lib

def maxConnections : Int := 10000

inductive BenchMode where
  | client
  | server
  deriving DecidableEq, Repr

structure BenchConfig where
  mode : BenchMode
  targetIp : StringArray 256
  targetPort : UInt16
  listenPort : UInt16
  dataSize : DataSize
  concurrency : Int
  totalConnections : Int
  verbose : Bool
  outputJson : StringArray 512
  outputCsv : StringArray 512

/-- The two times are what `time(NULL)` returns in turn. -/
def initConfig (jsonTime csvTime pid : ℤ) : BenchConfig where
  mode := .client
  targetIp := .holding (ascii "127.0.0.1")
  targetPort := 8080
  listenPort := 9090
  dataSize := ⟨1024, by decide, by decide⟩
  concurrency := 1
  totalConnections := 10
  verbose := false
  outputJson := .holding
    ((fprintf "bench_metrics_%ld_%d.json" [.ld jsonTime, .d pid]).map Char.toUInt8)
  outputCsv := .holding
    ((fprintf "bench_metrics_%ld_%d.csv" [.ld csvTime, .d pid]).map Char.toUInt8)

def parseMode (mode : List UInt8) : Option BenchMode :=
  if mode = ascii "client" then some .client
  else if mode = ascii "server" then some .server
  else none

inductive CommandOption where
  | mode (optarg : List UInt8)
  | targetIp (optarg : List UInt8)
  | targetPort (optarg : List UInt8)
  | listenPort (optarg : List UInt8)
  | dataSize (optarg : List UInt8)
  | concurrency (optarg : List UInt8)
  | totalConnections (optarg : List UInt8)
  | json (optarg : List UInt8)
  | csv (optarg : List UInt8)
  | verbose
  | help
  | unknown

inductive Exit where
  | invalid (message : List Char)
  | usage (status : ℕ)

/-- The check of `-p` and `-l`. -/
def parsePort (optarg : List UInt8) : Option UInt16 :=
  let (port, endptr) := strtoul optarg
  if optarg = [] ∨ endptr = optarg ∨ endptr ≠ [] ∨ port = 0 ∨ port > 65535 then
    none
  else
    some port.toUInt16

def applyOption (config : BenchConfig) : CommandOption → Except Exit BenchConfig
  | .mode optarg =>
      match parseMode optarg with
      | none => .error (.invalid (fprintf "Invalid mode: %s\n" [.s (latin1 optarg)]))
      | some mode => .ok { config with mode }
  | .targetIp optarg => .ok { config with targetIp := config.targetIp.strncpy optarg }
  | .targetPort optarg =>
      match parsePort optarg with
      | none =>
          .error (.invalid
            (fprintf "Invalid target port: %s (must be 1-65535)\n" [.s (latin1 optarg)]))
      | some targetPort => .ok { config with targetPort }
  | .listenPort optarg =>
      match parsePort optarg with
      | none =>
          .error (.invalid
            (fprintf "Invalid listen port: %s (must be 1-65535)\n" [.s (latin1 optarg)]))
      | some listenPort => .ok { config with listenPort }
  | .dataSize optarg =>
      match DataSize.ofAtoi (atoi optarg) with
      | none =>
          .error (.invalid
            (fprintf "Invalid data size: %s (must be 1-10485760)\n" [.s (latin1 optarg)]))
      | some dataSize => .ok { config with dataSize }
  | .concurrency optarg =>
      let concurrency := atoi optarg
      if concurrency ≤ 0 ∨ concurrency > 1000 then
        .error (.invalid
          (fprintf "Invalid concurrency: %s (must be 1-1000)\n" [.s (latin1 optarg)]))
      else
        .ok { config with concurrency }
  | .totalConnections optarg =>
      let totalConnections := atoi optarg
      if totalConnections ≤ 0 ∨ totalConnections > maxConnections then
        .error (.invalid
          (fprintf "Invalid total connections: %s (must be 1-%d)\n"
            [.s (latin1 optarg), .d maxConnections]))
      else
        .ok { config with totalConnections }
  | .json optarg => .ok { config with outputJson := config.outputJson.strncpy optarg }
  | .csv optarg => .ok { config with outputCsv := config.outputCsv.strncpy optarg }
  | .verbose => .ok { config with verbose := true }
  | .help => .error (.usage 0)
  | .unknown => .error (.usage 1)

def parseOptions (config : BenchConfig) (options : List CommandOption) :
    Except Exit BenchConfig :=
  options.foldlM applyOption config

def CommandOption.target : CommandOption → Option (List UInt8)
  | .targetIp optarg => some optarg
  | _ => none

/-- The target that the options configure, in an array of 256 characters. -/
def configuredTarget (options : List CommandOption) : List UInt8 :=
  untilNul (((options.filterMap CommandOption.target).getLastD (ascii "127.0.0.1")).take 255)

theorem targetIp_applyOption (config config' : BenchConfig) (option : CommandOption)
    (accepted : applyOption config option = .ok config') :
    config'.targetIp = option.target.elim config.targetIp fun optarg =>
      config.targetIp.strncpy optarg := by
  cases option with
  | targetIp optarg | json optarg | csv optarg | verbose =>
      cases accepted
      rfl
  | help | unknown => cases accepted
  | mode optarg | targetPort optarg | listenPort optarg | dataSize optarg =>
      simp only [applyOption] at accepted
      split at accepted <;> cases accepted
      rfl
  | concurrency optarg | totalConnections optarg =>
      simp only [applyOption] at accepted
      split at accepted <;> cases accepted
      rfl

/-- The last `-t` counts, and if there is none, what was configured before. -/
theorem targetIp_parseOptions (config config' : BenchConfig) (options : List CommandOption)
    (accepted : parseOptions config options = .ok config') (target : List UInt8)
    (configured : config.targetIp.string = untilNul (target.take 255)) :
    config'.targetIp.string =
      untilNul (((options.filterMap CommandOption.target).getLastD target).take 255) := by
  induction options generalizing config target with
  | nil =>
      cases accepted
      exact configured
  | cons option rest ih =>
      cases first : applyOption config option with
      | error exit =>
          simp only [parseOptions, List.foldlM_cons, first] at accepted
          cases accepted
      | ok next =>
          simp only [parseOptions, List.foldlM_cons, first] at accepted
          have step := targetIp_applyOption config next option first
          cases argument : option.target with
          | none =>
              rw [argument, Option.elim_none] at step
              rw [List.filterMap_cons_none argument]
              exact ih next accepted target (step ▸ configured)
          | some optarg =>
              rw [argument, Option.elim_some] at step
              rw [List.filterMap_cons_some argument, List.getLastD_cons]
              refine ih next accepted optarg ?_
              rw [step, StringArray.string_strncpy]

end TlshubEbpf.Bench
