import TlshubEbpf.Bench.NumericOptions
import TlshubEbpf.Lib.Settings

/-! # What a list of options configures

An option is accepted or refused whatever stands before it.  Of those that set the same
field the last one counts, and those that set others may stand anywhere between them. -/

set_option autoImplicit false

namespace TlshubEbpf.Bench

open Lib

namespace CommandOption

def setsMode : CommandOption → Option BenchMode
  | .mode optarg => parseMode optarg
  | _ => none

def setsTargetIp : CommandOption → Option (List UInt8)
  | .targetIp optarg => some (untilNul (optarg.take 255))
  | _ => none

def setsTargetPort : CommandOption → Option UInt16
  | .targetPort optarg => parsePort optarg
  | _ => none

def setsListenPort : CommandOption → Option UInt16
  | .listenPort optarg => parsePort optarg
  | _ => none

def setsDataSize : CommandOption → Option DataSize
  | .dataSize optarg => DataSize.ofAtoi (atoi optarg)
  | _ => none

def setsConcurrency : CommandOption → Option Int
  | .concurrency optarg => some (atoi optarg)
  | _ => none

def setsTotalConnections : CommandOption → Option Int
  | .totalConnections optarg => some (atoi optarg)
  | _ => none

def setsVerbose : CommandOption → Option Bool
  | .verbose => some true
  | _ => none

def setsOutputJson : CommandOption → Option (List UInt8)
  | .json optarg => some (untilNul (optarg.take 511))
  | _ => none

def setsOutputCsv : CommandOption → Option (List UInt8)
  | .csv optarg => some (untilNul (optarg.take 511))
  | _ => none

def refusal (option : CommandOption) : Option Exit := refused (applyOption (initConfig 0 0 0) option)

theorem refused_applyOption (config : BenchConfig) (option : CommandOption) :
    refused (applyOption config option) = option.refusal := by
  unfold refusal applyOption
  cases option with
  | mode optarg =>
      dsimp only
      cases parseMode optarg <;> rfl
  | targetPort optarg | listenPort optarg =>
      dsimp only
      cases parsePort optarg <;> rfl
  | dataSize optarg =>
      dsimp only
      cases DataSize.ofAtoi (atoi optarg) <;> rfl
  | concurrency optarg | totalConnections optarg =>
      dsimp only
      split <;> rfl
  | targetIp optarg | json optarg | csv optarg | verbose | help | unknown => rfl

end CommandOption

open CommandOption

structure Configures (start : BenchConfig) (options : List CommandOption) (config : BenchConfig) :
    Prop where
  mode : config.mode = (options.filterMap setsMode).getLastD start.mode
  targetIp : config.targetIp.string =
    (options.filterMap setsTargetIp).getLastD start.targetIp.string
  targetPort : config.targetPort = (options.filterMap setsTargetPort).getLastD start.targetPort
  listenPort : config.listenPort = (options.filterMap setsListenPort).getLastD start.listenPort
  dataSize : config.dataSize = (options.filterMap setsDataSize).getLastD start.dataSize
  concurrency : config.concurrency = (options.filterMap setsConcurrency).getLastD start.concurrency
  totalConnections : config.totalConnections =
    (options.filterMap setsTotalConnections).getLastD start.totalConnections
  verbose : config.verbose = (options.filterMap setsVerbose).getLastD start.verbose
  outputJson : config.outputJson.string =
    (options.filterMap setsOutputJson).getLastD start.outputJson.string
  outputCsv : config.outputCsv.string =
    (options.filterMap setsOutputCsv).getLastD start.outputCsv.string

/-- The bounds that the messages name; those of the data size are part of its type. -/
structure WithinBounds (config : BenchConfig) : Prop where
  targetPort : 1 ≤ config.targetPort
  listenPort : 1 ≤ config.listenPort
  concurrency : 1 ≤ config.concurrency ∧ config.concurrency ≤ 1000
  totalConnections : 1 ≤ config.totalConnections ∧ config.totalConnections ≤ maxConnections

theorem getLastD_set {α : Type} (value : CommandOption → Option α) (option : CommandOption)
    (new old : α) (sets : value option = some new) :
    new = ([option].filterMap value).getLastD old := by
  rw [List.filterMap_cons_some sets]
  rfl

theorem applyOption_configures (config : BenchConfig) (option : CommandOption) (next : BenchConfig)
    (accepted : applyOption config option = .ok next) : Configures config [option] next := by
  cases option with
  | mode optarg =>
      simp only [applyOption] at accepted
      split at accepted
      · cases accepted
      · rename_i parsed
        cases accepted
        exact ⟨getLastD_set setsMode (.mode optarg) _ _ parsed, rfl, rfl, rfl, rfl, rfl, rfl, rfl,
          rfl, rfl⟩
  | targetIp optarg =>
      cases accepted
      exact ⟨rfl, config.targetIp.string_strncpy optarg, rfl, rfl, rfl, rfl, rfl, rfl, rfl, rfl⟩
  | targetPort optarg =>
      simp only [applyOption] at accepted
      split at accepted
      · cases accepted
      · rename_i parsed
        cases accepted
        exact ⟨rfl, rfl, getLastD_set setsTargetPort (.targetPort optarg) _ _ parsed, rfl, rfl, rfl,
          rfl, rfl, rfl, rfl⟩
  | listenPort optarg =>
      simp only [applyOption] at accepted
      split at accepted
      · cases accepted
      · rename_i parsed
        cases accepted
        exact ⟨rfl, rfl, rfl, getLastD_set setsListenPort (.listenPort optarg) _ _ parsed, rfl, rfl,
          rfl, rfl, rfl, rfl⟩
  | dataSize optarg =>
      simp only [applyOption] at accepted
      split at accepted
      · cases accepted
      · rename_i converted
        cases accepted
        exact ⟨rfl, rfl, rfl, rfl, getLastD_set setsDataSize (.dataSize optarg) _ _ converted, rfl,
          rfl, rfl, rfl, rfl⟩
  | concurrency optarg | totalConnections optarg =>
      simp only [applyOption] at accepted
      split at accepted
      · cases accepted
      · cases accepted
        exact ⟨rfl, rfl, rfl, rfl, rfl, rfl, rfl, rfl, rfl, rfl⟩
  | json optarg =>
      cases accepted
      exact ⟨rfl, rfl, rfl, rfl, rfl, rfl, rfl, rfl, config.outputJson.string_strncpy optarg, rfl⟩
  | csv optarg =>
      cases accepted
      exact ⟨rfl, rfl, rfl, rfl, rfl, rfl, rfl, rfl, rfl, config.outputCsv.string_strncpy optarg⟩
  | verbose =>
      cases accepted
      exact ⟨rfl, rfl, rfl, rfl, rfl, rfl, rfl, rfl, rfl, rfl⟩
  | help | unknown => cases accepted

theorem one_le_port (optarg : List UInt8) (port : UInt16) (parsed : parsePort optarg = some port) :
    1 ≤ port :=
  UInt16.le_iff_toNat_le.mpr ((parsePort_eq_some_iff optarg port).mp parsed).2.2.2.1

theorem applyOption_within (config : BenchConfig) (option : CommandOption) (next : BenchConfig)
    (within : WithinBounds config) (accepted : applyOption config option = .ok next) :
    WithinBounds next := by
  obtain ⟨targetPort, listenPort, concurrency, totalConnections⟩ := within
  cases option with
  | targetIp optarg | json optarg | csv optarg | verbose =>
      cases accepted
      exact ⟨targetPort, listenPort, concurrency, totalConnections⟩
  | mode optarg | dataSize optarg =>
      simp only [applyOption] at accepted
      split at accepted <;> cases accepted
      exact ⟨targetPort, listenPort, concurrency, totalConnections⟩
  | targetPort optarg =>
      simp only [applyOption] at accepted
      split at accepted
      · cases accepted
      · rename_i parsed
        cases accepted
        exact ⟨one_le_port optarg _ parsed, listenPort, concurrency, totalConnections⟩
  | listenPort optarg =>
      simp only [applyOption] at accepted
      split at accepted
      · cases accepted
      · rename_i parsed
        cases accepted
        exact ⟨targetPort, one_le_port optarg _ parsed, concurrency, totalConnections⟩
  | concurrency optarg =>
      simp only [applyOption] at accepted
      split at accepted
      · cases accepted
      · rename_i inside
        cases accepted
        exact ⟨targetPort, listenPort, by dsimp only; omega, totalConnections⟩
  | totalConnections optarg =>
      simp only [applyOption] at accepted
      split at accepted
      · cases accepted
      · rename_i inside
        cases accepted
        exact ⟨targetPort, listenPort, concurrency, by dsimp only; omega⟩
  | help | unknown => cases accepted

/-- One field of a list of options. -/
theorem field_parseOptions {α : Type} (field : BenchConfig → α) (value : CommandOption → Option α)
    (sets : ∀ config option next, applyOption config option = .ok next →
      field next = ([option].filterMap value).getLastD (field config))
    (options : List CommandOption) (config final : BenchConfig)
    (accepted : parseOptions config options = .ok final) :
    field final = (options.filterMap value).getLastD (field config) := by
  refine foldlM_field applyOption field value (fun config option next taken => ?_) options config
    final accepted
  rw [sets config option next taken]
  cases setting : value option with
  | none => rw [List.filterMap_cons_none setting]; rfl
  | some new => rw [List.filterMap_cons_some setting]; rfl

theorem parseOptions_configures (options : List CommandOption) (config final : BenchConfig)
    (accepted : parseOptions config options = .ok final) : Configures config options final := by
  have each := applyOption_configures
  constructor
  case mode =>
    exact field_parseOptions _ setsMode (fun _ _ _ taken => (each _ _ _ taken).mode) options config
      final accepted
  case targetIp =>
    exact field_parseOptions (·.targetIp.string) setsTargetIp
      (fun _ _ _ taken => (each _ _ _ taken).targetIp) options config final accepted
  case targetPort =>
    exact field_parseOptions _ setsTargetPort (fun _ _ _ taken => (each _ _ _ taken).targetPort)
      options config final accepted
  case listenPort =>
    exact field_parseOptions _ setsListenPort (fun _ _ _ taken => (each _ _ _ taken).listenPort)
      options config final accepted
  case dataSize =>
    exact field_parseOptions _ setsDataSize (fun _ _ _ taken => (each _ _ _ taken).dataSize) options
      config final accepted
  case concurrency =>
    exact field_parseOptions _ setsConcurrency (fun _ _ _ taken => (each _ _ _ taken).concurrency)
      options config final accepted
  case totalConnections =>
    exact field_parseOptions _ setsTotalConnections
      (fun _ _ _ taken => (each _ _ _ taken).totalConnections) options config final accepted
  case verbose =>
    exact field_parseOptions _ setsVerbose (fun _ _ _ taken => (each _ _ _ taken).verbose) options
      config final accepted
  case outputJson =>
    exact field_parseOptions (·.outputJson.string) setsOutputJson
      (fun _ _ _ taken => (each _ _ _ taken).outputJson) options config final accepted
  case outputCsv =>
    exact field_parseOptions (·.outputCsv.string) setsOutputCsv
      (fun _ _ _ taken => (each _ _ _ taken).outputCsv) options config final accepted

theorem initConfig_within (jsonTime csvTime pid : ℤ) :
    WithinBounds (initConfig jsonTime csvTime pid) :=
  ⟨(by decide : (1 : UInt16) ≤ 8080), (by decide : (1 : UInt16) ≤ 9090),
    (by decide : (1 : Int) ≤ 1 ∧ (1 : Int) ≤ 1000), (by decide : (1 : Int) ≤ 10 ∧ 10 ≤ maxConnections)⟩

theorem parseOptions_within (jsonTime csvTime pid : ℤ) (options : List CommandOption)
    (config : BenchConfig)
    (accepted : parseOptions (initConfig jsonTime csvTime pid) options = .ok config) :
    WithinBounds config :=
  foldlM_kept applyOption WithinBounds applyOption_within options _ config
    (initConfig_within jsonTime csvTime pid) accepted

/-- The first option that is refused on its own decides how `main` ends; if none is, the
configuration has in each field what the last option for it says. -/
theorem parseOptions_spec (jsonTime csvTime pid : ℤ) (options : List CommandOption) :
    refused (parseOptions (initConfig jsonTime csvTime pid) options) =
        options.findSome? CommandOption.refusal ∧
      ∀ config, parseOptions (initConfig jsonTime csvTime pid) options = .ok config →
        Configures (initConfig jsonTime csvTime pid) options config ∧ WithinBounds config :=
  ⟨refused_foldlM applyOption CommandOption.refusal refused_applyOption options _,
    fun config accepted => ⟨parseOptions_configures options _ config accepted,
      parseOptions_within jsonTime csvTime pid options config accepted⟩⟩

theorem repeatedPort_configured :
    ∃ config, parseOptions (initConfig 0 0 1)
        [.targetPort (ascii "7"), .verbose, .targetPort (ascii "80")] = .ok config ∧
      config.targetPort = 80 ∧ config.verbose = true := by
  refine ⟨_, rfl, ?_⟩
  have configures := ((parseOptions_spec 0 0 1
    [.targetPort (ascii "7"), .verbose, .targetPort (ascii "80")]).2 _ rfl).1
  exact ⟨configures.targetPort.trans (by decide), configures.verbose.trans (by decide)⟩

end TlshubEbpf.Bench
