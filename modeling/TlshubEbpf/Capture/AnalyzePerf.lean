import Mathlib.Data.List.Sort
import Mathlib.Data.Prod.Lex
import Mathlib.Data.Rat.Defs
import Mathlib.Data.String.Basic
import Mathlib.Order.WithBot
import TlshubEbpf.Lib.Json

/-! # Comparison of the modes (`analyze_perf.py`)

What `compare_modes` prints: a table of the averages and the best mode of each
ranking.  A file is the text that is read from it, unless it cannot be opened; a
`float` is the number it stands for, and `float('inf')` is the top. -/

set_option autoImplicit false

namespace TlshubEbpf.Capture

open Lib

def truthy : Json → Bool
  | .null => false
  | .bool value => value
  | .num value => value ≠ 0
  | .str text => text ≠ ""
  | .arr items => !items.isEmpty
  | .obj members => !members.isEmpty

def loadJsonFile (file : Option (List Char)) : Option Json := file.bind Json.parse

/-- The name given for the file, or one with its number. -/
def modeName (modeNames : List String) (i : ℕ) : String :=
  modeNames.getD i ("模式" ++ toString (i + 1))

/-- `datasets` and `valid_modes`, one list of pairs. -/
def loadModes (files : List (Option (List Char))) (modeNames : List String) :
    List (Json × String) :=
  files.zipIdx.filterMap fun (file, i) =>
    (loadJsonFile file).bind fun data =>
      if truthy data then some (data, modeName modeNames i) else none

/-- What can be printed with `:.3f`; a truth value is a number too. -/
def floatOf : Json → Option ℚ
  | .num value => some value
  | .bool value => some (if value then 1 else 0)
  | _ => none

/-- `data['summary'].get(key, default)`, or `none` if this or its use raises an exception. -/
def summaryGet (key : String) (default : WithTop ℚ) (data : Json) : Option (WithTop ℚ) :=
  match Json.member "summary" data with
  | some (.obj members) =>
      (Json.member key (.obj members)).elim (some default) fun value =>
        (floatOf value).map fun (number : ℚ) => (number : WithTop ℚ)
  | _ => none

def tableRow (key : String) (datasets : List Json) : Option (List (WithTop ℚ)) :=
  datasets.mapM (summaryGet key 0)

abbrev RankingEntry := WithTop ℚ ×ₗ String

def rankingEntries (key : String) (default : WithTop ℚ) (loaded : List (Json × String)) :
    Option (List RankingEntry) :=
  loaded.mapM fun (data, mode) =>
    (summaryGet key default data).map fun value => toLex (value, mode)

def bestLowest (key : String) (loaded : List (Json × String)) : Option RankingEntry := do
  let entries ← rankingEntries key ⊤ loaded
  (entries.insertionSort (· ≤ ·)).head?

/-- The larger, the better: `sort(reverse=True)`. -/
def bestHighest (key : String) (loaded : List (Json × String)) : Option RankingEntry := do
  let entries ← rankingEntries key 0 loaded
  (entries.insertionSort (· ≥ ·)).head?

structure Comparison where
  validModes : List String
  table : List (List (WithTop ℚ))
  bestLatency : RankingEntry
  bestNegotiation : RankingEntry
  bestThroughput : RankingEntry
  bestCpu : RankingEntry

/-- `none` if there is no valid file or an exception is raised before the end. -/
def compareModes (files : List (Option (List Char))) (modeNames : List String) :
    Option Comparison := do
  let loaded := loadModes files modeNames
  let datasets := loaded.map Prod.fst
  let latencies ← tableRow "avg_connection_latency_ms" datasets
  let negotiations ← tableRow "avg_key_negotiation_ms" datasets
  let throughputs ← tableRow "avg_throughput_mbps" datasets
  let cpus ← tableRow "cpu_usage_percent" datasets
  let memories ← tableRow "memory_usage_kb" datasets
  let bestLatency ← bestLowest "avg_connection_latency_ms" loaded
  let bestNegotiation ← bestLowest "avg_key_negotiation_ms" loaded
  let bestThroughput ← bestHighest "avg_throughput_mbps" loaded
  let bestCpu ← bestLowest "cpu_usage_percent" loaded
  some
    { validModes := loaded.map Prod.snd
      table :=
        [latencies, negotiations, throughputs, cpus,
          memories.map fun kb => kb.map fun number => number / 1024]
      bestLatency := bestLatency
      bestNegotiation := bestNegotiation
      bestThroughput := bestThroughput
      bestCpu := bestCpu }

end TlshubEbpf.Capture
