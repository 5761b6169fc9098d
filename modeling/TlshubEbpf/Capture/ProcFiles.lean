import TlshubEbpf.Capture.SystemMetrics
import TlshubEbpf.Lib.Scan
import TlshubEbpf.Lib.TextFile

/-! # The files of `/proc` (`performance_metrics.c`)

`read_cpu_stat` takes the first line of `/proc/stat` and `read_memory_usage` the lines of
`/proc/self/status`, both through an array of 256 bytes.  What they read is compared with
what the kernel prints. -/

set_option autoImplicit false

namespace TlshubEbpf.Capture

open Lib

/-- `sscanf(line, "cpu %llu %llu %llu %llu %llu %llu %llu", ...)`, if it returns 7. -/
def scanCpuStat (line : List UInt8) : Option CpuStat := do
  let rest ← line.dropPrefix? (ascii "cpu")
  let (user, rest) ← scanLlu rest
  let (nice, rest) ← scanLlu rest
  let (system, rest) ← scanLlu rest
  let (idle, rest) ← scanLlu rest
  let (iowait, rest) ← scanLlu rest
  let (irq, rest) ← scanLlu rest
  let (softirq, _) ← scanLlu rest
  return ⟨user, nice, system, idle, iowait, irq, softirq⟩

def readCpuStat (file : Option (List UInt8)) : Option CpuStat :=
  match file with
  | none => none
  | some content =>
      let line := (fgets 255 content).1
      if line = [] then none else scanCpuStat (untilNul line)

/-- One turn of the loop: `strncmp` with each name, and `sscanf` behind it, which changes
nothing where there is no number. -/
def readStatusLine (usage : MemoryUsage) (line : List UInt8) : MemoryUsage :=
  match (untilNul line).dropPrefix? (ascii "VmRSS:") with
  | some rest => { usage with rssKb := ((scanLlu rest).map Prod.fst).getD usage.rssKb }
  | none =>
      match (untilNul line).dropPrefix? (ascii "VmSize:") with
      | some rest => { usage with vmsKb := ((scanLlu rest).map Prod.fst).getD usage.vmsKb }
      | none => usage

def readMemoryUsage (file : Option (List UInt8)) : Option MemoryUsage :=
  file.map fun content => (reads 256 content).foldl readStatusLine ⟨0, 0⟩

/-! ## What the kernel prints -/

def CpuStat.values (stat : CpuStat) : List UInt64 :=
  [stat.user, stat.nice, stat.system, stat.idle, stat.iowait, stat.irq, stat.softirq]

def numbersText (values : List UInt64) : List UInt8 :=
  values.flatMap fun value => 32 :: digitsOf value.toNat

/-- The first line, with the times that newer kernels have after these. -/
def cpuLine (stat : CpuStat) (more : List UInt64) : List UInt8 :=
  ascii "cpu " ++ (numbersText stat.values ++ (numbersText more ++ [10]))

def statusLine (name value : List UInt8) : List UInt8 :=
  name ++ (ascii ":\t" ++ (value ++ [10]))

inductive StatusEntry where
  | size (name : List UInt8) (kb : UInt64)
  | text (name value : List UInt8)

/-- A size is printed in eight columns. -/
def StatusEntry.line : StatusEntry → List UInt8
  | .size name kb => statusLine name ((digitsOf kb.toNat).leftpad 8 32 ++ ascii " kB")
  | .text name value => statusLine name value

/-- Names have no colon, and a long line not the letter that both names begin with. -/
def StatusEntry.Printed : StatusEntry → Prop
  | .size name _ => 0 ∉ name ∧ 10 ∉ name ∧ 58 ∉ name ∧ name.length ≤ 200
  | .text name value =>
      name ≠ ascii "VmRSS" ∧ name ≠ ascii "VmSize" ∧ 0 ∉ name ∧ 10 ∉ name ∧ 58 ∉ name ∧
        0 ∉ value ∧ 10 ∉ value ∧
          ((statusLine name value).length < 256 ∨ 86 ∉ statusLine name value)

instance : DecidablePred StatusEntry.Printed
  | .size _ _ => inferInstanceAs (Decidable (_ ∧ _))
  | .text _ _ => inferInstanceAs (Decidable (_ ∧ _))

def StatusEntry.sizeOf (wanted : List UInt8) : StatusEntry → Option UInt64
  | .size name kb => if name = wanted then some kb else none
  | .text .. => none

def lastSize (wanted : List UInt8) (entries : List StatusEntry) : UInt64 :=
  (entries.filterMap (StatusEntry.sizeOf wanted)).getLastD 0

/-! ## The first line of `/proc/stat` -/

theorem blank_space : isspace 32 = true := rfl

def Stops (text : List UInt8) : Prop := ∀ c ∈ text.head?, isdigit c = false

theorem stops_numbersText (values : List UInt64) (rest : List UInt8) (stops : Stops rest) :
    Stops (numbersText values ++ rest) := by
  cases values with
  | nil => exact stops
  | cons value more =>
      intro c first
      cases first
      rfl

theorem scanLlu_numbersText (value : UInt64) (values : List UInt64) (rest : List UInt8)
    (stops : Stops rest) :
    scanLlu (numbersText (value :: values) ++ rest) = some (value, numbersText values ++ rest) := by
  have split : numbersText (value :: values) ++ rest =
      [32] ++ (digitsOf value.toNat ++ (numbersText values ++ rest)) := by
    simp [numbersText]
  rw [split]
  exact scanLlu_digitsOf [32] _ value (List.forall_mem_singleton.mpr blank_space)
    (stops_numbersText values rest stops)

theorem scanLlu_space_numbersText (value : UInt64) (values : List UInt64) (rest : List UInt8)
    (stops : Stops rest) :
    scanLlu (32 :: (numbersText (value :: values) ++ rest)) =
      some (value, numbersText values ++ rest) := by
  have split : 32 :: (numbersText (value :: values) ++ rest) =
      [32, 32] ++ (digitsOf value.toNat ++ (numbersText values ++ rest)) := by
    simp [numbersText]
  have blank : ∀ c ∈ [(32 : UInt8), 32], isspace c = true := by
    intro c among
    rw [List.eq_of_mem_replicate (n := 2) among]
    rfl
  rw [split]
  exact scanLlu_digitsOf [32, 32] _ value blank (stops_numbersText values rest stops)

theorem scanCpuStat_printed (stat : CpuStat) (rest : List UInt8) (stops : Stops rest) :
    scanCpuStat (ascii "cpu " ++ (numbersText stat.values ++ rest)) = some stat := by
  have text : ascii "cpu " ++ (numbersText stat.values ++ rest) =
      ascii "cpu" ++ 32 :: (numbersText stat.values ++ rest) := rfl
  have keyword : (ascii "cpu" ++ 32 :: (numbersText stat.values ++ rest)).dropPrefix?
      (ascii "cpu") = some (32 :: (numbersText stat.values ++ rest)) :=
    List.dropPrefix?_append_of_beq _ (beq_self_eq_true _)
  rw [scanCpuStat, text, keyword]
  simp only [CpuStat.values, Option.bind_eq_bind, Option.bind_some,
    scanLlu_space_numbersText _ _ _ stops, scanLlu_numbersText _ _ _ stops]
  rfl

theorem length_numbersText (values : List UInt64) :
    (numbersText values).length ≤ 21 * values.length := by
  induction values with
  | nil => exact Nat.le_refl 0
  | cons value rest ih =>
      have bound := value.toNat_lt
      have digits := length_digitsOf value.toNat 20 (by decide) (by omega)
      have split : numbersText (value :: rest) =
          (32 :: digitsOf value.toNat) ++ numbersText rest := List.flatMap_cons
      rw [split, List.length_append, List.length_cons, List.length_cons]
      omega

theorem mem_numbersText (values : List UInt64) (c : UInt8) (among : c ∈ numbersText values) :
    c ≠ 0 ∧ c ≠ 10 := by
  obtain ⟨value, -, inside⟩ := List.mem_flatMap.mp among
  rcases List.mem_cons.mp inside with rfl | digit
  · decide
  · have isDigit := isdigit_digitsOf value.toNat c digit
    constructor
    · rintro rfl
      cases isDigit
    · rintro rfl
      cases isDigit

theorem untilNul_append (text rest : List UInt8) (noNul : 0 ∉ text) :
    untilNul (text ++ rest) = text ++ untilNul rest :=
  List.takeWhile_append_of_pos fun _ member => bne_iff_ne.mpr fun zero => noNul (zero ▸ member)

/-- The line is cut after the numbers that are read, if at all. -/
theorem fgets_prefix (limit : ℕ) (text rest : List UInt8) (unbroken : 10 ∉ text)
    (room : text.length ≤ limit) :
    (fgets limit (text ++ rest)).1 = text ++ (fgets (limit - text.length) rest).1 := by
  induction limit generalizing text with
  | zero =>
      rw [List.length_eq_zero_iff.mp (Nat.le_zero.mp room)]
      rfl
  | succ limit ih =>
      cases text with
      | nil => rfl
      | cons c more =>
          rw [List.mem_cons, not_or] at unbroken
          rw [List.cons_append, fgets, if_neg (Ne.symm unbroken.1),
            ih more unbroken.2 (Nat.le_of_succ_le_succ room), List.length_cons,
            Nat.add_sub_add_right]
          rfl

theorem head_fgets (limit : ℕ) (text : List UInt8) (c : UInt8)
    (first : c ∈ (fgets limit text).1.head?) : c ∈ text.head? := by
  cases limit with
  | zero => cases first
  | succ limit =>
      cases text with
      | nil => cases first
      | cons d rest =>
          rw [fgets] at first
          split at first <;> exact first

theorem head_untilNul (text : List UInt8) (c : UInt8) (first : c ∈ (untilNul text).head?) :
    c ∈ text.head? := by
  cases text with
  | nil => cases first
  | cons d rest =>
      by_cases nul : d = 0
      · rw [nul] at first
        cases first
      · rw [untilNul, List.takeWhile_cons_of_pos (by simpa using nul)] at first
        exact first

/-- What the kernel prints is read, however many times follow and whatever comes after. -/
theorem readCpuStat_printed (stat : CpuStat) (more : List UInt64) (rest : List UInt8) :
    readCpuStat (some (cpuLine stat more ++ rest)) = some stat := by
  have length := length_numbersText stat.values
  have seven : stat.values.length = 7 := rfl
  have four : (ascii "cpu ").length = 4 := rfl
  have plain : ∀ c ∈ ascii "cpu " ++ numbersText stat.values, c ≠ 0 ∧ c ≠ 10 := by
    intro c among
    rcases List.mem_append.mp among with word | number
    · have letters : (ascii "cpu ").all (fun c => c != 0 && c != 10) = true := rfl
      simpa using List.all_eq_true.mp letters c word
    · exact mem_numbersText stat.values c number
  have later : Stops (numbersText more ++ [10] ++ rest) := by
    rw [List.append_assoc]
    refine stops_numbersText more _ ?_
    intro c first
    cases first
    rfl
  have text : cpuLine stat more ++ rest =
      (ascii "cpu " ++ numbersText stat.values) ++ (numbersText more ++ [10] ++ rest) := by
    simp [cpuLine]
  have piece := fgets_prefix 255 (ascii "cpu " ++ numbersText stat.values)
    (numbersText more ++ [10] ++ rest) (fun broken => (plain 10 broken).2 rfl)
    (by rw [List.length_append]; omega)
  have some : (ascii "cpu " ++ numbersText stat.values) ++
      (fgets (255 - (ascii "cpu " ++ numbersText stat.values).length)
        (numbersText more ++ [10] ++ rest)).1 ≠ [] := by
    rw [List.append_assoc]
    exact List.cons_ne_nil _ _
  simp only [readCpuStat]
  rw [text, piece, if_neg some, untilNul_append _ _ fun nul => (plain 0 nul).1 rfl,
    List.append_assoc]
  exact scanCpuStat_printed stat _ fun c first =>
    later c (head_fgets _ _ c (head_untilNul _ c first))

/-! ## The lines of `/proc/self/status` -/

def scanSize (name line : List UInt8) : Option UInt64 :=
  ((untilNul line).dropPrefix? name).bind fun rest => (scanLlu rest).map Prod.fst

theorem dropPrefix_eq_some (text literal rest : List UInt8)
    (dropped : text.dropPrefix? literal = some rest) : text = literal ++ rest := by
  obtain ⟨same, split, equal⟩ := List.dropPrefix?_eq_some_iff.mp dropped
  rw [split, eq_of_beq equal]

theorem readStatusLine_eq (usage : MemoryUsage) (line : List UInt8) :
    readStatusLine usage line =
      { rssKb := (scanSize (ascii "VmRSS:") line).getD usage.rssKb
        vmsKb := (scanSize (ascii "VmSize:") line).getD usage.vmsKb } := by
  unfold readStatusLine scanSize
  cases rss : (untilNul line).dropPrefix? (ascii "VmRSS:") with
  | none =>
      cases vms : (untilNul line).dropPrefix? (ascii "VmSize:") with
      | none => rfl
      | some rest => rfl
  | some rest =>
      have other : (untilNul line).dropPrefix? (ascii "VmSize:") = none := by
        rw [dropPrefix_eq_some _ _ rest rss]
        rfl
      rw [other]
      rfl

theorem foldl_readStatusLine (lines : List (List UInt8)) (usage : MemoryUsage) :
    lines.foldl readStatusLine usage =
      { rssKb := (lines.filterMap (scanSize (ascii "VmRSS:"))).getLastD usage.rssKb
        vmsKb := (lines.filterMap (scanSize (ascii "VmSize:"))).getLastD usage.vmsKb } := by
  have step : ∀ (line : List UInt8) (found : List UInt8 → Option UInt64)
      (rest : List (List UInt8)) (before : UInt64),
      (rest.filterMap found).getLastD ((found line).getD before) =
        ((line :: rest).filterMap found).getLastD before := by
    intro line found rest before
    cases here : found line with
    | none => rw [List.filterMap_cons_none here, Option.getD_none]
    | some value => rw [List.filterMap_cons_some here, List.getLastD_cons, Option.getD_some]
  induction lines generalizing usage with
  | nil => rfl
  | cons line rest ih =>
      rw [List.foldl_cons, ih, readStatusLine_eq]
      simp only [step]

theorem readStatusLine_other (usage : MemoryUsage) (line : List UInt8) (free : 86 ∉ line) :
    readStatusLine usage line = usage := by
  have none : ∀ name : List UInt8, 86 ∈ name → (untilNul line).dropPrefix? name = none := by
    intro name letter
    by_contra some
    obtain ⟨rest, found⟩ := Option.ne_none_iff_exists'.mp some
    have among : 86 ∈ untilNul line := by
      rw [dropPrefix_eq_some _ _ rest found]
      exact List.mem_append_left rest letter
    exact free ((List.takeWhile_prefix _).subset among)
  rw [readStatusLine, none (ascii "VmRSS:") List.mem_cons_self,
    none (ascii "VmSize:") List.mem_cons_self]

/-- A line that is read in pieces is read like the whole. -/
theorem foldl_reads_line (usage : MemoryUsage) (body : List UInt8) (unbroken : 10 ∉ body)
    (readable : (body ++ [10]).length < 256 ∨ 86 ∉ body ++ [10]) :
    (reads 256 (body ++ [10])).foldl readStatusLine usage = readStatusLine usage (body ++ [10]) := by
  rcases readable with short | free
  · have fits : body.length + 1 < 256 := by rwa [List.length_append] at short
    rw [reads_fits 256 body unbroken fits]
    rfl
  · have pieces : ∀ piece ∈ reads 256 (body ++ [10]), 86 ∉ piece := by
      intro piece among letter
      apply free
      rw [← flatten_reads 256 (by decide) (body ++ [10])]
      exact List.mem_flatten.mpr ⟨piece, among, letter⟩
    rw [readStatusLine_other usage _ free]
    generalize reads 256 (body ++ [10]) = read at pieces
    induction read with
    | nil => rfl
    | cons piece rest ih =>
        rw [List.foldl_cons, readStatusLine_other usage piece (pieces piece List.mem_cons_self)]
        exact ih fun later among => pieces later (List.mem_cons_of_mem piece among)

theorem dropPrefix_statusLine (wanted name value : List UInt8) (wantedFree : 58 ∉ wanted)
    (nameFree : 58 ∉ name) :
    (statusLine name value).dropPrefix? (wanted ++ [58]) =
      if name = wanted then some (9 :: (value ++ [10])) else none := by
  have line : statusLine name value = name ++ 58 :: 9 :: (value ++ [10]) := rfl
  split
  · rename_i same
    have split : statusLine name value = (wanted ++ [58]) ++ (9 :: (value ++ [10])) := by
      rw [line, same, List.append_assoc]
      rfl
    rw [split]
    exact List.dropPrefix?_append_of_beq _ (beq_self_eq_true _)
  · rename_i differs
    by_contra some
    obtain ⟨rest, found⟩ := Option.ne_none_iff_exists'.mp some
    have split := dropPrefix_eq_some _ _ rest found
    rw [line, List.append_assoc, List.singleton_append] at split
    have first : ∀ (text rest : List UInt8), 58 ∉ text →
        (text ++ 58 :: rest).takeWhile (· != 58) = text := by
      intro text rest free
      have before : ∀ c ∈ text, (c != 58) = true := by
        intro c among
        refine bne_iff_ne.mpr ?_
        rintro rfl
        exact free among
      rw [List.takeWhile_append_of_pos before, List.takeWhile_cons_of_neg (by decide),
        List.append_nil]
    have names := congrArg (List.takeWhile (· != 58)) split
    rw [first _ _ nameFree, first _ _ wantedFree] at names
    exact differs names

theorem scanLlu_column (n : UInt64) (rest : List UInt8) (stops : Stops rest) :
    scanLlu (9 :: ((digitsOf n.toNat).leftpad 8 32 ++ rest)) = some (n, rest) := by
  have split : 9 :: ((digitsOf n.toNat).leftpad 8 32 ++ rest) =
      (9 :: List.replicate (8 - (digitsOf n.toNat).length) 32) ++ (digitsOf n.toNat ++ rest) := by
    rw [List.leftpad, List.append_assoc, List.cons_append]
  have blank : ∀ c ∈ 9 :: List.replicate (8 - (digitsOf n.toNat).length) (32 : UInt8),
      isspace c = true := by
    intro c among
    rcases List.mem_cons.mp among with rfl | padding
    · rfl
    · rw [List.eq_of_mem_replicate padding]
      rfl
  rw [split]
  exact scanLlu_digitsOf _ rest n blank stops

theorem mem_column (n : ℕ) :
    ∀ c ∈ (digitsOf n).leftpad 8 32 ++ ascii " kB", c ≠ 0 ∧ c ≠ 10 := by
  have plain : (ascii " kB").all (fun c => c != 0 && c != 10) = true := rfl
  intro c among
  rcases List.mem_append.mp among with column | unit
  · rcases List.mem_append.mp column with padding | digit
    · rw [List.eq_of_mem_replicate padding]
      decide
    · have isDigit := isdigit_digitsOf n c digit
      constructor
      · rintro rfl
        cases isDigit
      · rintro rfl
        cases isDigit
  · simpa using List.all_eq_true.mp plain c unit

structure PrintedLine (line : List UInt8) : Prop where
  noNul : 0 ∉ line
  ends : ∃ body, line = body ++ [10] ∧ 10 ∉ body
  readable : line.length < 256 ∨ 86 ∉ line

theorem statusLine_printed (name value : List UInt8) (nameNul : 0 ∉ name) (nameBreak : 10 ∉ name)
    (valueNul : 0 ∉ value) (valueBreak : 10 ∉ value)
    (readable : (statusLine name value).length < 256 ∨ 86 ∉ statusLine name value) :
    PrintedLine (statusLine name value) where
  noNul := by
    have line : statusLine name value = name ++ ([58, 9] ++ (value ++ [10])) := rfl
    rw [line]
    simp [nameNul, valueNul]
  ends := by
    have line : statusLine name value = name ++ ([58, 9] ++ (value ++ [10])) := rfl
    refine ⟨name ++ ([58, 9] ++ value), ?_, ?_⟩
    · rw [line]
      simp
    · simp [nameBreak, valueBreak]
  readable := readable

theorem entry_printed (entry : StatusEntry) (printed : entry.Printed) :
    PrintedLine entry.line := by
  cases entry with
  | text name value =>
      obtain ⟨-, -, nameNul, nameBreak, -, valueNul, valueBreak, readable⟩ := printed
      exact statusLine_printed name value nameNul nameBreak valueNul valueBreak readable
  | size name kb =>
      obtain ⟨nameNul, nameBreak, -, short⟩ := printed
      have column := mem_column kb.toNat
      have bound := kb.toNat_lt
      have digits := length_digitsOf kb.toNat 20 (by decide) (by omega)
      refine statusLine_printed name _ nameNul nameBreak (fun nul => (column 0 nul).1 rfl)
        (fun broken => (column 10 broken).2 rfl) (Or.inl ?_)
      have lengths : (ascii ":\t").length = 2 ∧ (ascii " kB").length = 3 := ⟨rfl, rfl⟩
      rw [statusLine]
      simp only [List.length_append, List.length_leftpad, List.length_singleton, lengths]
      omega

section Wanted
variable (wanted : List UInt8) (known : wanted = ascii "VmRSS" ∨ wanted = ascii "VmSize")
include known

theorem scanSize_entry (entry : StatusEntry) (printed : entry.Printed) :
    scanSize (wanted ++ [58]) entry.line = entry.sizeOf wanted := by
  have free : 58 ∉ wanted := by
    rcases known with rfl | rfl <;> decide
  rw [scanSize, untilNul_of_noNul _ (entry_printed entry printed).noNul]
  cases entry with
  | text name value =>
      obtain ⟨notRss, notSize, -, -, nameFree, -⟩ := printed
      have other : name ≠ wanted := by
        rcases known with rfl | rfl
        · exact notRss
        · exact notSize
      rw [StatusEntry.line, dropPrefix_statusLine wanted name value free nameFree, if_neg other]
      rfl
  | size name kb =>
      obtain ⟨-, -, nameFree, -⟩ := printed
      rw [StatusEntry.line, dropPrefix_statusLine wanted name _ free nameFree]
      simp only [StatusEntry.sizeOf]
      split
      · have column := scanLlu_column kb (ascii " kB" ++ [10]) fun c first => by
          cases first
          rfl
        rw [List.append_assoc, Option.bind_some, column]
        rfl
      · rfl

theorem filterMap_scanSize (entries : List StatusEntry)
    (printed : ∀ entry ∈ entries, entry.Printed) :
    (entries.map StatusEntry.line).filterMap (scanSize (wanted ++ [58])) =
      entries.filterMap (StatusEntry.sizeOf wanted) := by
  rw [List.filterMap_map]
  exact List.filterMap_congr fun entry among =>
    scanSize_entry wanted known entry (printed entry among)

end Wanted

theorem foldl_reads_entries (entries : List StatusEntry)
    (printed : ∀ entry ∈ entries, entry.Printed) (usage : MemoryUsage) :
    (reads 256 (entries.flatMap StatusEntry.line)).foldl readStatusLine usage =
      (entries.map StatusEntry.line).foldl readStatusLine usage := by
  induction entries generalizing usage with
  | nil =>
      rw [List.flatMap_nil, reads_nil]
      rfl
  | cons entry rest ih =>
      have line := entry_printed entry (printed entry List.mem_cons_self)
      obtain ⟨body, ended, unbroken⟩ := line.ends
      have readable := line.readable
      rw [ended] at readable
      have ends : EndsLine (body ++ [10]) := Or.inr List.getLast?_concat
      rw [List.flatMap_cons, List.map_cons, ended, reads_append 256 (by decide) _ _ ends,
        List.foldl_append, foldl_reads_line usage body unbroken readable, List.foldl_cons]
      exact ih (fun other later => printed other (List.mem_cons_of_mem entry later)) _

/-- Of what the kernel prints, the last size of either name is read. -/
theorem readMemoryUsage_printed (entries : List StatusEntry)
    (printed : ∀ entry ∈ entries, entry.Printed) :
    readMemoryUsage (some (entries.flatMap StatusEntry.line)) =
      some ⟨lastSize (ascii "VmRSS") entries, lastSize (ascii "VmSize") entries⟩ := by
  have rss := filterMap_scanSize (ascii "VmRSS") (Or.inl rfl) entries printed
  have vms := filterMap_scanSize (ascii "VmSize") (Or.inr rfl) entries printed
  have rssName : ascii "VmRSS" ++ [58] = ascii "VmRSS:" := rfl
  have vmsName : ascii "VmSize" ++ [58] = ascii "VmSize:" := rfl
  rw [rssName] at rss
  rw [vmsName] at vms
  simp only [readMemoryUsage, Option.map_some]
  rw [foldl_reads_entries entries printed, foldl_readStatusLine, rss, vms]
  rfl

theorem status_file_read :
    readMemoryUsage (some (ascii "Name:\tcapture\nVmSize:\t    9000 kB\nVmRSS:\t    5000 kB\n")) =
      some ⟨5000, 9000⟩ :=
  readMemoryUsage_printed
    [.text (ascii "Name") (ascii "capture"), .size (ascii "VmSize") 9000,
      .size (ascii "VmRSS") 5000]
    (by decide +kernel)

end TlshubEbpf.Capture
