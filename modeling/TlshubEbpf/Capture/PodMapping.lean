import TlshubEbpf.Lib.Table
import TlshubEbpf.Lib.TextFile

/-! # The table of pods and nodes (`pod_mapping.c`)

The file is read with `fgets` into an array of 512 bytes, and what each call stores is
taken for a line.  The words of it are stored without a limit on their length. -/

set_option autoImplicit false

namespace TlshubEbpf.Capture

open Lib

def maxMappings : ℕ := 1024

structure PodNodeMapping where
  podName : StringArray 256
  nodeName : StringArray 256

/-- The mappings up to `count`. -/
structure PodNodeTable where
  mappings : List PodNodeMapping
  bounded : mappings.length ≤ maxMappings

def PodNodeTable.zeroed : PodNodeTable := ⟨[], Nat.zero_le _⟩

inductive Overrun where
  | podName
  | nodeName
  deriving DecidableEq, Repr

/-- `sscanf(line, "%s %s", pod_name, node_name)`, and what is stored if it returns 2. -/
def scanMapping (line : List UInt8) : Except Overrun (Option (List UInt8 × List UInt8)) :=
  let (podName, rest) := scanWord line
  if podName = [] then
    .ok none
  else if podName.length ≥ 256 then
    .error .podName
  else
    let (nodeName, _) := scanWord rest
    if nodeName = [] then
      .ok none
    else if nodeName.length ≥ 256 then
      .error .nodeName
    else
      .ok (some (podName, nodeName))

/-- The line is empty or starts with a `#`. -/
def Skipped (line : List UInt8) : Prop := line.head? = some 10 ∨ line.head? = some 35

instance (line : List UInt8) : Decidable (Skipped line) := inferInstanceAs (Decidable (_ ∨ _))

def PodNodeTable.add (table : PodNodeTable) (room : table.mappings.length < maxMappings)
    (podName nodeName : List UInt8) : PodNodeTable where
  mappings := table.mappings ++ [⟨.holding podName, .holding nodeName⟩]
  bounded := by rwa [List.length_append]

def readMapping (table : PodNodeTable) (room : table.mappings.length < maxMappings)
    (line : List UInt8) : Except Overrun PodNodeTable :=
  if Skipped line then
    .ok table
  else
    (scanMapping line).map fun
      | some (podName, nodeName) => table.add room podName nodeName
      | none => table

def loadMappings (table : PodNodeTable) : List (List UInt8) → Except Overrun PodNodeTable
  | [] => .ok table
  | line :: rest =>
      if room : table.mappings.length < maxMappings then
        (readMapping table room line).bind fun table => loadMappings table rest
      else
        .ok table

def initPodNodeMapping (mallocOk : Bool) (file : Option (List UInt8)) :
    Except Overrun (Option PodNodeTable) :=
  if mallocOk = false then
    .ok none
  else
    match file with
    | none => .ok none
    | some content => (loadMappings .zeroed (reads 512 content)).map some

def getNodeByPod (table : Option PodNodeTable) (podName : Option (List UInt8)) :
    Option (List UInt8) :=
  match table, podName with
  | some table, some podName =>
      (table.mappings.find? fun mapping => mapping.podName.string = podName).map
        fun mapping => mapping.nodeName.string
  | _, _ => none

/-! ## What a file says -/

def pairOf : List (List UInt8) → Option (List UInt8 × List UInt8)
  | podName :: nodeName :: _ => some (podName, nodeName)
  | _ => none

def mappingOf (line : List UInt8) : Option (List UInt8 × List UInt8) :=
  if Skipped line then none else pairOf (words line)

/-- The node of the first mapping line for the pod among the first 1024 mapping lines. -/
def expectedNode (content podName : List UInt8) : Option (List UInt8) :=
  (((lines content).filterMap mappingOf).take maxMappings).lookup podName

/-- No word overruns its array, and every query is answered as the file says. -/
def MappingsMeet (content : List UInt8) : Prop :=
  ∃ table, initPodNodeMapping true (some content) = .ok (some table) ∧
    ∀ podName, getNodeByPod (some table) (some podName) = expectedNode content podName

def LineFits (line : List UInt8) : Prop :=
  ¬ Skipped line → ∀ word ∈ (words line).take 2, word.length ≤ 255

instance (line : List UInt8) : Decidable (LineFits line) := inferInstanceAs (Decidable (_ → _))

def checkedPair : List (List UInt8) → Except Overrun (Option (List UInt8 × List UInt8))
  | [] => .ok none
  | [podName] => if podName.length ≥ 256 then .error .podName else .ok none
  | podName :: nodeName :: _ =>
      if podName.length ≥ 256 then .error .podName
      else if nodeName.length ≥ 256 then .error .nodeName
      else .ok (some (podName, nodeName))

theorem scanMapping_eq (line : List UInt8) : scanMapping line = checkedPair (words line) := by
  have second := words_eq (scanWord line).2
  rw [words_eq line]
  simp only [scanMapping]
  by_cases noPod : (scanWord line).1 = []
  · rw [if_pos noPod, if_pos noPod]
    rfl
  · rw [if_neg noPod, if_neg noPod, second]
    by_cases noNode : (scanWord (scanWord line).2).1 = []
    · rw [if_pos noNode, if_pos noNode]
      rfl
    · rw [if_neg noNode, if_neg noNode]
      rfl

theorem checkedPair_ok (found : List (List UInt8))
    (fits : ∀ word ∈ found.take 2, word.length ≤ 255) : checkedPair found = .ok (pairOf found) := by
  match found with
  | [] => rfl
  | [podName] =>
      have podFits := fits podName List.mem_cons_self
      rw [checkedPair, if_neg (by omega)]
      rfl
  | podName :: nodeName :: more =>
      have podFits := fits podName List.mem_cons_self
      have nodeFits := fits nodeName (List.mem_cons_of_mem podName List.mem_cons_self)
      rw [checkedPair, if_neg (by omega), if_neg (by omega)]
      rfl

theorem checkedPair_overrun (found : List (List UInt8))
    (overruns : ¬ ∀ word ∈ found.take 2, word.length ≤ 255) :
    ∃ overrun, checkedPair found = .error overrun := by
  obtain ⟨word, among, long⟩ : ∃ word ∈ found.take 2, 255 < word.length := by
    simpa using overruns
  match found with
  | [] => cases among
  | [podName] =>
      cases List.mem_singleton.mp among
      exact ⟨.podName, if_pos long⟩
  | podName :: nodeName :: more =>
      by_cases longPod : podName.length ≥ 256
      · exact ⟨.podName, if_pos longPod⟩
      · rw [checkedPair, if_neg longPod]
        rcases List.mem_pair.mp among with rfl | rfl
        · exact absurd long longPod
        · exact ⟨.nodeName, if_pos long⟩

def PodNodeTable.pairs (table : PodNodeTable) : List (List UInt8 × List UInt8) :=
  table.mappings.map fun mapping => (mapping.podName.string, mapping.nodeName.string)

theorem string_holding_word (word : List UInt8) (noNul : 0 ∉ word) (fits : word.length ≤ 255) :
    (StringArray.holding word : StringArray 256).string = word := by
  rw [StringArray.string_holding, List.take_of_length_le fits, untilNul_of_noNul word noNul]

theorem pairs_add (table : PodNodeTable) (room : table.mappings.length < maxMappings)
    (podName nodeName : List UInt8) (podPlain : 0 ∉ podName) (nodePlain : 0 ∉ nodeName)
    (podFits : podName.length ≤ 255) (nodeFits : nodeName.length ≤ 255) :
    (table.add room podName nodeName).pairs = table.pairs ++ [(podName, nodeName)] := by
  rw [PodNodeTable.add, PodNodeTable.pairs, List.map_append, List.map_singleton,
    string_holding_word podName podPlain podFits, string_holding_word nodeName nodePlain nodeFits]
  rfl

section Read
variable (table : PodNodeTable) (room : table.mappings.length < maxMappings) (line : List UInt8)

theorem readMapping_ok (noNul : 0 ∉ line) (fits : LineFits line) :
    ∃ table', readMapping table room line = .ok table' ∧
      table'.pairs = table.pairs ++ (mappingOf line).toList := by
  by_cases skipped : Skipped line
  · refine ⟨table, if_pos skipped, ?_⟩
    rw [mappingOf, if_pos skipped, Option.toList_none, List.append_nil]
  · rw [readMapping, if_neg skipped, scanMapping_eq, checkedPair_ok _ (fits skipped), mappingOf,
      if_neg skipped]
    have short := fits skipped
    have plain : ∀ word ∈ words line, 0 ∉ word := fun word among zero =>
      noNul (mem_of_mem_words line word 0 among zero)
    generalize words line = found at short plain ⊢
    match found with
    | [] => exact ⟨table, rfl, (List.append_nil _).symm⟩
    | [podName] => exact ⟨table, rfl, (List.append_nil _).symm⟩
    | podName :: nodeName :: more =>
        have second : nodeName ∈ podName :: nodeName :: more :=
          List.mem_cons_of_mem podName List.mem_cons_self
        exact ⟨table.add room podName nodeName, rfl,
          pairs_add table room podName nodeName (plain _ List.mem_cons_self) (plain _ second)
            (short _ List.mem_cons_self)
            (short _ (List.mem_cons_of_mem podName List.mem_cons_self))⟩

theorem readMapping_overrun (overruns : ¬ LineFits line) :
    ∃ overrun, readMapping table room line = .error overrun := by
  obtain ⟨read, long⟩ := Classical.not_imp.mp overruns
  obtain ⟨overrun, checked⟩ := checkedPair_overrun (words line) long
  exact ⟨overrun, by rw [readMapping, if_neg read, scanMapping_eq, checked]; rfl⟩

end Read

/-- The words of the lines that are scanned before the table is full fit. -/
def WordsFit : ℕ → List (List UInt8) → Prop
  | _, [] => True
  | 0, _ :: _ => True
  | room + 1, line :: rest =>
      LineFits line ∧ WordsFit (if (mappingOf line).isSome then room else room + 1) rest

theorem count_eq (table : PodNodeTable) : table.pairs.length = table.mappings.length :=
  List.length_map _

theorem loadMappings_cons (line : List UInt8) (rest : List (List UInt8)) (table : PodNodeTable)
    (room : ℕ) (left : table.mappings.length + (room + 1) = maxMappings) (noNul : 0 ∉ line)
    (fits : LineFits line) :
    ∃ next, loadMappings table (line :: rest) = loadMappings next rest ∧
      next.mappings.length + (if (mappingOf line).isSome then room else room + 1) = maxMappings ∧
        next.pairs = table.pairs ++ (mappingOf line).toList := by
  have available : table.mappings.length < maxMappings := by omega
  obtain ⟨next, read, pairs⟩ := readMapping_ok table available line noNul fits
  have counts := congrArg List.length pairs
  rw [List.length_append, count_eq, count_eq] at counts
  refine ⟨next, by rw [loadMappings, dif_pos available, read]; rfl, ?_, pairs⟩
  cases found : mappingOf line with
  | none =>
      rw [found] at counts
      rw [counts]
      exact left
  | some pair =>
      rw [found, Option.toList_some, List.length_singleton] at counts
      rw [counts, if_pos Option.isSome_some]
      omega

theorem loadMappings_ok (lines : List (List UInt8)) (table : PodNodeTable) (room : ℕ)
    (left : table.mappings.length + room = maxMappings) (noNul : ∀ line ∈ lines, 0 ∉ line)
    (fits : WordsFit room lines) :
    ∃ table', loadMappings table lines = .ok table' ∧
      table'.pairs = table.pairs ++ (lines.filterMap mappingOf).take room := by
  induction lines generalizing table room with
  | nil => exact ⟨table, rfl, by simp⟩
  | cons line rest ih =>
      cases room with
      | zero =>
          rw [loadMappings, dif_neg (by omega)]
          exact ⟨table, rfl, by simp⟩
      | succ room =>
          obtain ⟨next, loads, nextLeft, pairs⟩ := loadMappings_cons line rest table room left
            (noNul line List.mem_cons_self) fits.1
          obtain ⟨table', loaded, all⟩ := ih next _ nextLeft
            (fun line among => noNul line (List.mem_cons_of_mem _ among)) fits.2
          refine ⟨table', loads.trans loaded, ?_⟩
          rw [all, pairs]
          cases found : mappingOf line with
          | none =>
              rw [List.filterMap_cons_none found, Option.toList_none, List.append_nil]
              rfl
          | some pair =>
              rw [List.filterMap_cons_some found, Option.toList_some, List.take_succ_cons,
                List.append_assoc, List.singleton_append]
              rfl

theorem loadMappings_overrun (lines : List (List UInt8)) (table : PodNodeTable) (room : ℕ)
    (left : table.mappings.length + room = maxMappings) (noNul : ∀ line ∈ lines, 0 ∉ line)
    (overruns : ¬ WordsFit room lines) :
    ∃ overrun, loadMappings table lines = .error overrun := by
  induction lines generalizing table room with
  | nil => exact absurd trivial overruns
  | cons line rest ih =>
      cases room with
      | zero => exact absurd trivial overruns
      | succ room =>
          by_cases fits : LineFits line
          · obtain ⟨next, loads, nextLeft, -⟩ := loadMappings_cons line rest table room left
              (noNul line List.mem_cons_self) fits
            rw [loads]
            exact ih next _ nextLeft (fun line among => noNul line (List.mem_cons_of_mem _ among))
              fun restFits => overruns ⟨fits, restFits⟩
          · have available : table.mappings.length < maxMappings := by omega
            obtain ⟨overrun, read⟩ := readMapping_overrun table available line fits
            exact ⟨overrun, by rw [loadMappings, dif_pos available, read]; rfl⟩

theorem getNodeByPod_eq (table : PodNodeTable) (podName : List UInt8) :
    getNodeByPod (some table) (some podName) = table.pairs.lookup podName := by
  rw [PodNodeTable.pairs, lookup_map_eq_find]
  rfl

/-! ## Pieces and lines -/

def ScannedWordsFit (content : List UInt8) : Prop := WordsFit maxMappings (reads 512 content)

/-- The first pair for a pod among the first 1024 that the pieces give is that of the lines. -/
def FirstPairsAgree (content : List UInt8) : Prop :=
  ∀ podName, (((reads 512 content).filterMap mappingOf).take maxMappings).lookup podName =
    expectedNode content podName

/-- Until the table is full, lines are read whole. -/
def LinesReadWhole (content : List UInt8) : Prop :=
  ∃ early later, lines content = early ++ later ∧ (∀ line ∈ early, ReadWhole mappingOf 512 line) ∧
    (later = [] ∨ maxMappings ≤ (early.filterMap mappingOf).length)

theorem firstPairsAgree_of_whole (content : List UInt8) (whole : LinesReadWhole content) :
    FirstPairsAgree content := by
  obtain ⟨early, later, split, readWhole, rest⟩ := whole
  have same : ((reads 512 content).filterMap mappingOf).take maxMappings =
      ((lines content).filterMap mappingOf).take maxMappings := by
    rw [reads_eq_flatMap 512 (by decide), split, List.flatMap_append, List.filterMap_append,
      List.filterMap_append, filterMap_reads mappingOf 512 early readWhole]
    rcases rest with rfl | full
    · rfl
    · rw [List.take_append_of_le_length full, List.take_append_of_le_length full]
  intro podName
  rw [expectedNode, same]

theorem mappingsMeet_iff_pieces (content : List UInt8) (noNul : 0 ∉ content) :
    MappingsMeet content ↔ ScannedWordsFit content ∧ FirstPairsAgree content := by
  have piecesPlain : ∀ piece ∈ reads 512 content, 0 ∉ piece := by
    intro piece among zero
    rw [← flatten_reads 512 (by decide) content] at noNul
    exact noNul (List.mem_flatten_of_mem among zero)
  by_cases fits : ScannedWordsFit content
  · obtain ⟨table, loaded, pairs⟩ := loadMappings_ok (reads 512 content) .zeroed maxMappings
      (Nat.zero_add _) piecesPlain fits
    have initialised : initPodNodeMapping true (some content) = .ok (some table) := by
      rw [initPodNodeMapping, if_neg (by decide)]
      simp only [loaded]
      rfl
    have answers : ∀ podName, getNodeByPod (some table) (some podName) =
        (((reads 512 content).filterMap mappingOf).take maxMappings).lookup podName := by
      intro podName
      rw [getNodeByPod_eq, pairs]
      rfl
    constructor
    · rintro ⟨table', initialised', meets⟩
      cases initialised.symm.trans initialised'
      exact ⟨fits, fun podName => (answers podName).symm.trans (meets podName)⟩
    · rintro ⟨-, agree⟩
      exact ⟨table, initialised, fun podName => (answers podName).trans (agree podName)⟩
  · obtain ⟨overrun, fails⟩ := loadMappings_overrun (reads 512 content) .zeroed maxMappings
      (Nat.zero_add _) piecesPlain fits
    constructor
    · rintro ⟨table, initialised, -⟩
      rw [initPodNodeMapping, if_neg (by decide)] at initialised
      simp only [fails] at initialised
      cases initialised
    · exact fun meets => absurd meets.1 fits

/-- The table answers as the file says exactly if the scanned words fit and the first
pairs agree, and they agree as long as lines are read whole. -/
theorem mappingsMeet_iff (content : List UInt8) (noNul : 0 ∉ content) :
    (MappingsMeet content ↔ ScannedWordsFit content ∧ FirstPairsAgree content) ∧
      (LinesReadWhole content → FirstPairsAgree content) :=
  ⟨mappingsMeet_iff_pieces content noNul, firstPairsAgree_of_whole content⟩

def filledComment : List UInt8 := 35 :: List.replicate 510 32

theorem filledComment_unbroken : 10 ∉ filledComment := by
  rw [filledComment, List.mem_cons, List.mem_replicate]
  decide

theorem filledComment_noNul : 0 ∉ filledComment := by
  rw [filledComment, List.mem_cons, List.mem_replicate]
  decide

theorem skipped_filledComment (rest : List UInt8) : Skipped (filledComment ++ rest) := Or.inr rfl

theorem reads_filledComment (rest : List UInt8) :
    reads 512 (filledComment ++ rest) = filledComment :: reads 512 rest := by
  have length : filledComment.length = 511 := by
    rw [filledComment, List.length_cons, List.length_replicate]
  have pieces := reads_full filledComment rest filledComment_unbroken (List.cons_ne_nil _ _)
  rwa [length] at pieces

/-- A comment above 511 bytes, the rest of which is a comment as well. -/
def brokenComment : List UInt8 := filledComment ++ [35]

theorem brokenComment_unbroken : 10 ∉ brokenComment :=
  List.not_mem_append filledComment_unbroken (by decide)

theorem reads_brokenComment : reads 512 (brokenComment ++ [10]) = [filledComment, [35, 10]] := by
  rw [brokenComment, List.append_assoc, reads_filledComment,
    reads_line 512 _ (by decide) (by decide) (by decide)]
  rfl

theorem readWhole_brokenComment {β : Type} (contributes : List UInt8 → Option β)
    (skips : ∀ line, Skipped line → contributes line = none) :
    ReadWhole contributes 512 (brokenComment ++ [10]) := by
  have line := skips (brokenComment ++ [10]) (Or.inr rfl)
  have start := skips filledComment (Or.inr rfl)
  have tail := skips [35, 10] (Or.inr rfl)
  rw [ReadWhole, reads_brokenComment, line, List.filterMap_cons_none start,
    List.filterMap_cons_none tail, List.filterMap_nil, Option.toList_none]

def repeatedPod : List (List UInt8) :=
  [ascii "# pod node", brokenComment, ascii "p n", ascii "q m", ascii "p o"]

theorem repeatedPod_unbroken : ∀ body ∈ repeatedPod, 10 ∉ body := by
  simp only [repeatedPod, List.forall_mem_cons]
  exact ⟨by decide, brokenComment_unbroken, by decide⟩

theorem reads_repeatedPod :
    reads 512 (textOf repeatedPod) =
      [ascii "# pod node\n", filledComment, [35, 10], ascii "p n\n", ascii "q m\n",
        ascii "p o\n"] := by
  rw [reads_textOf 512 (by decide) repeatedPod repeatedPod_unbroken]
  simp only [repeatedPod, List.flatMap_cons, List.flatMap_nil, reads_brokenComment]
  rw [reads_fits 512 (ascii "# pod node") (by decide) (by decide),
    reads_fits 512 (ascii "p n") (by decide) (by decide),
    reads_fits 512 (ascii "q m") (by decide) (by decide),
    reads_fits 512 (ascii "p o") (by decide) (by decide)]
  rfl

theorem repeated_pod_meets : MappingsMeet (textOf repeatedPod) := by
  have noNul : 0 ∉ textOf repeatedPod := by
    refine not_mem_textOf 0 (by decide) repeatedPod ?_
    simp only [repeatedPod, List.forall_mem_cons]
    exact ⟨by decide, List.not_mem_append filledComment_noNul (by decide), by decide⟩
  have fits : ScannedWordsFit (textOf repeatedPod) := by
    rw [ScannedWordsFit, reads_repeatedPod]
    exact ⟨by decide, fun read => absurd (Or.inr rfl) read, by decide, by decide, by decide,
      by decide, trivial⟩
  have whole : LinesReadWhole (textOf repeatedPod) := by
    refine ⟨_, [], (List.append_nil _).symm, ?_, Or.inl rfl⟩
    rw [lines_textOf repeatedPod repeatedPod_unbroken, List.forall_mem_map]
    simp only [repeatedPod, List.forall_mem_cons]
    have short := readWhole_of_fits mappingOf 512
    exact ⟨short _ (by decide) (by decide),
      readWhole_brokenComment mappingOf fun line skipped => if_pos skipped,
      short _ (by decide) (by decide), short _ (by decide) (by decide),
      short _ (by decide) (by decide), List.forall_mem_nil _⟩
  have meets := mappingsMeet_iff (textOf repeatedPod) noNul
  exact meets.1.mpr ⟨fits, meets.2 whole⟩

theorem lines_filledComment (body : List UInt8) (unbroken : 10 ∉ body) :
    lines (filledComment ++ (body ++ [10])) = [filledComment ++ (body ++ [10])] := by
  have whole : 10 ∉ filledComment ++ body :=
    List.not_mem_append filledComment_unbroken unbroken
  have split := lines_terminated (filledComment ++ body) [] whole
  rwa [List.append_assoc] at split

/-- A comment with `p n` after the first 511 bytes. -/
def longComment : List UInt8 := filledComment ++ [112, 32, 110, 10]

def longName : List UInt8 := List.replicate 256 112 ++ [32, 110, 10]

theorem words_longName : words longName = [List.replicate 256 112, [110]] := by
  rw [longName, words_word_blank _ 32 [110, 10] (unbroken_replicate 256 112 rfl)
    (List.cons_ne_nil _ _) rfl]
  rfl

/-- The rest of the comment is read as a mapping, and the name overruns its array. -/
theorem long_lines_not_met : ¬ MappingsMeet longComment ∧ ¬ MappingsMeet longName := by
  constructor
  · intro meets
    have noNul : 0 ∉ longComment := List.not_mem_append filledComment_noNul (by decide)
    have agree := ((mappingsMeet_iff_pieces longComment noNul).mp meets).2 [112]
    have comment : mappingOf longComment = none := if_pos (skipped_filledComment _)
    have single : lines longComment = [longComment] :=
      lines_filledComment [112, 32, 110] (by decide)
    rw [expectedNode, single, List.filterMap_cons_none comment, longComment, reads_filledComment,
      reads_line 512 _ (by decide) (by decide) (by decide)] at agree
    cases agree
  · intro meets
    have noNul : 0 ∉ longName := by
      rw [longName, List.mem_append, List.mem_replicate]
      decide
    have single : 10 ∉ longName.dropLast := by
      have split : longName = (List.replicate 256 112 ++ [32, 110]) ++ [10] := by
        rw [longName, List.append_assoc]
        rfl
      rw [split, List.dropLast_concat, List.mem_append, List.mem_replicate]
      decide
    have length : longName.length = 259 := by
      rw [longName, List.length_append, List.length_replicate]
      rfl
    have fits := ((mappingsMeet_iff_pieces longName noNul).mp meets).1
    rw [ScannedWordsFit, reads_line 512 longName (List.cons_ne_nil _ _) (by omega) single] at fits
    have scanned : ¬ Skipped longName := by
      rintro (lineBreak | comment)
      · cases lineBreak
      · cases comment
    have short := fits.1 scanned (List.replicate 256 112)
    rw [words_longName, List.length_replicate] at short
    exact absurd (short List.mem_cons_self) (by decide)

end TlshubEbpf.Capture
