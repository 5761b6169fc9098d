import TlshubEbpf.Capture.KeyProvider
import TlshubEbpf.Capture.PodMapping

/-! # The configuration of the capture (`load_config` in `main.c`)

Like the table of pods the file is read in pieces of at most 511 bytes.  The struct is
not cleared before, so that the last byte of the path is whatever the stack had there. -/

set_option autoImplicit false

namespace TlshubEbpf.Capture

open Lib

structure CaptureConfig where
  mode : KeyProviderMode
  podNodeConfigPath : CharArray 256

def defaultPodNodeConfig : List UInt8 := ascii "/etc/tlshub/pod_node_mapping.conf"

inductive SettingOverrun where
  | key
  | value
  deriving DecidableEq, Repr

/-- `sscanf(line, "%s = %s", key, value)`, and what is stored if it returns 2. -/
def scanSetting (line : List UInt8) : Except SettingOverrun (Option (List UInt8 × List UInt8)) :=
  let (key, rest) := scanWord line
  if key = [] then
    .ok none
  else if key.length ≥ 128 then
    .error .key
  else
    let rest := rest.dropWhile isspace
    if rest.head? = some 61 then
      let (value, _) := scanWord rest.tail
      if value = [] then
        .ok none
      else if value.length ≥ 256 then
        .error .value
      else
        .ok (some (key, value))
    else
      .ok none

def namedMode (value : List UInt8) : Option KeyProviderMode :=
  if value = ascii "tlshub" then some .tlshub
  else if value = ascii "openssl" then some .openssl
  else if value = ascii "boringssl" then some .boringssl
  else none

def applySetting (config : CaptureConfig) (setting : List UInt8 × List UInt8) : CaptureConfig :=
  let (key, value) := setting
  if key = ascii "mode" then
    match namedMode value with
    | some mode => { config with mode }
    | none => config
  else if key = ascii "pod_node_config" then
    { config with podNodeConfigPath := config.podNodeConfigPath.strncpy value }
  else
    config

def readSetting (config : CaptureConfig) (line : List UInt8) :
    Except SettingOverrun CaptureConfig :=
  if Skipped line then
    .ok config
  else
    (scanSetting line).map fun setting => setting.elim config (applySetting config)

def loadConfig (file : Option (List UInt8)) (config : CaptureConfig) :
    Except SettingOverrun (Int × CaptureConfig) :=
  let config : CaptureConfig :=
    { mode := .tlshub
      podNodeConfigPath := config.podNodeConfigPath.strncpy defaultPodNodeConfig }
  match file with
  | none => .ok (0, config)
  | some content => ((reads 512 content).foldlM readSetting config).map fun config => (0, config)

/-! ## What a file says -/

/-- `key = value`, where white space around the sign may be left out after the key. -/
def settingOfWords : List (List UInt8) → Option (List UInt8 × List UInt8)
  | key :: sign :: more =>
      if sign.head? = some 61 then
        if sign.tail = [] then more.head?.map fun value => (key, value)
        else some (key, sign.tail)
      else
        none
  | _ => none

def settingOf (line : List UInt8) : Option (List UInt8 × List UInt8) :=
  if Skipped line then none else settingOfWords (words line)

def modeOf (setting : List UInt8 × List UInt8) : Option KeyProviderMode :=
  if setting.1 = ascii "mode" then namedMode setting.2 else none

def pathOf (setting : List UInt8 × List UInt8) : Option (List UInt8) :=
  if setting.1 = ascii "pod_node_config" then some setting.2 else none

def lastMode (settings : List (List UInt8 × List UInt8)) : KeyProviderMode :=
  (settings.filterMap modeOf).getLastD .tlshub

def lastPath (settings : List (List UInt8 × List UInt8)) : List UInt8 :=
  (settings.filterMap pathOf).getLastD defaultPodNodeConfig

/-- No word overruns its array, and the configuration is what the lines of the file say. -/
def ConfigMeets (content : List UInt8) (prior : CaptureConfig) : Prop :=
  ∃ config, loadConfig (some content) prior = .ok (0, config) ∧
    config.mode = lastMode ((lines content).filterMap settingOf) ∧
      config.podNodeConfigPath.string =
        some (lastPath ((lines content).filterMap settingOf))

def scannedValue (rest : List UInt8) : Option (List UInt8) :=
  if (rest.dropWhile isspace).head? = some 61 then
    let value := (scanWord (rest.dropWhile isspace).tail).1
    if value = [] then none else some value
  else
    none

theorem scanWord_nonblank (c : UInt8) (more : List UInt8) (nonblank : isspace c = false) :
    scanWord (c :: more) =
      (c :: more.takeWhile (!isspace ·), more.dropWhile (!isspace ·)) := by
  have stays : ¬ isspace c = true := by rw [nonblank]; exact Bool.false_ne_true
  have word : (!isspace c) = true := by rw [nonblank]; rfl
  rw [scanWord, List.dropWhile_cons_of_neg stays]
  exact congrArg₂ Prod.mk (List.takeWhile_cons_of_pos word) (List.dropWhile_cons_of_pos word)

theorem settingOfWords_sign (key after : List UInt8) :
    settingOfWords (key :: words (61 :: after)) =
      (if (scanWord after).1 = [] then none else some (key, (scanWord after).1)) := by
  have scanned := scanWord_nonblank 61 after rfl
  rw [words_eq, scanned, if_neg (List.cons_ne_nil _ _)]
  show (if after.takeWhile (!isspace ·) = [] then
    (words (after.dropWhile (!isspace ·))).head?.map fun value => (key, value)
      else some (key, after.takeWhile (!isspace ·))) = _
  split
  · rename_i alone
    have rest : after.dropWhile (!isspace ·) = after := by
      have parts := List.takeWhile_append_dropWhile (p := (!isspace ·)) (l := after)
      rwa [alone, List.nil_append] at parts
    rw [rest, words_eq]
    split <;> rfl
  · rename_i attached
    cases after with
    | nil => exact absurd rfl attached
    | cons c more =>
        have nonblank : isspace c = false := by
          by_contra blank
          rw [List.takeWhile_cons_of_neg (by simpa using blank)] at attached
          exact attached rfl
        have word : (!isspace c) = true := by rw [nonblank]; rfl
        rw [scanWord_nonblank c more nonblank,
          List.takeWhile_cons_of_pos (p := fun c => !isspace c) word,
          if_neg (List.cons_ne_nil _ _)]

theorem settingOfWords_key (key rest : List UInt8) :
    settingOfWords (key :: words rest) = (scannedValue rest).map fun value => (key, value) := by
  have start := List.head?_dropWhile_not isspace rest
  rw [← words_dropWhile, scannedValue]
  generalize rest.dropWhile isspace = left at start ⊢
  cases left with
  | nil => rfl
  | cons c after =>
      have nonblank : isspace c = false := start
      by_cases sign : c = 61
      · have starts : (61 :: after).head? = some 61 := rfl
        rw [sign, settingOfWords_sign, if_pos starts, List.tail_cons]
        show _ = Option.map _ (if (scanWord after).1 = [] then none else some (scanWord after).1)
        split <;> rfl
      · have other : ¬ (c :: after).head? = some 61 := fun same => sign (Option.some.inj same)
        rw [if_neg other, words_eq, scanWord_nonblank c after nonblank,
          if_neg (List.cons_ne_nil _ _)]
        exact if_neg fun same => sign (Option.some.inj same)

def SettingFits (line : List UInt8) : Prop :=
  ¬ Skipped line → (∀ key ∈ (words line).head?, key.length ≤ 127) ∧
    ∀ setting ∈ settingOfWords (words line), setting.2.length ≤ 255

theorem scanSetting_key (line : List UInt8) (nonempty : (scanWord line).1 ≠ [])
    (fits : ¬ (scanWord line).1.length ≥ 128) :
    scanSetting line = (scannedValue (scanWord line).2).elim (.ok none) fun value =>
      if value.length ≥ 256 then .error .value else .ok (some ((scanWord line).1, value)) := by
  simp only [scanSetting, scannedValue]
  rw [if_neg nonempty, if_neg fits]
  split
  · split
    · rfl
    · rfl
  · rfl

theorem scanSetting_ok (line : List UInt8)
    (keyFits : ∀ key ∈ (words line).head?, key.length ≤ 127)
    (valueFits : ∀ setting ∈ settingOfWords (words line), setting.2.length ≤ 255) :
    scanSetting line = .ok (settingOfWords (words line)) := by
  by_cases noKey : (scanWord line).1 = []
  · rw [words_eq, if_pos noKey, scanSetting]
    exact if_pos noKey
  · rw [words_eq, if_neg noKey] at keyFits valueFits ⊢
    have short := keyFits _ rfl
    rw [settingOfWords_key] at valueFits ⊢
    rw [scanSetting_key line noKey (by omega)]
    cases found : scannedValue (scanWord line).2 with
    | none => rfl
    | some value =>
        have fits := valueFits ((scanWord line).1, value) (by rw [found]; rfl)
        exact if_neg (by dsimp only at fits; omega)

theorem scanSetting_overrun (line : List UInt8)
    (overruns : ¬ ((∀ key ∈ (words line).head?, key.length ≤ 127) ∧
      ∀ setting ∈ settingOfWords (words line), setting.2.length ≤ 255)) :
    ∃ overrun, scanSetting line = .error overrun := by
  by_cases noKey : (scanWord line).1 = []
  · rw [words_eq, if_pos noKey] at overruns
    exact absurd ⟨(fun _ none => nomatch none), fun _ none => nomatch none⟩ overruns
  · rw [words_eq, if_neg noKey, settingOfWords_key] at overruns
    by_cases longKey : (scanWord line).1.length ≥ 128
    · refine ⟨.key, ?_⟩
      simp only [scanSetting]
      rw [if_neg noKey, if_pos longKey]
    · rw [scanSetting_key line noKey longKey]
      cases found : scannedValue (scanWord line).2 with
      | none =>
          rw [found] at overruns
          refine absurd ⟨fun key same => ?_, fun setting none => nomatch none⟩ overruns
          cases same
          omega
      | some value =>
          refine ⟨.value, if_pos ?_⟩
          by_contra short
          rw [found] at overruns
          refine overruns ⟨fun key same => ?_, fun setting same => ?_⟩
          · cases same
            omega
          · cases same
            dsimp only
            omega

section Read
variable (config : CaptureConfig) (line : List UInt8)

theorem readSetting_ok (fits : SettingFits line) :
    readSetting config line = .ok ((settingOf line).elim config (applySetting config)) := by
  by_cases skipped : Skipped line
  · rw [readSetting, settingOf, if_pos skipped, if_pos skipped]
    rfl
  · have short := fits skipped
    rw [readSetting, settingOf, if_neg skipped, if_neg skipped, scanSetting_ok line short.1 short.2]
    rfl

theorem readSetting_overrun (overruns : ¬ SettingFits line) :
    ∃ overrun, readSetting config line = .error overrun := by
  obtain ⟨read, long⟩ := Classical.not_imp.mp overruns
  obtain ⟨overrun, scanned⟩ := scanSetting_overrun line long
  exact ⟨overrun, by rw [readSetting, if_neg read, scanned]; rfl⟩

end Read

theorem foldlM_readSetting (lines : List (List UInt8)) (config : CaptureConfig)
    (fits : ∀ line ∈ lines, SettingFits line) :
    lines.foldlM readSetting config =
      .ok ((lines.filterMap settingOf).foldl applySetting config) := by
  induction lines generalizing config with
  | nil => rfl
  | cons line rest ih =>
      rw [List.foldlM_cons, readSetting_ok config line (fits line List.mem_cons_self)]
      show rest.foldlM readSetting _ = _
      rw [ih _ fun other later => fits other (List.mem_cons_of_mem line later)]
      cases found : settingOf line with
      | none => rw [List.filterMap_cons_none found, Option.elim_none]
      | some setting =>
          rw [List.filterMap_cons_some found, Option.elim_some, List.foldl_cons]

theorem foldlM_readSetting_overrun (lines : List (List UInt8)) (config : CaptureConfig)
    (overruns : ¬ ∀ line ∈ lines, SettingFits line) :
    ∃ overrun, lines.foldlM readSetting config = .error overrun := by
  induction lines generalizing config with
  | nil => exact absurd (fun _ none => nomatch none) overruns
  | cons line rest ih =>
      by_cases fits : SettingFits line
      · rw [List.foldlM_cons, readSetting_ok config line fits]
        refine ih _ fun restFit => overruns ?_
        exact List.forall_mem_cons.mpr ⟨fits, restFit⟩
      · obtain ⟨overrun, read⟩ := readSetting_overrun config line fits
        exact ⟨overrun, by rw [List.foldlM_cons, read]; rfl⟩

/-! ## What the settings leave -/

/-- The path is this value, copied over an array with this last byte. -/
def Copied (last : UInt8) (value : List UInt8) (path : CharArray 256) : Prop :=
  path.lastByte = last ∧ ∃ array : CharArray 256, path = array.strncpy value

theorem copied_strncpy (last : UInt8) (value : List UInt8) (array : CharArray 256)
    (same : array.lastByte = last) : Copied last value (array.strncpy value) :=
  ⟨(array.lastByte_strncpy value).trans same, array, rfl⟩

/-- A value of 255 bytes is terminated by what was there before. -/
theorem Copied.string_eq_some_iff (last : UInt8) (value expected : List UInt8)
    (path : CharArray 256) (copied : Copied last value path) (noNul : 0 ∉ value)
    (fits : value.length ≤ 255) :
    path.string = some expected ↔ value = expected ∧ (value.length < 255 ∨ last = 0) := by
  obtain ⟨same, array, rfl⟩ := copied
  rw [CharArray.lastByte_strncpy] at same
  rcases Nat.lt_or_ge value.length 255 with short | long
  · rw [CharArray.string_strncpy_short value array noNul short, Option.some.injEq]
    exact ⟨fun equal => ⟨equal, Or.inl short⟩, And.left⟩
  · rw [CharArray.string_strncpy_long value array noNul long, same,
      List.take_of_length_le fits]
    split
    · rename_i zero
      rw [Option.some.injEq]
      exact ⟨fun equal => ⟨equal, Or.inr zero⟩, And.left⟩
    · rename_i other
      constructor
      · intro none
        cases none
      · rintro ⟨-, short | zero⟩
        · omega
        · exact absurd zero other

theorem mode_applySetting (config : CaptureConfig) (setting : List UInt8 × List UInt8) :
    (applySetting config setting).mode = (modeOf setting).getD config.mode := by
  obtain ⟨key, value⟩ := setting
  simp only [applySetting, modeOf]
  by_cases isMode : key = ascii "mode"
  · rw [if_pos isMode, if_pos isMode]
    cases namedMode value <;> rfl
  · rw [if_neg isMode, if_neg isMode, Option.getD_none]
    split <;> rfl

theorem copied_applySetting (last : UInt8) (value : List UInt8) (config : CaptureConfig)
    (setting : List UInt8 × List UInt8) (copied : Copied last value config.podNodeConfigPath) :
    Copied last ((pathOf setting).getD value) (applySetting config setting).podNodeConfigPath := by
  obtain ⟨key, other⟩ := setting
  simp only [applySetting, pathOf]
  by_cases isMode : key = ascii "mode"
  · have notPath : ¬ key = ascii "pod_node_config" := by
      rw [isMode]
      decide
    rw [if_pos isMode, if_neg notPath, Option.getD_none]
    cases namedMode other <;> exact copied
  · rw [if_neg isMode]
    by_cases isPath : key = ascii "pod_node_config"
    · rw [if_pos isPath, if_pos isPath, Option.getD_some]
      exact copied_strncpy last other _ copied.1
    · rw [if_neg isPath, if_neg isPath, Option.getD_none]
      exact copied

theorem getLastD_filterMap_cons {α β : Type} (f : α → Option β) (item : α) (rest : List α)
    (default : β) :
    ((item :: rest).filterMap f).getLastD default =
      (rest.filterMap f).getLastD ((f item).getD default) := by
  cases found : f item with
  | none => rw [List.filterMap_cons_none found, Option.getD_none]
  | some value => rw [List.filterMap_cons_some found, List.getLastD_cons, Option.getD_some]

theorem foldl_applySetting (last : UInt8) (settings : List (List UInt8 × List UInt8))
    (value : List UInt8) (config : CaptureConfig)
    (copied : Copied last value config.podNodeConfigPath) :
    (settings.foldl applySetting config).mode =
        (settings.filterMap modeOf).getLastD config.mode ∧
      Copied last ((settings.filterMap pathOf).getLastD value)
        (settings.foldl applySetting config).podNodeConfigPath := by
  induction settings generalizing value config with
  | nil => exact ⟨rfl, copied⟩
  | cons setting rest ih =>
      rw [List.foldl_cons, getLastD_filterMap_cons, getLastD_filterMap_cons,
        ← mode_applySetting config setting]
      exact ih _ _ (copied_applySetting last value config setting copied)

def SettingsFit (content : List UInt8) : Prop := ∀ piece ∈ reads 512 content, SettingFits piece

/-- The pieces leave the mode and the path that the lines name. -/
def LastSettingsAgree (content : List UInt8) : Prop :=
  lastMode ((reads 512 content).filterMap settingOf) =
      lastMode ((lines content).filterMap settingOf) ∧
    lastPath ((reads 512 content).filterMap settingOf) =
      lastPath ((lines content).filterMap settingOf)

/-- The path leaves room for a terminator, or there was one before. -/
def PathTerminated (content : List UInt8) (prior : CaptureConfig) : Prop :=
  (lastPath ((lines content).filterMap settingOf)).length < 255 ∨
    prior.podNodeConfigPath.lastByte = 0

theorem settingOfWords_value (found : List (List UInt8)) (key value : List UInt8)
    (setting : settingOfWords found = some (key, value)) (c : UInt8) (inside : c ∈ value) :
    ∃ word ∈ found, c ∈ word := by
  match found with
  | [] | [_] => cases setting
  | first :: sign :: more =>
      simp only [settingOfWords] at setting
      split at setting
      · split at setting
        · obtain ⟨word, next, same⟩ := Option.map_eq_some_iff.mp setting
          cases same
          have among := List.mem_of_mem_head? next
          exact ⟨value, List.mem_cons_of_mem _ (List.mem_cons_of_mem _ among), inside⟩
        · cases setting
          exact ⟨sign, List.mem_cons_of_mem _ List.mem_cons_self, List.mem_of_mem_tail inside⟩
      · cases setting

theorem settingOf_value (line : List UInt8) (noNul : 0 ∉ line) (fits : SettingFits line)
    (setting : List UInt8 × List UInt8) (sets : settingOf line = some setting) :
    0 ∉ setting.2 ∧ setting.2.length ≤ 255 := by
  rw [settingOf] at sets
  split at sets
  · cases sets
  · rename_i read
    refine ⟨fun zero => ?_, (fits read).2 setting sets⟩
    obtain ⟨word, among, inside⟩ := settingOfWords_value _ setting.1 setting.2 sets 0 zero
    exact noNul (mem_of_mem_words line word 0 among inside)

theorem lastPath_plain (settings : List (List UInt8 × List UInt8))
    (plain : ∀ setting ∈ settings, 0 ∉ setting.2 ∧ setting.2.length ≤ 255) :
    0 ∉ lastPath settings ∧ (lastPath settings).length ≤ 255 := by
  have default : 0 ∉ defaultPodNodeConfig ∧ defaultPodNodeConfig.length ≤ 255 := by decide
  have last : lastPath settings ∈ defaultPodNodeConfig :: settings.filterMap pathOf :=
    List.getLastD_mem_cons
  rcases List.mem_cons.mp last with same | among
  · rw [same]
    exact default
  · obtain ⟨setting, inSettings, path⟩ := List.mem_filterMap.mp among
    rw [pathOf] at path
    split at path
    · have value := plain setting inSettings
      rwa [Option.some.inj path] at value
    · cases path

theorem loadConfig_fits (content : List UInt8) (prior : CaptureConfig)
    (fits : SettingsFit content) :
    ∃ config, loadConfig (some content) prior = .ok (0, config) ∧
      config.mode = lastMode ((reads 512 content).filterMap settingOf) ∧
        Copied prior.podNodeConfigPath.lastByte
          (lastPath ((reads 512 content).filterMap settingOf)) config.podNodeConfigPath := by
  have start := copied_strncpy prior.podNodeConfigPath.lastByte defaultPodNodeConfig
    prior.podNodeConfigPath rfl
  have left := foldl_applySetting _ ((reads 512 content).filterMap settingOf) _
    ⟨.tlshub, prior.podNodeConfigPath.strncpy defaultPodNodeConfig⟩ start
  refine ⟨_, ?_, left.1, left.2⟩
  rw [loadConfig]
  simp only [foldlM_readSetting _ _ fits]
  rfl

theorem configMeets_iff_pieces (content : List UInt8) (noNul : 0 ∉ content)
    (prior : CaptureConfig) :
    ConfigMeets content prior ↔
      SettingsFit content ∧ LastSettingsAgree content ∧ PathTerminated content prior := by
  by_cases fits : SettingsFit content
  · obtain ⟨config, loaded, mode, copied⟩ := loadConfig_fits content prior fits
    have plain := lastPath_plain ((reads 512 content).filterMap settingOf) (by
      intro setting among
      obtain ⟨piece, inReads, sets⟩ := List.mem_filterMap.mp among
      have piecePlain : 0 ∉ piece := fun zero => by
        rw [← flatten_reads 512 (by decide) content] at noNul
        exact noNul (List.mem_flatten_of_mem inReads zero)
      exact settingOf_value piece piecePlain (fits piece inReads) setting sets)
    have path := copied.string_eq_some_iff _ _
      (lastPath ((lines content).filterMap settingOf)) _ plain.1 plain.2
    constructor
    · rintro ⟨config', loaded', mode', path'⟩
      cases loaded.symm.trans loaded'
      obtain ⟨samePath, terminated⟩ := path.mp path'
      rw [samePath] at terminated
      exact ⟨fits, ⟨mode.symm.trans mode', samePath⟩, terminated⟩
    · rintro ⟨-, ⟨sameMode, samePath⟩, terminated⟩
      refine ⟨config, loaded, mode.trans sameMode, path.mpr ⟨samePath, ?_⟩⟩
      rwa [samePath]
  · refine ⟨fun meets => ?_, fun meets => absurd meets.1 fits⟩
    obtain ⟨config, loaded, -⟩ := meets
    obtain ⟨overrun, fails⟩ := foldlM_readSetting_overrun (reads 512 content)
      ⟨.tlshub, prior.podNodeConfigPath.strncpy defaultPodNodeConfig⟩ fits
    rw [loadConfig] at loaded
    simp only [fails] at loaded
    cases loaded

theorem lastSettingsAgree_of_whole (content : List UInt8)
    (whole : ∀ line ∈ lines content, ReadWhole settingOf 512 line) :
    LastSettingsAgree content := by
  rw [LastSettingsAgree, reads_eq_flatMap 512 (by decide), filterMap_reads settingOf 512 _ whole]
  exact ⟨rfl, rfl⟩

/-- The configuration is what the file says exactly if the scanned words fit, the last
settings agree and the path is terminated, and they agree if all lines are read whole. -/
theorem configMeets_iff (content : List UInt8) (noNul : 0 ∉ content) (prior : CaptureConfig) :
    (ConfigMeets content prior ↔
      SettingsFit content ∧ LastSettingsAgree content ∧ PathTerminated content prior) ∧
        ((∀ line ∈ lines content, ReadWhole settingOf 512 line) → LastSettingsAgree content) :=
  ⟨configMeets_iff_pieces content noNul prior, lastSettingsAgree_of_whole content⟩

/-- What the stack may hold before. -/
def leftover : CaptureConfig := ⟨.unknown 7, ⟨List.replicate 256 255, List.length_replicate⟩⟩

def repeatedMode : List (List UInt8) :=
  [ascii "# capture", brokenComment, ascii "mode = boringssl", ascii "pod_node_config = /pods",
    ascii "mode = openssl"]

theorem repeatedMode_unbroken : ∀ body ∈ repeatedMode, 10 ∉ body := by
  simp only [repeatedMode, List.forall_mem_cons]
  exact ⟨by decide, brokenComment_unbroken, by decide⟩

theorem reads_repeatedMode :
    reads 512 (textOf repeatedMode) =
      [ascii "# capture\n", filledComment, [35, 10], ascii "mode = boringssl\n",
        ascii "pod_node_config = /pods\n", ascii "mode = openssl\n"] := by
  rw [reads_textOf 512 (by decide) repeatedMode repeatedMode_unbroken]
  simp only [repeatedMode, List.flatMap_cons, List.flatMap_nil, reads_brokenComment]
  rw [reads_fits 512 (ascii "# capture") (by decide) (by decide),
    reads_fits 512 (ascii "mode = boringssl") (by decide) (by decide),
    reads_fits 512 (ascii "pod_node_config = /pods") (by decide) (by decide),
    reads_fits 512 (ascii "mode = openssl") (by decide) (by decide)]
  rfl

theorem repeated_mode_meets : ConfigMeets (textOf repeatedMode) leftover := by
  have noNul : 0 ∉ textOf repeatedMode := by
    refine not_mem_textOf 0 (by decide) repeatedMode ?_
    simp only [repeatedMode, List.forall_mem_cons]
    exact ⟨by decide, List.not_mem_append filledComment_noNul (by decide), by decide⟩
  have fits : SettingsFit (textOf repeatedMode) := by
    rw [SettingsFit, reads_repeatedMode]
    simp only [List.forall_mem_cons]
    exact ⟨fun _ => by decide, fun read => absurd (Or.inr rfl) read, fun _ => by decide,
      fun _ => by decide, fun _ => by decide, fun _ => by decide, List.forall_mem_nil _⟩
  have whole : ∀ line ∈ lines (textOf repeatedMode), ReadWhole settingOf 512 line := by
    rw [lines_textOf repeatedMode repeatedMode_unbroken, List.forall_mem_map]
    simp only [repeatedMode, List.forall_mem_cons]
    have short := readWhole_of_fits settingOf 512
    exact ⟨short _ (by decide) (by decide),
      readWhole_brokenComment settingOf fun line skipped => if_pos skipped,
      short _ (by decide) (by decide), short _ (by decide) (by decide),
      short _ (by decide) (by decide), List.forall_mem_nil _⟩
  have meets := configMeets_iff (textOf repeatedMode) noNul leftover
  have agree := meets.2 whole
  have terminated : PathTerminated (textOf repeatedMode) leftover := by
    rw [PathTerminated, ← agree.2, reads_repeatedMode]
    exact Or.inl (by decide)
  exact meets.1.mpr ⟨fits, agree, terminated⟩

def commentedSetting : List UInt8 := filledComment ++ ascii "mode = openssl\n"

def longPath : List UInt8 :=
  ascii "pod_node_config" ++ (32 :: 61 :: 32 :: (List.replicate 255 97 ++ [10]))

theorem words_longPath :
    words longPath = [ascii "pod_node_config", [61], List.replicate 255 97] := by
  have key := words_word_blank (ascii "pod_node_config") 32
    (61 :: 32 :: (List.replicate 255 97 ++ [10])) (unbroken_of_all _ (by decide)) (by decide) rfl
  have sign := words_word_blank [61] 32 (List.replicate 255 97 ++ [10])
    (unbroken_of_all _ rfl) (List.cons_ne_nil _ _) rfl
  have value := words_word_blank (List.replicate 255 97) 10 []
    (unbroken_replicate 255 97 rfl) (List.cons_ne_nil _ _) rfl
  rw [List.singleton_append] at sign
  rw [longPath, key, sign, value]
  rfl

theorem longPath_sets :
    (lines longPath).filterMap settingOf =
      [(ascii "pod_node_config", List.replicate 255 97)] := by
  have unbroken : 10 ∉ ascii "pod_node_config" ++ (32 :: 61 :: 32 :: List.replicate 255 97) := by
    simp only [List.mem_append, List.mem_cons, List.mem_replicate]
    decide
  have split : longPath =
      (ascii "pod_node_config" ++ (32 :: 61 :: 32 :: List.replicate 255 97)) ++ 10 :: [] := by
    rw [longPath, List.append_assoc]
    rfl
  have read : ¬ Skipped longPath := by
    rintro (lineBreak | comment)
    · cases lineBreak
    · cases comment
  have sets : settingOf longPath = some (ascii "pod_node_config", List.replicate 255 97) := by
    rw [settingOf, if_neg read, words_longPath]
    rfl
  have single : lines longPath = [longPath] := by
    rw [split, lines_terminated _ [] unbroken]
    rfl
  rw [single, List.filterMap_cons_some sets, List.filterMap_nil]

/-- The rest of the comment is read as a setting, and the long path is not terminated. -/
theorem long_settings_not_met :
    ¬ ConfigMeets commentedSetting leftover ∧ ¬ ConfigMeets longPath leftover := by
  constructor
  · intro meets
    have noNul : 0 ∉ commentedSetting := List.not_mem_append filledComment_noNul (by decide)
    have agree := ((configMeets_iff_pieces commentedSetting noNul leftover).mp meets).2.1.1
    have comment : settingOf commentedSetting = none := if_pos (skipped_filledComment _)
    have start : settingOf filledComment = none := if_pos (Or.inr rfl)
    have single : lines commentedSetting = [commentedSetting] :=
      lines_filledComment (ascii "mode = openssl") (by decide)
    rw [single, List.filterMap_cons_none comment, commentedSetting, reads_filledComment,
      List.filterMap_cons_none start, reads_line 512 _ (by decide) (by decide) (by decide)] at agree
    exact absurd agree (by decide)
  · intro meets
    have noNul : 0 ∉ longPath := by
      simp only [longPath, List.mem_append, List.mem_cons, List.mem_replicate]
      decide
    have terminated := ((configMeets_iff_pieces longPath noNul leftover).mp meets).2.2
    have path : lastPath [(ascii "pod_node_config", List.replicate 255 97)] =
        List.replicate 255 97 := by
      have sets : pathOf (ascii "pod_node_config", List.replicate 255 97) =
          some (List.replicate 255 97) := if_pos rfl
      rw [lastPath, List.filterMap_cons_some sets]
      rfl
    rw [PathTerminated, longPath_sets, path, List.length_replicate] at terminated
    exact absurd terminated (by decide)

end TlshubEbpf.Capture
