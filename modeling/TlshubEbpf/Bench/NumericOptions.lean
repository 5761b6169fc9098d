import TlshubEbpf.Bench.Options

/-! # Numeric options of the benchmark (`main.c`)

An argument is taken apart into white space, a sign, digits and what follows them.  The
documentation asks for the digits alone, in a range; the conversions pass over some of
the rest, and reduce the number modulo 2^64 or 2^32 before the range is checked. -/

set_option autoImplicit false

namespace TlshubEbpf.Bench

open Lib

def signedValue (numeral : Numeral) : Int :=
  if numeral.sign = .minus then -(decimalValue numeral.digits : Int)
  else decimalValue numeral.digits

theorem strtoul_no_digits (text : List UInt8) (digits : (scanNumeral text).digits = []) :
    strtoul text = (0, text) := by
  rw [strtoul, if_pos digits]

theorem endptr_strtoul (text : List UInt8) (digits : (scanNumeral text).digits ≠ []) :
    (strtoul text).2 = (scanNumeral text).rest := by
  simp only [strtoul]
  rw [if_neg digits]
  split
  · rfl
  · split <;> rfl

theorem toNat_strtoul (text : List UInt8) (digits : (scanNumeral text).digits ≠ []) :
    (strtoul text).1.toNat =
      if decimalValue (scanNumeral text).digits ≥ 2 ^ 64 then 2 ^ 64 - 1
      else (signedValue (scanNumeral text) % 2 ^ 64).toNat := by
  simp only [strtoul, signedValue]
  rw [if_neg digits]
  generalize decimalValue (scanNumeral text).digits = value
  have size : UInt64.size = 18446744073709551616 := rfl
  by_cases large : value ≥ 2 ^ 64
  · rw [if_pos large, if_pos large, UInt64.toNat_ofNat']
    rfl
  · rw [if_neg large, if_neg large]
    split
    · rw [UInt64.toNat_neg, UInt64.toNat_ofNat', size]
      omega
    · rw [UInt64.toNat_ofNat']
      omega

theorem parsePort_no_digits (optarg : List UInt8) (digits : (scanNumeral optarg).digits = []) :
    parsePort optarg = none := by
  have endptr : (strtoul optarg).2 = optarg := by rw [strtoul_no_digits optarg digits]
  exact if_pos (Or.inr (Or.inl endptr))

theorem parsePort_digits (optarg : List UInt8) (digits : (scanNumeral optarg).digits ≠ []) :
    parsePort optarg =
      if (scanNumeral optarg).rest = [] ∧ 1 ≤ (strtoul optarg).1.toNat ∧
          (strtoul optarg).1.toNat ≤ 65535 then
        some (strtoul optarg).1.toUInt16
      else none := by
  have nonempty : optarg ≠ [] := by
    rintro rfl
    exact digits rfl
  have zero : (strtoul optarg).1 = 0 ↔ (strtoul optarg).1.toNat = 0 := by
    rw [← UInt64.toNat_inj]
    rfl
  have above : (strtoul optarg).1 > 65535 ↔ 65535 < (strtoul optarg).1.toNat := by
    rw [gt_iff_lt, UInt64.lt_iff_toNat_lt]
    rfl
  simp only [parsePort]
  rw [endptr_strtoul optarg digits]
  by_cases valid : (scanNumeral optarg).rest = [] ∧ 1 ≤ (strtoul optarg).1.toNat ∧
      (strtoul optarg).1.toNat ≤ 65535
  · obtain ⟨rest, positive, bounded⟩ := valid
    have passes : ¬ (optarg = [] ∨ (scanNumeral optarg).rest = optarg ∨
        (scanNumeral optarg).rest ≠ [] ∨ (strtoul optarg).1 = 0 ∨ (strtoul optarg).1 > 65535) := by
      rw [zero, above, rest]
      rintro (empty | same | more | range)
      · exact nonempty empty
      · exact nonempty same.symm
      · exact more rfl
      · omega
    rw [if_neg passes, if_pos ⟨rest, positive, bounded⟩]
  · rw [if_neg valid, if_pos]
    by_cases rest : (scanNumeral optarg).rest = []
    · rw [zero, above]
      have outside : ¬ (1 ≤ (strtoul optarg).1.toNat ∧ (strtoul optarg).1.toNat ≤ 65535) :=
        fun inside => valid ⟨rest, inside⟩
      omega
    · exact Or.inr (Or.inr (Or.inl rest))

/-- White space and a sign are passed over, and what follows the digits is not. -/
theorem parsePort_eq_some_iff (optarg : List UInt8) (port : UInt16) :
    parsePort optarg = some port ↔
      (scanNumeral optarg).digits ≠ [] ∧ (scanNumeral optarg).rest = [] ∧
        decimalValue (scanNumeral optarg).digits < 2 ^ 64 ∧ 1 ≤ port.toNat ∧
          signedValue (scanNumeral optarg) % 2 ^ 64 = port.toNat := by
  by_cases digits : (scanNumeral optarg).digits = []
  · rw [parsePort_no_digits optarg digits]
    constructor
    · intro accepted
      cases accepted
    · intro numeral
      exact absurd digits numeral.1
  have value := toNat_strtoul optarg digits
  have portBound := port.toNat_lt
  have cut : (strtoul optarg).1.toUInt16.toNat = (strtoul optarg).1.toNat % 2 ^ 16 :=
    UInt64.toNat_toUInt16 _
  rw [parsePort_digits optarg digits]
  constructor
  · intro accepted
    split at accepted
    · rename_i valid
      obtain ⟨rest, positive, bounded⟩ := valid
      cases accepted
      rw [cut]
      split at value
      · omega
      · exact ⟨digits, rest, by omega, by omega, by omega⟩
    · cases accepted
  · rintro ⟨-, rest, small, positive, same⟩
    rw [if_neg (by omega)] at value
    rw [if_pos ⟨rest, by omega, by omega⟩, Option.some.injEq, ← UInt16.toNat_inj, cut]
    omega

theorem strtol_digits (text : List UInt8) (digits : (scanNumeral text).digits ≠ []) :
    (strtol text).1 = max (min (signedValue (scanNumeral text)) (2 ^ 63 - 1)) (-2 ^ 63) := by
  simp only [strtol, signedValue]
  rw [if_neg digits]
  split <;> dsimp only <;> omega

theorem atoi_no_digits (text : List UInt8) (digits : (scanNumeral text).digits = []) :
    atoi text = 0 := by
  have zero : (strtol text).1 = 0 := by rw [strtol, if_pos digits]
  rw [atoi, zero]
  rfl

theorem atoi_bounds (text : List UInt8) : -2 ^ 31 ≤ atoi text ∧ atoi text < 2 ^ 31 :=
  ⟨Int.le_bmod (by decide), Int.bmod_lt (by decide)⟩

/-- What follows the digits is passed over too, and the clamped numbers become -1 and 0. -/
theorem atoi_eq_iff (text : List UInt8) (value : Int) (positive : 1 ≤ value)
    (bounded : value < 2 ^ 31) :
    atoi text = value ↔
      (scanNumeral text).digits ≠ [] ∧ -2 ^ 63 ≤ signedValue (scanNumeral text) ∧
        signedValue (scanNumeral text) < 2 ^ 63 ∧
          signedValue (scanNumeral text) % 2 ^ 32 = value := by
  by_cases digits : (scanNumeral text).digits = []
  · rw [atoi_no_digits text digits]
    constructor
    · intro zero
      omega
    · intro numeral
      exact absurd digits numeral.1
  rw [atoi, strtol_digits text digits, Int.bmod_def]
  generalize signedValue (scanNumeral text) = signed
  constructor
  · intro same
    exact ⟨digits, by omega, by omega, by omega⟩
  · rintro ⟨-, low, high, same⟩
    omega

/-! ## The options -/

inductive NumericOption where
  | targetPort
  | listenPort
  | dataSize
  | concurrency
  | totalConnections
  deriving DecidableEq, Repr

namespace NumericOption

def option : NumericOption → List UInt8 → CommandOption
  | targetPort => .targetPort
  | listenPort => .listenPort
  | dataSize => .dataSize
  | concurrency => .concurrency
  | totalConnections => .totalConnections

/-- The upper end of the range in the error message. -/
def limit : NumericOption → ℕ
  | targetPort | listenPort => 65535
  | dataSize => 10485760
  | concurrency => 1000
  | totalConnections => 10000

def field (config : BenchConfig) : NumericOption → Int
  | targetPort => config.targetPort.toNat
  | listenPort => config.listenPort.toNat
  | dataSize => config.dataSize.bytes
  | concurrency => config.concurrency
  | totalConnections => config.totalConnections

def stored (kind : NumericOption) (config : BenchConfig) (optarg : List UInt8) : Option Int :=
  (applyOption config (kind.option optarg)).toOption.map fun config => kind.field config

def documented (kind : NumericOption) (optarg : List UInt8) : Option Int :=
  if IsNumeral optarg ∧ 1 ≤ decimalValue optarg ∧ decimalValue optarg ≤ kind.limit then
    some (decimalValue optarg : Int)
  else
    none

def modulus : NumericOption → Int
  | targetPort | listenPort => 2 ^ 64
  | dataSize | concurrency | totalConnections => 2 ^ 32

/-- The parts that the conversion takes without clamping, and that pass the check of
`endptr` where there is one. -/
def Converts (numeral : Numeral) : NumericOption → Prop
  | targetPort | listenPort => numeral.rest = [] ∧ decimalValue numeral.digits < 2 ^ 64
  | dataSize | concurrency | totalConnections =>
      -2 ^ 63 ≤ signedValue numeral ∧ signedValue numeral < 2 ^ 63

/-- The argument is reduced to a number in the range, and is not the numeral of it. -/
structure Disguised (kind : NumericOption) (optarg : List UInt8) : Prop where
  digits : (scanNumeral optarg).digits ≠ []
  converts : kind.Converts (scanNumeral optarg)
  positive : 1 ≤ signedValue (scanNumeral optarg) % kind.modulus
  bounded : signedValue (scanNumeral optarg) % kind.modulus ≤ kind.limit
  other : ¬ (IsNumeral optarg ∧ decimalValue optarg ≤ kind.limit)

section Stored
variable (config : BenchConfig) (optarg : List UInt8)

theorem stored_targetPort :
    targetPort.stored config optarg = (parsePort optarg).map fun port => (port.toNat : Int) := by
  simp only [stored, option, applyOption]
  cases parsePort optarg <;> rfl

theorem stored_listenPort :
    listenPort.stored config optarg = (parsePort optarg).map fun port => (port.toNat : Int) := by
  simp only [stored, option, applyOption]
  cases parsePort optarg <;> rfl

theorem stored_dataSize :
    dataSize.stored config optarg =
      if atoi optarg ≤ 0 ∨ atoi optarg > 10485760 then none else some (atoi optarg) := by
  have bounds := atoi_bounds optarg
  have accepts := DataSize.ofAtoi_eq_some_iff (atoi optarg) bounds
  simp only [stored, option, applyOption]
  cases checked : DataSize.ofAtoi (atoi optarg) with
  | none =>
      by_cases outside : atoi optarg ≤ 0 ∨ atoi optarg > 10485760
      · rw [if_pos outside]
        rfl
      · have accepted := (accepts ⟨(atoi optarg).toNat, by omega, by omega⟩).mpr
          (by dsimp only; omega)
        rw [checked] at accepted
        cases accepted
  | some size =>
      have same := (accepts size).mp checked
      have positive := size.positive
      have bounded := size.bounded
      rw [if_neg (by omega), same]
      rfl

theorem stored_concurrency :
    concurrency.stored config optarg =
      if atoi optarg ≤ 0 ∨ atoi optarg > 1000 then none else some (atoi optarg) := by
  simp only [stored, option, applyOption]
  split <;> rfl

theorem stored_totalConnections :
    totalConnections.stored config optarg =
      if atoi optarg ≤ 0 ∨ atoi optarg > maxConnections then none else some (atoi optarg) := by
  simp only [stored, option, applyOption]
  split <;> rfl

theorem map_parsePort_eq_some_iff (value : Int) :
    ((parsePort optarg).map fun port => (port.toNat : Int)) = some value ↔
      (scanNumeral optarg).digits ≠ [] ∧ (scanNumeral optarg).rest = [] ∧
        decimalValue (scanNumeral optarg).digits < 2 ^ 64 ∧ 1 ≤ value ∧ value ≤ 65535 ∧
          signedValue (scanNumeral optarg) % 2 ^ 64 = value := by
  rw [Option.map_eq_some_iff]
  constructor
  · rintro ⟨port, accepted, rfl⟩
    have ⟨digits, rest, small, positive, same⟩ := (parsePort_eq_some_iff optarg port).mp accepted
    have bound := port.toNat_lt
    exact ⟨digits, rest, small, by omega, by omega, same⟩
  · rintro ⟨digits, rest, small, positive, bounded, same⟩
    have toNat : (UInt16.ofNat value.toNat).toNat = value.toNat := by
      rw [UInt16.toNat_ofNat']
      omega
    refine ⟨UInt16.ofNat value.toNat, (parsePort_eq_some_iff optarg _).mpr ?_, by omega⟩
    exact ⟨digits, rest, small, by omega, by omega⟩

theorem stored_eq_some_iff (kind : NumericOption) (value : Int) :
    kind.stored config optarg = some value ↔
      (scanNumeral optarg).digits ≠ [] ∧ kind.Converts (scanNumeral optarg) ∧ 1 ≤ value ∧
        value ≤ kind.limit ∧ signedValue (scanNumeral optarg) % kind.modulus = value := by
  have ranged : ∀ limit : Int, limit < 2 ^ 31 →
      ((if atoi optarg ≤ 0 ∨ atoi optarg > limit then none else some (atoi optarg)) =
        some value ↔ (scanNumeral optarg).digits ≠ [] ∧
          (-2 ^ 63 ≤ signedValue (scanNumeral optarg) ∧
            signedValue (scanNumeral optarg) < 2 ^ 63) ∧ 1 ≤ value ∧ value ≤ limit ∧
              signedValue (scanNumeral optarg) % 2 ^ 32 = value) := by
    intro limit small
    have accepts := atoi_eq_iff optarg value
    constructor
    · intro accepted
      split at accepted
      · cases accepted
      · cases accepted
        have ⟨digits, low, high, same⟩ := (accepts (by omega) (by omega)).mp rfl
        exact ⟨digits, ⟨low, high⟩, by omega, by omega, same⟩
    · rintro ⟨digits, ⟨low, high⟩, positive, bounded, same⟩
      have reads := (accepts positive (by omega)).mpr ⟨digits, low, high, same⟩
      rw [if_neg (by omega), reads]
  cases kind with
  | targetPort =>
      rw [stored_targetPort, map_parsePort_eq_some_iff]
      simp only [Converts, limit, modulus, and_assoc]
      rfl
  | listenPort =>
      rw [stored_listenPort, map_parsePort_eq_some_iff]
      simp only [Converts, limit, modulus, and_assoc]
      rfl
  | dataSize => exact (stored_dataSize config optarg).symm ▸ ranged 10485760 (by decide)
  | concurrency => exact (stored_concurrency config optarg).symm ▸ ranged 1000 (by decide)
  | totalConnections =>
      exact (stored_totalConnections config optarg).symm ▸ ranged maxConnections (by decide)

theorem stored_numeral (kind : NumericOption) (numeral : IsNumeral optarg)
    (positive : 1 ≤ decimalValue optarg) (bounded : decimalValue optarg ≤ kind.limit) :
    kind.stored config optarg = some (decimalValue optarg : Int) := by
  have small : kind.limit ≤ 10485760 := by cases kind <;> decide
  rw [stored_eq_some_iff, scanNumeral_of_isNumeral optarg numeral]
  refine ⟨numeral.1, ?_, by omega, by omega, ?_⟩
  · cases kind
    case targetPort | listenPort => exact ⟨rfl, by dsimp only; omega⟩
    all_goals
      simp only [Converts, signedValue, reduceCtorEq, if_false]
      omega
  · simp only [signedValue, reduceCtorEq, if_false]
    cases kind <;> simp only [modulus] <;> omega

theorem stored_ne_none_iff (kind : NumericOption) :
    kind.stored config optarg ≠ none ↔
      (scanNumeral optarg).digits ≠ [] ∧ kind.Converts (scanNumeral optarg) ∧
        1 ≤ signedValue (scanNumeral optarg) % kind.modulus ∧
          signedValue (scanNumeral optarg) % kind.modulus ≤ kind.limit := by
  rw [Option.ne_none_iff_exists']
  constructor
  · rintro ⟨value, accepted⟩
    obtain ⟨digits, converts, positive, bounded, same⟩ :=
      (stored_eq_some_iff config optarg kind value).mp accepted
    exact ⟨digits, converts, same ▸ positive, same ▸ bounded⟩
  · rintro ⟨digits, converts, positive, bounded⟩
    exact ⟨_, (stored_eq_some_iff config optarg kind _).mpr
      ⟨digits, converts, positive, bounded, rfl⟩⟩

/-- The documentation describes what happens to an argument, unless it is disguised. -/
theorem stored_eq_documented_iff (kind : NumericOption) :
    kind.stored config optarg = kind.documented optarg ↔ ¬ kind.Disguised optarg := by
  by_cases accurate : IsNumeral optarg ∧ decimalValue optarg ≤ kind.limit
  · refine ⟨fun _ disguised => disguised.other accurate, fun _ => ?_⟩
    obtain ⟨numeral, bounded⟩ := accurate
    rcases Nat.eq_zero_or_pos (decimalValue optarg) with zero | positive
    · have refused : ¬ (IsNumeral optarg ∧ 1 ≤ decimalValue optarg ∧
          decimalValue optarg ≤ kind.limit) := by omega
      rw [documented, if_neg refused]
      by_contra accepted
      have positive := ((stored_ne_none_iff config optarg kind).mp accepted).2.2.1
      rw [scanNumeral_of_isNumeral optarg numeral] at positive
      simp only [signedValue, reduceCtorEq, if_false, zero, Nat.cast_zero,
        Int.zero_emod] at positive
      omega
    · rw [documented, if_pos ⟨numeral, positive, bounded⟩,
        stored_numeral config optarg kind numeral positive bounded]
  · have refused : kind.documented optarg = none :=
      if_neg fun accepted => accurate ⟨accepted.1, accepted.2.2⟩
    rw [refused, ← not_iff_not, not_not, ← ne_eq, stored_ne_none_iff]
    constructor
    · rintro ⟨digits, converts, positive, bounded⟩
      exact ⟨digits, converts, positive, bounded, accurate⟩
    · intro disguised
      exact ⟨disguised.digits, disguised.converts, disguised.positive, disguised.bounded⟩

/-- Letters after the digits, a leading blank, a number beyond 2^32. -/
theorem disguised_arguments_stored :
    dataSize.stored (initConfig 0 0 1) (ascii "10abc") = some 10 ∧
      dataSize.documented (ascii "10abc") = none ∧
        targetPort.stored (initConfig 0 0 1) (ascii " 80") = some 80 ∧
          targetPort.documented (ascii " 80") = none ∧
            totalConnections.stored (initConfig 0 0 1) (ascii "4294967297") = some 1 ∧
              totalConnections.documented (ascii "4294967297") = none := by
  decide

end Stored

end NumericOption

end TlshubEbpf.Bench
