import Mathlib.Algebra.Field.Rat
import Mathlib.Algebra.Order.Floor.Ring
import Mathlib.Data.Rat.Floor
import Mathlib.Tactic.FieldSimp
import Mathlib.Tactic.Ring

/-! # Decimal numbers as text

Printed as `printf` prints them: a number with a fraction is rounded to the digits
that are asked for, to the even one of two that are equally near.  Read as JSON
reads them: sign, whole part without leading zeros, fraction, exponent. -/

set_option autoImplicit false

namespace TlshubEbpf.Lib

def decimal (n : ℕ) : List Char := Nat.toDigits 10 n

def signedDecimal (value : ℤ) : List Char :=
  if value < 0 then '-' :: decimal value.natAbs else decimal value.natAbs

def roundHalfEven (x : ℚ) : ℤ :=
  if x - ⌊x⌋ < 1 / 2 then ⌊x⌋
  else if x - ⌊x⌋ > 1 / 2 then ⌊x⌋ + 1
  else if ⌊x⌋ % 2 = 0 then ⌊x⌋
  else ⌊x⌋ + 1

/-- The number in units of its last printed digit, without its sign. -/
def printedUnits (digits : ℕ) (x : ℚ) : ℕ := (roundHalfEven (|x| * 10 ^ digits)).toNat

def roundTo (digits : ℕ) (x : ℚ) : ℚ :=
  if x < 0 then -((printedUnits digits x : ℚ) / 10 ^ digits)
  else (printedUnits digits x : ℚ) / 10 ^ digits

def fixedDecimal (digits : ℕ) (x : ℚ) : List Char :=
  (if x < 0 then ['-'] else []) ++ (decimal (printedUnits digits x / 10 ^ digits) ++
    '.' :: (decimal (printedUnits digits x % 10 ^ digits)).leftpad digits '0')

def readExponent : List Char → Option ℤ
  | [] => some 0
  | c :: rest =>
      if c = 'e' ∨ c = 'E' then
        match rest with
        | '-' :: digits =>
            if digits ≠ [] ∧ digits.all Char.isDigit then
              some (-(Nat.ofDigitChars 10 digits 0))
            else none
        | '+' :: digits =>
            if digits ≠ [] ∧ digits.all Char.isDigit then some (Nat.ofDigitChars 10 digits 0)
            else none
        | digits =>
            if digits ≠ [] ∧ digits.all Char.isDigit then some (Nat.ofDigitChars 10 digits 0)
            else none
      else
        none

/-- After the digits of the whole part. -/
def readFraction (whole : List Char) : List Char → Option ℚ
  | '.' :: rest =>
      let fraction := rest.takeWhile Char.isDigit
      if fraction = [] then
        none
      else
        (readExponent (rest.dropWhile Char.isDigit)).map fun exponent =>
          (Nat.ofDigitChars 10 (whole ++ fraction) 0 : ℚ) / 10 ^ fraction.length * 10 ^ exponent
  | rest =>
      (readExponent rest).map fun exponent =>
        (Nat.ofDigitChars 10 whole 0 : ℚ) * 10 ^ exponent

def readUnsigned (text : List Char) : Option ℚ :=
  let whole := text.takeWhile Char.isDigit
  if whole = [] ∨ (whole.head? = some '0' ∧ whole.length ≠ 1) then none
  else readFraction whole (text.dropWhile Char.isDigit)

def readNumber : List Char → Option ℚ
  | '-' :: rest => (readUnsigned rest).map (-·)
  | text => readUnsigned text

theorem roundHalfEven_near (x : ℚ) : |(roundHalfEven x : ℚ) - x| ≤ 1 / 2 := by
  have below := Int.floor_le x
  have above := Int.lt_floor_add_one x
  unfold roundHalfEven
  split
  · rw [abs_le]
    constructor <;> linarith
  · split
    · rw [abs_le]
      push_cast
      constructor <;> linarith
    · split <;> (rw [abs_le]; push_cast; constructor <;> linarith)

theorem roundHalfEven_nonneg (x : ℚ) (nonneg : 0 ≤ x) : 0 ≤ roundHalfEven x := by
  have floor := Int.floor_nonneg.mpr nonneg
  unfold roundHalfEven
  split
  · exact floor
  · split
    · omega
    · split <;> omega

/-- The error is at most half a unit of the last digit. -/
theorem roundTo_near (digits : ℕ) (x : ℚ) : |roundTo digits x - x| ≤ 1 / 2 / 10 ^ digits := by
  have scale : (0 : ℚ) < 10 ^ digits := by positivity
  have units : ((printedUnits digits x : ℕ) : ℚ) = roundHalfEven (|x| * 10 ^ digits) := by
    rw [printedUnits, ← Int.cast_natCast, Int.toNat_of_nonneg]
    exact roundHalfEven_nonneg _ (by positivity)
  have magnitude : |(printedUnits digits x : ℚ) / 10 ^ digits - (|x|)| ≤ 1 / 2 / 10 ^ digits := by
    rw [units, div_sub' scale.ne', abs_div, abs_of_pos scale, mul_comm (10 ^ digits) |x|]
    exact div_le_div_of_nonneg_right (roundHalfEven_near _) scale.le
  unfold roundTo
  split
  · rename_i negative
    rw [abs_of_neg negative] at magnitude
    rwa [← neg_add', abs_neg, ← sub_neg_eq_add]
  · rename_i nonneg
    rwa [abs_of_nonneg (not_lt.mp nonneg)] at magnitude

theorem decimal_digits (n : ℕ) : ∀ c ∈ decimal n, c.isDigit = true := fun _ member =>
  Nat.isDigit_of_mem_toDigits (by decide) (by decide) member

theorem decimal_ne_nil (n : ℕ) : decimal n ≠ [] := Nat.toDigits_ne_nil

theorem ofDigitChars_decimal (n : ℕ) : Nat.ofDigitChars 10 (decimal n) 0 = n :=
  Nat.ofDigitChars_ten_toDigits

theorem head_decimal_pos (n : ℕ) (positive : 0 < n) : (decimal n).head? ≠ some '0' := by
  induction n using Nat.strong_induction_on with
  | _ n ih =>
      unfold decimal at ih ⊢
      rw [Nat.toDigits_eq_if (by decide)]
      split
      · rename_i small
        have digit : ∀ d < 10, 0 < d → Nat.digitChar d ≠ '0' := by decide
        simpa using digit n small positive
      · rename_i large
        have earlier := ih (n / 10) (by omega) (by omega)
        rw [List.head?_append_of_ne_nil _ Nat.toDigits_ne_nil]
        exact earlier

theorem decimal_wellFormed (n : ℕ) :
    ¬ (decimal n = [] ∨ ((decimal n).head? = some '0' ∧ (decimal n).length ≠ 1)) := by
  rintro (empty | ⟨zero, long⟩)
  · exact decimal_ne_nil n empty
  · rcases Nat.eq_zero_or_pos n with rfl | positive
    · exact long rfl
    · exact head_decimal_pos n positive zero

theorem takeWhile_digits (digits rest : List Char) (isDigits : ∀ c ∈ digits, c.isDigit = true)
    (stops : ∀ c, rest.head? = some c → c.isDigit = false) :
    (digits ++ rest).takeWhile Char.isDigit = digits ∧
      (digits ++ rest).dropWhile Char.isDigit = rest := by
  rw [List.takeWhile_append_of_pos isDigits, List.dropWhile_append_of_pos isDigits]
  cases rest with
  | nil => simp
  | cons c rest =>
      have stop := stops c rfl
      rw [List.takeWhile_cons_of_neg (by simp [stop]), List.dropWhile_cons_of_neg (by simp [stop]),
        List.append_nil]
      exact ⟨rfl, rfl⟩

theorem leftpad_digits (digits n : ℕ) :
    ∀ c ∈ (decimal n).leftpad digits '0', c.isDigit = true := by
  intro c member
  rcases List.mem_append.mp member with pad | printed
  · rw [List.eq_of_mem_replicate pad]
    rfl
  · exact decimal_digits n c printed

theorem length_leftpad_decimal (digits n : ℕ) (positive : 0 < digits) (fits : n < 10 ^ digits) :
    ((decimal n).leftpad digits '0').length = digits := by
  have short := (Nat.length_toDigits_le_iff (b := 10) (n := n) (by decide) positive).mpr fits
  rw [List.length_leftpad]
  exact max_eq_left short

theorem ofDigitChars_leftpad (digits n init : ℕ) (positive : 0 < digits)
    (fits : n < 10 ^ digits) :
    Nat.ofDigitChars 10 ((decimal n).leftpad digits '0') init = 10 ^ digits * init + n := by
  rw [Nat.ofDigitChars_eq_ofDigitChars_zero, length_leftpad_decimal digits n positive fits,
    List.leftpad, Nat.ofDigitChars_append, Nat.ofDigitChars_replicate_zero, Nat.mul_zero,
    ofDigitChars_decimal]

/-! ## Reading what is printed -/

theorem readUnsigned_decimal (n : ℕ) : readUnsigned (decimal n) = some (n : ℚ) := by
  obtain ⟨taken, dropped⟩ := takeWhile_digits (decimal n) [] (decimal_digits n)
    fun c none => nomatch none
  rw [List.append_nil] at taken dropped
  simp only [readUnsigned]
  rw [taken, dropped, if_neg (decimal_wellFormed n)]
  simp [readFraction, readExponent, ofDigitChars_decimal]

theorem readUnsigned_fixed (digits units : ℕ) (positive : 0 < digits) :
    readUnsigned (decimal (units / 10 ^ digits) ++
        '.' :: (decimal (units % 10 ^ digits)).leftpad digits '0') =
      some ((units : ℚ) / 10 ^ digits) := by
  have fits : units % 10 ^ digits < 10 ^ digits := Nat.mod_lt _ (Nat.pow_pos (by decide))
  obtain ⟨taken, dropped⟩ := takeWhile_digits (decimal (units / 10 ^ digits))
    ('.' :: (decimal (units % 10 ^ digits)).leftpad digits '0') (decimal_digits _)
    fun c point => by cases point; rfl
  obtain ⟨fraction, none⟩ := takeWhile_digits ((decimal (units % 10 ^ digits)).leftpad digits '0')
    [] (leftpad_digits digits _) fun c none => nomatch none
  rw [List.append_nil] at fraction none
  have length := length_leftpad_decimal digits _ positive fits
  have some : (decimal (units % 10 ^ digits)).leftpad digits '0' ≠ [] := by
    intro empty
    rw [empty] at length
    exact absurd length.symm (Nat.pos_iff_ne_zero.mp positive)
  have value : Nat.ofDigitChars 10 (decimal (units / 10 ^ digits) ++
      (decimal (units % 10 ^ digits)).leftpad digits '0') 0 = units := by
    rw [Nat.ofDigitChars_append, ofDigitChars_decimal,
      ofDigitChars_leftpad digits _ _ positive fits]
    exact Nat.div_add_mod units (10 ^ digits)
  simp only [readUnsigned]
  rw [taken, dropped, if_neg (decimal_wellFormed _)]
  simp only [readFraction]
  rw [fraction, none, if_neg some, value, length]
  simp [readExponent]

theorem readNumber_unsigned (text : List Char) (noSign : text.head? ≠ some '-') :
    readNumber text = readUnsigned text := by
  cases text with
  | nil => rfl
  | cons c rest =>
      have other : c ≠ '-' := fun minus => noSign (congrArg some minus)
      unfold readNumber
      split
      · rename_i same
        exact absurd (List.cons.inj same).1 other
      · rfl

theorem head_decimal_ne_minus (n : ℕ) (rest : List Char) :
    (decimal n ++ rest).head? ≠ some '-' := by
  rw [List.head?_append_of_ne_nil _ (decimal_ne_nil n)]
  intro minus
  have digit := decimal_digits n '-' (List.mem_of_mem_head? minus)
  exact absurd digit (by decide)

theorem readNumber_decimal (n : ℕ) : readNumber (decimal n) = some (n : ℚ) := by
  have noSign := head_decimal_ne_minus n []
  rw [List.append_nil] at noSign
  rw [readNumber_unsigned _ noSign, readUnsigned_decimal]

theorem readNumber_signedDecimal (value : ℤ) :
    readNumber (signedDecimal value) = some (value : ℚ) := by
  unfold signedDecimal
  split
  · rename_i negative
    have magnitude : ((value.natAbs : ℕ) : ℚ) = -(value : ℚ) := by
      rw [← Int.cast_natCast, Int.ofNat_natAbs_of_nonpos negative.le, Int.cast_neg]
    show (readUnsigned (decimal value.natAbs)).map _ = _
    rw [readUnsigned_decimal, Option.map_some, magnitude, neg_neg]
  · rename_i nonneg
    have magnitude : ((value.natAbs : ℕ) : ℚ) = (value : ℚ) := by
      rw [← Int.cast_natCast, Int.natAbs_of_nonneg (not_lt.mp nonneg)]
    rw [readNumber_decimal, magnitude]

theorem readNumber_fixedDecimal (digits : ℕ) (positive : 0 < digits) (x : ℚ) :
    readNumber (fixedDecimal digits x) = some (roundTo digits x) := by
  unfold fixedDecimal roundTo
  by_cases negative : x < 0
  · rw [if_pos negative, if_pos negative, List.cons_append, List.nil_append]
    simp only [readNumber]
    rw [readUnsigned_fixed digits _ positive, Option.map_some]
  · rw [if_neg negative, if_neg negative, List.nil_append,
      readNumber_unsigned _ (head_decimal_ne_minus _ _), readUnsigned_fixed digits _ positive]

def isNumberChar (c : Char) : Bool := c.isDigit || c == '-' || c == '.'

structure NumberText (text : List Char) (value : ℚ) : Prop where
  reads : readNumber text = some value
  chars : ∀ c ∈ text, isNumberChar c = true

theorem isNumberChar_of_digit (c : Char) (digit : c.isDigit = true) : isNumberChar c = true := by
  rw [isNumberChar, digit, Bool.true_or, Bool.true_or]

theorem NumberText.ne_nil {text : List Char} {value : ℚ} (number : NumberText text value) :
    text ≠ [] := by
  intro empty
  have reads := number.reads
  rw [empty] at reads
  cases reads

theorem decimal_number (n : ℕ) : NumberText (decimal n) n :=
  ⟨readNumber_decimal n, fun c member => isNumberChar_of_digit c (decimal_digits n c member)⟩

theorem signedDecimal_number (value : ℤ) : NumberText (signedDecimal value) value := by
  refine ⟨readNumber_signedDecimal value, fun c member => ?_⟩
  unfold signedDecimal at member
  split at member
  · rcases List.mem_cons.mp member with rfl | printed
    · rfl
    · exact isNumberChar_of_digit c (decimal_digits _ c printed)
  · exact isNumberChar_of_digit c (decimal_digits _ c member)

theorem fixedDecimal_chars (digits : ℕ) (x : ℚ) :
    ∀ c ∈ fixedDecimal digits x, isNumberChar c = true := by
  intro c member
  rcases List.mem_append.mp member with sign | printed
  · split at sign
    · rw [List.mem_singleton.mp sign]
      rfl
    · cases sign
  · rcases List.mem_append.mp printed with whole | rest
    · exact isNumberChar_of_digit c (decimal_digits _ c whole)
    · rcases List.mem_cons.mp rest with rfl | fraction
      · rfl
      · exact isNumberChar_of_digit c (leftpad_digits digits _ c fraction)

theorem fixedDecimal_number (digits : ℕ) (positive : 0 < digits) (x : ℚ) :
    NumberText (fixedDecimal digits x) (roundTo digits x) :=
  ⟨readNumber_fixedDecimal digits positive x, fixedDecimal_chars digits x⟩

end TlshubEbpf.Lib
