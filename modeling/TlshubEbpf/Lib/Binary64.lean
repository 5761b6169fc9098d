import Mathlib.Data.Int.Log
import Mathlib.RingTheory.Coprime.Lemmas
import Mathlib.Tactic.Linarith
import TlshubEbpf.Lib.Decimal

/-! # Doubles

A double is an integer of at most 53 binary digits times a power of two; no number here
comes near the bounds of the exponent.  `binary64` rounds to a nearest one, to the even one
of two.  Doubles that are printed with few digits and read again keep their order. -/

set_option autoImplicit false

namespace TlshubEbpf.Lib

def IsDouble (x : ℚ) : Prop :=
  ∃ digits exponent : ℤ, |digits| < 2 ^ 53 ∧ x = digits * 2 ^ exponent

/-- What the last of 53 binary digits counts. -/
def lastDigit (x : ℚ) : ℚ := 2 ^ (Int.log 2 |x| - 52)

def binary64 (x : ℚ) : ℚ := roundHalfEven (x / lastDigit x) * lastDigit x

/-! ## The nearest double -/

theorem roundHalfEven_nearest (x : ℚ) (n : ℤ) : |(roundHalfEven x : ℚ) - x| ≤ |(n : ℚ) - x| := by
  have near := abs_le.mp (roundHalfEven_near x)
  by_contra closer
  have within := abs_lt.mp ((not_le.mp closer).trans_le (roundHalfEven_near x))
  have same : n = roundHalfEven x := by
    have above : (n : ℚ) < roundHalfEven x + 1 := by linarith
    have below : (roundHalfEven x : ℚ) < n + 1 := by linarith
    have above' : n < roundHalfEven x + 1 := by exact_mod_cast above
    have below' : roundHalfEven x < n + 1 := by exact_mod_cast below
    omega
  rw [same] at closer
  exact closer le_rfl

theorem lastDigit_pos (x : ℚ) : 0 < lastDigit x := zpow_pos (by norm_num) _

theorem IsDouble.multiple_or_small {y : ℚ} (double : IsDouble y) (x : ℚ) :
    (∃ n : ℤ, y = n * lastDigit x) ∨ |y| < 2 ^ 52 * lastDigit x := by
  obtain ⟨digits, exponent, few, rfl⟩ := double
  obtain ⟨shift, same⟩ : ∃ shift, exponent = shift + (Int.log 2 |x| - 52) :=
    ⟨exponent - (Int.log 2 |x| - 52), by omega⟩
  have two : (2 : ℚ) ≠ 0 := two_ne_zero
  by_cases coarse : 0 ≤ shift
  · obtain ⟨places, rfl⟩ := Int.eq_ofNat_of_zero_le coarse
    refine Or.inl ⟨digits * 2 ^ places, ?_⟩
    rw [same, zpow_add₀ two, lastDigit]
    push_cast
    rw [zpow_natCast, mul_assoc]
  · refine Or.inr ?_
    have fewer : |(digits : ℚ)| < 2 ^ 53 := by exact_mod_cast few
    have finer : (2 : ℚ) ^ exponent ≤ lastDigit x / 2 := by
      rw [lastDigit, div_eq_mul_inv, ← zpow_sub_one₀ two]
      exact zpow_le_zpow_right₀ one_le_two (by omega)
    rw [abs_mul, abs_of_pos (zpow_pos two_pos exponent : (0 : ℚ) < 2 ^ exponent)]
    calc |(digits : ℚ)| * 2 ^ exponent
        < 2 ^ 53 * 2 ^ exponent := mul_lt_mul_of_pos_right fewer (zpow_pos two_pos exponent)
      _ ≤ 2 ^ 53 * (lastDigit x / 2) := mul_le_mul_of_nonneg_left finer (by positivity)
      _ = 2 ^ 52 * lastDigit x := by ring

theorem isDouble_binary64 (x : ℚ) : IsDouble (binary64 x) := by
  have positive := lastDigit_pos x
  have below : |x / lastDigit x| < 2 ^ 53 := by
    have above := Int.lt_zpow_succ_log_self (b := 2) one_lt_two |x|
    rw [abs_div, abs_of_pos positive, div_lt_iff₀ positive, lastDigit, ← zpow_natCast,
      ← zpow_add₀ two_ne_zero]
    have same : ((53 : ℕ) : ℤ) + (Int.log 2 |x| - 52) = Int.log 2 |x| + 1 := by omega
    rw [same]
    exact above
  have few : |roundHalfEven (x / lastDigit x)| ≤ 2 ^ 53 := by
    have near := roundHalfEven_near (x / lastDigit x)
    have apart := abs_sub_abs_le_abs_sub (roundHalfEven (x / lastDigit x) : ℚ) (x / lastDigit x)
    have small : ((|roundHalfEven (x / lastDigit x)| : ℤ) : ℚ) < 2 ^ 53 + 1 := by
      rw [Int.cast_abs]
      linarith
    have small' : |roundHalfEven (x / lastDigit x)| < 2 ^ 53 + 1 := by exact_mod_cast small
    omega
  rcases lt_or_eq_of_le few with less | full
  · exact ⟨_, _, less, rfl⟩
  · -- One digit more is half as many units of twice the size.
    have doubled : lastDigit x * 2 = 2 ^ (Int.log 2 |x| - 52 + 1) := by
      rw [lastDigit, zpow_add_one₀ two_ne_zero]
    rcases (abs_eq (by norm_num)).mp full with same | same
    · refine ⟨2 ^ 52, Int.log 2 |x| - 52 + 1, by norm_num, ?_⟩
      rw [binary64, same, ← doubled]
      push_cast
      ring
    · refine ⟨-2 ^ 52, Int.log 2 |x| - 52 + 1, by norm_num, ?_⟩
      rw [binary64, same, ← doubled]
      push_cast
      ring

theorem le_abs_of_ne_zero {x : ℚ} (nonzero : x ≠ 0) : 2 ^ 52 * lastDigit x ≤ |x| := by
  have below := Int.zpow_log_le_self (b := 2) one_lt_two (abs_pos.mpr nonzero)
  have scaled : (2 : ℚ) ^ 52 * lastDigit x = (2 : ℕ) ^ Int.log 2 |x| := by
    rw [lastDigit, ← zpow_natCast, ← zpow_add₀ two_ne_zero]
    norm_num
  rw [scaled]
  exact below

theorem binary64_nearest_multiple (x : ℚ) (n : ℤ) :
    |binary64 x - x| ≤ |n * lastDigit x - x| := by
  have positive := lastDigit_pos x
  have scaled : ∀ m : ℤ, |m * lastDigit x - x| = |(m : ℚ) - x / lastDigit x| * lastDigit x := by
    intro m
    rw [← abs_of_pos positive, ← abs_mul, abs_of_pos positive, sub_mul,
      div_mul_cancel₀ _ positive.ne']
  rw [binary64, scaled, scaled]
  exact mul_le_mul_of_nonneg_right (roundHalfEven_nearest _ n) positive.le

theorem binary64_nearest (x : ℚ) {y : ℚ} (double : IsDouble y) : |binary64 x - x| ≤ |y - x| := by
  rcases double.multiple_or_small x with ⟨n, rfl⟩ | small
  · exact binary64_nearest_multiple x n
  by_cases zero : x = 0
  · have here := binary64_nearest_multiple x 0
    rw [Int.cast_zero, zero_mul, zero_sub, abs_neg, zero, abs_zero] at here
    rw [zero]
    exact here.trans (abs_nonneg _)
  · -- The power of two between them is a multiple of the last digit.
    have reached := le_abs_of_ne_zero zero
    have apart : |x| - 2 ^ 52 * lastDigit x ≤ |y - x| := by
      have gap := abs_sub_abs_le_abs_sub x y
      rw [abs_sub_comm]
      linarith
    refine le_trans ?_ apart
    rcases lt_or_gt_of_ne zero with negative | positive
    · have here := binary64_nearest_multiple x (-2 ^ 52)
      rw [abs_of_neg negative] at reached ⊢
      refine here.trans (le_of_eq ?_)
      push_cast
      rw [abs_of_nonneg (by linarith)]
      ring
    · have here := binary64_nearest_multiple x (2 ^ 52)
      rw [abs_of_pos positive] at reached ⊢
      refine here.trans (le_of_eq ?_)
      push_cast
      rw [abs_of_nonpos (by linarith)]
      ring

theorem IsDouble.dyadic {x : ℚ} (double : IsDouble x) :
    ∃ (places : ℕ) (n : ℤ), x * 2 ^ places = n := by
  obtain ⟨digits, exponent, -, rfl⟩ := double
  obtain ⟨above, below, same⟩ : ∃ above below : ℕ, exponent = above - below :=
    ⟨exponent.toNat, (-exponent).toNat, by omega⟩
  refine ⟨below, digits * 2 ^ above, ?_⟩
  rw [same, zpow_sub₀ two_ne_zero, zpow_natCast, zpow_natCast]
  push_cast
  field_simp

/-- The difference of two doubles has no digit after the point that is not a multiple of 5. -/
theorem IsDouble.five_dvd {a b : ℚ} (first : IsDouble a) (second : IsDouble b) (digits : ℕ)
    (some : 0 < digits) (n : ℤ) (apart : b - a = n / 10 ^ digits) : 5 ∣ n := by
  obtain ⟨places, whole, scaled⟩ := first.dyadic
  obtain ⟨places', whole', scaled'⟩ := second.dyadic
  have ten : (10 : ℚ) ^ digits ≠ 0 := pow_ne_zero _ (by norm_num)
  rw [eq_div_iff ten] at apart
  have same : ((whole' * 2 ^ places - whole * 2 ^ places') * 10 ^ digits : ℚ) =
      n * 2 ^ (places + places') := by
    rw [← scaled, ← scaled', ← apart, pow_add]
    ring
  have whole : (whole' * 2 ^ places - whole * 2 ^ places') * 10 ^ digits =
      n * 2 ^ (places + places') := by exact_mod_cast same
  have five : (5 : ℤ) ∣ 10 ^ digits := dvd_pow (by norm_num) some.ne'
  have divides : (5 : ℤ) ∣ n * 2 ^ (places + places') := whole ▸ five.mul_left _
  have coprime : IsCoprime (5 : ℤ) (2 ^ (places + places')) :=
    IsCoprime.pow_right ⟨1, -2, by norm_num⟩
  exact coprime.dvd_of_dvd_mul_right divides

theorem roundTo_units (digits : ℕ) (x : ℚ) : ∃ n : ℤ, roundTo digits x = n / 10 ^ digits := by
  unfold roundTo
  split
  · exact ⟨-printedUnits digits x, by push_cast; ring⟩
  · exact ⟨printedUnits digits x, by push_cast; ring⟩

section Order
variable {a b : ℚ} (first : IsDouble a) (second : IsDouble b) (digits : ℕ) (some : 0 < digits)
include first second some

/-- Numbers that are printed differently are read as different doubles.  Else each of them
would be half a unit of the last digit away from what is printed of it. -/
theorem binary64_roundTo_lt (less : roundTo digits a < roundTo digits b) :
    binary64 (roundTo digits a) < binary64 (roundTo digits b) := by
  obtain ⟨n, printed⟩ := roundTo_units digits a
  obtain ⟨n', printed'⟩ := roundTo_units digits b
  have scale : (0 : ℚ) < 10 ^ digits := by positivity
  have gap : roundTo digits a + 1 / 10 ^ digits ≤ roundTo digits b := by
    rw [printed, printed', div_lt_div_iff_of_pos_right scale, Int.cast_lt] at less
    rw [printed, printed', ← add_div]
    exact div_le_div_of_nonneg_right (by exact_mod_cast less) scale.le
  have differ : a ≠ b := by
    intro same
    rw [same] at less
    exact lt_irrefl _ less
  have half : (1 : ℚ) / 10 ^ digits = 1 / 2 / 10 ^ digits + 1 / 2 / 10 ^ digits := by ring
  have near := roundTo_near digits a
  have near' := roundTo_near digits b
  have nearest := binary64_nearest (roundTo digits a) first
  have nearest' := binary64_nearest (roundTo digits b) second
  rw [abs_sub_comm a] at nearest
  rw [abs_sub_comm b] at nearest'
  generalize roundTo digits a = d at *
  generalize roundTo digits b = d' at *
  by_contra notLess
  have above := (le_abs_self _).trans nearest
  have below := (neg_le_abs _).trans nearest'
  have reaches : |d - a| = 1 / 2 / 10 ^ digits := by linarith
  have reaches' : |d' - b| = 1 / 2 / 10 ^ digits := by linarith
  have adjacent : d' = d + 1 / 10 ^ digits := by linarith
  have five := fun n apart => first.five_dvd second digits some n apart
  have halfPos : (0 : ℚ) ≤ 1 / 2 / 10 ^ digits := by positivity
  rcases (abs_eq halfPos).mp reaches with below | above <;>
    rcases (abs_eq halfPos).mp reaches' with below' | above'
  · exact absurd (five 1 (by push_cast; linarith)) (by decide)
  · have two : b - a = 2 * (1 / 10 ^ digits) := by linarith
    exact absurd (five 2 (by push_cast; rw [two]; ring)) (by decide)
  · exact absurd (by linarith) differ
  · exact absurd (five 1 (by push_cast; linarith)) (by decide)

theorem binary64_roundTo_lt_iff :
    binary64 (roundTo digits a) < binary64 (roundTo digits b) ↔
      roundTo digits a < roundTo digits b := by
  refine ⟨fun less => ?_, binary64_roundTo_lt first second digits some⟩
  by_contra notLess
  rcases eq_or_lt_of_le (not_lt.mp notLess) with same | more
  · rw [same] at less
    exact lt_irrefl _ less
  · exact lt_asymm less (binary64_roundTo_lt second first digits some more)

end Order

end TlshubEbpf.Lib
