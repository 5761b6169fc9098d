import TlshubEbpf.Lib.CString
import TlshubEbpf.Lib.Decimal

/-! # Numbers in a text that is scanned

`%llu` of `sscanf` passes over white space and takes the longest numeral.  It reads a
number that was printed, whatever white space stands before it and whatever but a digit
comes after it. -/

set_option autoImplicit false

namespace TlshubEbpf.Lib

/-- `%llu`: the number and what comes after it. -/
def scanLlu (text : List UInt8) : Option (UInt64 × List UInt8) :=
  if (scanNumeral text).digits = [] then none else some (strtoul text)

def digitsOf (n : ℕ) : List UInt8 := (decimal n).map Char.toUInt8

theorem toUInt8_of_isDigit (c : Char) (digit : c.isDigit = true) :
    isdigit c.toUInt8 = true ∧ c.toUInt8.toNat = c.toNat := by
  simp only [Char.isDigit, Bool.and_eq_true, decide_eq_true_eq, ge_iff_le,
    UInt32.le_iff_toNat_le] at digit
  have low : '0'.val.toNat = 48 := rfl
  have high : '9'.val.toNat = 57 := rfl
  have value : c.toUInt8.toNat = c.toNat := by
    show c.val.toNat % 256 = c.val.toNat
    omega
  refine ⟨?_, value⟩
  have char : c.toNat = c.val.toNat := rfl
  have first : (48 : UInt8).toNat = 48 := rfl
  have last : (57 : UInt8).toNat = 57 := rfl
  rw [isdigit, Bool.and_eq_true, decide_eq_true_eq, decide_eq_true_eq, UInt8.le_iff_toNat_le,
    UInt8.le_iff_toNat_le]
  omega

theorem isdigit_digitsOf (n : ℕ) : ∀ c ∈ digitsOf n, isdigit c = true := by
  intro c among
  obtain ⟨char, printed, rfl⟩ := List.mem_map.mp among
  exact (toUInt8_of_isDigit char (decimal_digits n char printed)).1

theorem digitsOf_ne_nil (n : ℕ) : digitsOf n ≠ [] :=
  fun empty => decimal_ne_nil n (List.map_eq_nil_iff.mp empty)

theorem foldl_digits (digits : List Char) (isDigits : ∀ c ∈ digits, c.isDigit = true)
    (init : ℕ) :
    (digits.map Char.toUInt8).foldl (fun value digit => 10 * value + (digit.toNat - 48)) init =
      Nat.ofDigitChars 10 digits init := by
  induction digits generalizing init with
  | nil => rfl
  | cons c rest ih =>
      have digit := (toUInt8_of_isDigit c (isDigits c List.mem_cons_self)).2
      rw [List.map_cons, List.foldl_cons, ih fun d later => isDigits d (List.mem_cons_of_mem c later),
        digit]
      rfl

theorem decimalValue_digitsOf (n : ℕ) : decimalValue (digitsOf n) = n :=
  (foldl_digits (decimal n) (decimal_digits n) 0).trans (ofDigitChars_decimal n)

theorem length_digitsOf (n digits : ℕ) (positive : 0 < digits) (fits : n < 10 ^ digits) :
    (digitsOf n).length ≤ digits := by
  rw [digitsOf, List.length_map]
  exact (Nat.length_toDigits_le_iff (by decide) positive).mpr fits

theorem scanNumeral_digits (blanks digits rest : List UInt8)
    (blank : ∀ c ∈ blanks, isspace c = true) (numeral : IsNumeral digits)
    (stops : ∀ c ∈ rest.head?, isdigit c = false) :
    scanNumeral (blanks ++ (digits ++ rest)) = ⟨blanks, .absent, digits, rest⟩ := by
  obtain ⟨some, isDigits⟩ := numeral
  obtain ⟨c, more, rfl⟩ := List.exists_cons_of_ne_nil some
  have digit := isDigits c List.mem_cons_self
  have nonblank : ¬ isspace c = true := by
    rw [isspace_of_digit c digit]
    exact Bool.false_ne_true
  have noSign : takeSign (c :: (more ++ rest)) = (.absent, c :: (more ++ rest)) := by
    have notPlus : c ≠ 43 := by
      rintro rfl
      cases digit
    have notMinus : c ≠ 45 := by
      rintro rfl
      cases digit
    rw [takeSign, if_neg notPlus, if_neg notMinus]
  have taken : rest.takeWhile isdigit = [] ∧ rest.dropWhile isdigit = rest := by
    cases rest with
    | nil => exact ⟨rfl, rfl⟩
    | cons d later =>
        have stop : ¬ isdigit d = true := by
          rw [stops d rfl]
          exact Bool.false_ne_true
        exact ⟨List.takeWhile_cons_of_neg stop, List.dropWhile_cons_of_neg stop⟩
  simp only [scanNumeral]
  rw [List.takeWhile_append_of_pos blank, List.dropWhile_append_of_pos blank, List.cons_append,
    List.takeWhile_cons_of_neg nonblank, List.dropWhile_cons_of_neg nonblank, noSign,
    List.append_nil, ← List.cons_append, List.takeWhile_append_of_pos isDigits,
    List.dropWhile_append_of_pos isDigits, taken.1, taken.2, List.append_nil]

theorem scanLlu_digitsOf (blanks rest : List UInt8) (n : UInt64)
    (blank : ∀ c ∈ blanks, isspace c = true) (stops : ∀ c ∈ rest.head?, isdigit c = false) :
    scanLlu (blanks ++ (digitsOf n.toNat ++ rest)) = some (n, rest) := by
  have scanned := scanNumeral_digits blanks (digitsOf n.toNat) rest blank
    ⟨digitsOf_ne_nil n.toNat, isdigit_digitsOf n.toNat⟩ stops
  have bound := n.toNat_lt
  have notMinus : ¬ Sign.absent = Sign.minus := Sign.noConfusion
  simp only [scanLlu, strtoul, scanned]
  rw [if_neg (digitsOf_ne_nil _), if_neg (digitsOf_ne_nil _), decimalValue_digitsOf,
    if_neg (by omega), if_neg notMinus, UInt64.ofNat_toNat]

end TlshubEbpf.Lib
