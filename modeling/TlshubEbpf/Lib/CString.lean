import Mathlib.Data.List.Basic
import Mathlib.Data.List.TakeWhile
import Mathlib.Algebra.Group.Int.Defs
import Mathlib.Algebra.Group.Nat.Defs

/-! # Strings and numerals of the C library

A character is a byte, and a string is the bytes before its terminator.  Numerals are
converted as on a 64-bit machine in the "C" locale. -/

set_option autoImplicit false

namespace TlshubEbpf.Lib

def ascii (text : String) : List UInt8 := text.toList.map Char.toUInt8

def latin1 (text : List UInt8) : List Char := text.map Char.ofUInt8

theorem map_toUInt8_latin1 (text : List UInt8) : (latin1 text).map Char.toUInt8 = text := by
  have byte : Char.toUInt8 ∘ Char.ofUInt8 = id := by
    funext c
    exact UInt8.toUInt8_toUInt32 c
  rw [latin1, List.map_map, byte, List.map_id]

theorem latin1_map_toUInt8 (text : List Char) (bytes : ∀ c ∈ text, c.toNat < 256) :
    latin1 (text.map Char.toUInt8) = text := by
  rw [latin1, List.map_map]
  conv_rhs => rw [← List.map_id text]
  refine List.map_congr_left fun c among => Char.ext (UInt32.toNat_inj.mp ?_)
  have small := bytes c among
  show c.val.toNat % 256 = c.val.toNat
  exact Nat.mod_eq_of_lt small

theorem latin1_bytes (text : List UInt8) : ∀ c ∈ latin1 text, c.toNat < 256 := by
  intro c among
  obtain ⟨byte, -, rfl⟩ := List.mem_map.mp among
  exact byte.toNat_lt

def isspace (c : UInt8) : Bool := c == 32 || (9 ≤ c && c ≤ 13)

def isdigit (c : UInt8) : Bool := 48 ≤ c && c ≤ 57

/-! ## `strtol`, `strtoul`, `atoi` -/

inductive Sign where
  | absent
  | plus
  | minus
  deriving DecidableEq, Repr

def takeSign : List UInt8 → Sign × List UInt8
  | [] => (.absent, [])
  | c :: rest =>
      if c = 43 then (.plus, rest)
      else if c = 45 then (.minus, rest)
      else (.absent, c :: rest)

/-- The parts into which a numeral to base ten is taken. -/
structure Numeral where
  blanks : List UInt8
  sign : Sign
  digits : List UInt8
  rest : List UInt8
  deriving DecidableEq, Repr

def scanNumeral (text : List UInt8) : Numeral :=
  let signed := takeSign (text.dropWhile isspace)
  { blanks := text.takeWhile isspace
    sign := signed.1
    digits := signed.2.takeWhile isdigit
    rest := signed.2.dropWhile isdigit }

def decimalValue (digits : List UInt8) : ℕ :=
  digits.foldl (fun value digit => 10 * value + (digit.toNat - 48)) 0

/-- The number and what `endptr` points to. -/
def strtoul (text : List UInt8) : UInt64 × List UInt8 :=
  let numeral := scanNumeral text
  let value := decimalValue numeral.digits
  if numeral.digits = [] then
    (0, text)
  else if value ≥ 2 ^ 64 then
    -- ULONG_MAX, also after a minus sign
    (UInt64.ofNat (2 ^ 64 - 1), numeral.rest)
  else if numeral.sign = .minus then
    (-UInt64.ofNat value, numeral.rest)
  else
    (UInt64.ofNat value, numeral.rest)

def strtol (text : List UInt8) : Int × List UInt8 :=
  let numeral := scanNumeral text
  let value := (decimalValue numeral.digits : Int)
  if numeral.digits = [] then
    (0, text)
  else if numeral.sign = .minus then
    (max (-value) (-2 ^ 63), numeral.rest)
  else
    (min value (2 ^ 63 - 1), numeral.rest)

/-- The `long` is cut to an `int`. -/
def atoi (text : List UInt8) : Int := Int.bmod (strtol text).1 (2 ^ 32)

def IsNumeral (text : List UInt8) : Prop := text ≠ [] ∧ ∀ c ∈ text, isdigit c = true

instance (text : List UInt8) : Decidable (IsNumeral text) :=
  haveI := List.decidableBAll (fun c => isdigit c = true) text
  inferInstanceAs (Decidable (_ ∧ _))

theorem isspace_of_digit (c : UInt8) (digit : isdigit c = true) : isspace c = false := by
  simp only [isdigit, isspace, Bool.and_eq_true, decide_eq_true_eq, UInt8.le_iff_toNat_le,
    Bool.or_eq_false_iff, beq_eq_false_iff_ne, ne_eq, ← UInt8.toNat_inj, Bool.and_eq_false_iff,
    decide_eq_false_iff_not] at digit ⊢
  have low : (48 : UInt8).toNat = 48 := rfl
  have blank : (32 : UInt8).toNat = 32 := rfl
  have last : (13 : UInt8).toNat = 13 := rfl
  omega

theorem scanNumeral_of_isNumeral (text : List UInt8) (numeral : IsNumeral text) :
    scanNumeral text = ⟨[], .absent, text, []⟩ := by
  obtain ⟨some, digits⟩ := numeral
  obtain ⟨c, rest, rfl⟩ := List.exists_cons_of_ne_nil some
  have digit := digits c List.mem_cons_self
  have blank : ¬ isspace c = true := by
    rw [isspace_of_digit c digit]
    exact Bool.false_ne_true
  have noSign : takeSign (c :: rest) = (.absent, c :: rest) := by
    have notPlus : c ≠ 43 := by
      rintro rfl
      cases digit
    have notMinus : c ≠ 45 := by
      rintro rfl
      cases digit
    rw [takeSign, if_neg notPlus, if_neg notMinus]
  simp only [scanNumeral]
  rw [List.takeWhile_cons_of_neg blank, List.dropWhile_cons_of_neg blank, noSign,
    List.takeWhile_eq_self_iff.mpr digits, List.dropWhile_eq_nil_iff.mpr digits]

/-! ## Arrays of characters -/

def untilNul (bytes : List UInt8) : List UInt8 := bytes.takeWhile (· != 0)

theorem untilNul_of_noNul (bytes : List UInt8) (noNul : 0 ∉ bytes) : untilNul bytes = bytes :=
  List.takeWhile_eq_self_iff.mpr fun _ member =>
    bne_iff_ne.mpr fun zero => noNul (zero ▸ member)

theorem untilNul_append_nul (bytes rest : List UInt8) :
    untilNul (bytes ++ 0 :: rest) = untilNul bytes := by
  rw [untilNul, List.takeWhile_append]
  split
  · rename_i all
    rw [List.takeWhile_cons_of_neg (by decide), List.append_nil, untilNul]
    exact ((List.takeWhile_prefix _).eq_of_length all).symm
  · rfl

structure CharArray (size : ℕ) where
  bytes : List UInt8
  length_eq : bytes.length = size

namespace CharArray

section Array
variable {size : ℕ}

def zeroed (size : ℕ) : CharArray size := ⟨List.replicate size 0, List.length_replicate⟩

/-- The string that starts at the array, if a terminator is within the array. -/
def string (array : CharArray size) : Option (List UInt8) :=
  if 0 ∈ array.bytes then some (untilNul array.bytes) else none

def lastByte (array : CharArray size) : UInt8 := array.bytes.getLastD 0

/-- `strncpy(array, source, size - 1)`: the last byte stays as it was. -/
def strncpy (source : List UInt8) (array : CharArray (size + 1)) : CharArray (size + 1) where
  bytes := source.take size ++ List.replicate (size - source.length) 0 ++ array.bytes.drop size
  length_eq := by
    rw [List.length_append, List.length_append, List.length_take, List.length_replicate,
      List.length_drop, array.length_eq]
    omega

theorem bytes_drop (array : CharArray (size + 1)) : array.bytes.drop size = [array.lastByte] := by
  have length : (array.bytes.drop size).length = 1 := by
    rw [List.length_drop, array.length_eq]
    omega
  obtain ⟨last, single⟩ := List.length_eq_one_iff.mp length
  have parts := List.take_append_drop size array.bytes
  rw [single] at parts
  rw [single, lastByte, ← parts, List.getLastD_concat]

theorem bytes_strncpy (source : List UInt8) (array : CharArray (size + 1)) :
    (array.strncpy source).bytes =
      source.take size ++ List.replicate (size - source.length) 0 ++ [array.lastByte] := by
  rw [← bytes_drop]
  rfl

theorem bytes_strncpy_short (source : List UInt8) (array : CharArray (size + 1))
    (short : source.length < size) :
    ∃ rest, (array.strncpy source).bytes = source ++ 0 :: rest := by
  obtain ⟨pad, room⟩ : ∃ pad, size - source.length = pad + 1 := ⟨size - source.length - 1, by omega⟩
  refine ⟨List.replicate pad 0 ++ [array.lastByte], ?_⟩
  rw [bytes_strncpy, List.take_of_length_le short.le, room, List.replicate_succ,
    List.append_assoc, List.cons_append]

theorem bytes_strncpy_long (source : List UInt8) (array : CharArray (size + 1))
    (long : size ≤ source.length) :
    (array.strncpy source).bytes = source.take size ++ [array.lastByte] := by
  rw [bytes_strncpy, Nat.sub_eq_zero_of_le long, List.replicate_zero, List.append_nil]

theorem string_of_terminated (array : CharArray size) (text rest : List UInt8)
    (noNul : 0 ∉ text) (bytes : array.bytes = text ++ 0 :: rest) : array.string = some text := by
  rw [string, bytes, if_pos (List.mem_append_right text List.mem_cons_self), untilNul_append_nul,
    untilNul_of_noNul text noNul]

theorem string_strncpy_short (source : List UInt8) (array : CharArray (size + 1))
    (noNul : 0 ∉ source) (short : source.length < size) :
    (array.strncpy source).string = some source := by
  obtain ⟨rest, bytes⟩ := bytes_strncpy_short source array short
  exact string_of_terminated _ source rest noNul bytes

/-- A source that is cut is terminated if the last byte of the array is a terminator. -/
theorem string_strncpy_long (source : List UInt8) (array : CharArray (size + 1))
    (noNul : 0 ∉ source) (long : size ≤ source.length) :
    (array.strncpy source).string =
      if array.lastByte = 0 then some (source.take size) else none := by
  have cut : 0 ∉ source.take size := fun zero => noNul (List.mem_of_mem_take zero)
  have bytes := bytes_strncpy_long source array long
  split
  · rename_i terminated
    rw [terminated] at bytes
    exact string_of_terminated _ _ [] cut bytes
  · rename_i unterminated
    rw [string, bytes, if_neg]
    intro zero
    rcases List.mem_append.mp zero with early | last
    · exact cut early
    · exact unterminated (List.mem_singleton.mp last).symm

theorem lastByte_strncpy (source : List UInt8) (array : CharArray (size + 1)) :
    (array.strncpy source).lastByte = array.lastByte := by
  rw [lastByte, bytes_strncpy, List.getLastD_concat]

theorem lastByte_zeroed : (zeroed (size + 1)).lastByte = 0 := by
  have bytes : (zeroed (size + 1)).bytes = List.replicate size 0 ++ [0] := List.replicate_succ'
  rw [lastByte, bytes, List.getLastD_concat]

end Array

end CharArray

structure StringArray (size : ℕ) extends CharArray size where
  terminated : toCharArray.lastByte = 0

namespace StringArray

section Array
variable {size : ℕ}

def string (array : StringArray size) : List UInt8 := untilNul array.bytes

def strncpy (source : List UInt8) (array : StringArray (size + 1)) : StringArray (size + 1) where
  toCharArray := array.toCharArray.strncpy source
  terminated := (array.toCharArray.lastByte_strncpy source).trans array.terminated

/-- A text that `strcpy` or `snprintf` leaves in a zeroed array. -/
def holding (text : List UInt8) : StringArray (size + 1) :=
  strncpy text ⟨CharArray.zeroed (size + 1), CharArray.lastByte_zeroed⟩

theorem string_strncpy (source : List UInt8) (array : StringArray (size + 1)) :
    (array.strncpy source).string = untilNul (source.take size) := by
  rcases Nat.lt_or_ge source.length size with short | long
  · obtain ⟨rest, bytes⟩ := array.toCharArray.bytes_strncpy_short source short
    show untilNul (array.toCharArray.strncpy source).bytes = _
    rw [bytes, untilNul_append_nul, List.take_of_length_le short.le]
  · show untilNul (array.toCharArray.strncpy source).bytes = _
    rw [array.toCharArray.bytes_strncpy_long source long, array.terminated, untilNul_append_nul]

theorem string_holding (text : List UInt8) :
    (holding text : StringArray (size + 1)).string = untilNul (text.take size) :=
  string_strncpy text _

end Array

end StringArray

end TlshubEbpf.Lib
