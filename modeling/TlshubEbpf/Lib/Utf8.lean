import Mathlib.Data.List.Basic

/-! # UTF-8

Texts of Unicode characters and the bytes they are stored as. -/

set_option autoImplicit false

namespace TlshubEbpf.Lib

def utf8 (text : List Char) : List UInt8 := text.flatMap String.utf8EncodeChar

def decodeUtf8 (bytes : List UInt8) : Option (List Char) :=
  bytes.toByteArray.utf8Decode?.map Array.toList

theorem decodeUtf8_utf8 (text : List Char) : decodeUtf8 (utf8 text) = some text := by
  show (text.utf8Encode.utf8Decode?).map Array.toList = _
  rw [List.utf8Decode?_utf8Encode, Option.map_some]

theorem utf8_injective : Function.Injective utf8 := by
  intro text other same
  have decoded := decodeUtf8_utf8 text
  rw [same, decodeUtf8_utf8, Option.some.injEq] at decoded
  exact decoded.symm

theorem utf8_append (text rest : List Char) : utf8 (text ++ rest) = utf8 text ++ utf8 rest :=
  List.flatMap_append

def IsAscii (text : List Char) : Prop := ∀ c ∈ text, c.toNat < 128

instance (text : List Char) : Decidable (IsAscii text) :=
  List.decidableBAll (fun c : Char => c.toNat < 128) text

theorem IsAscii.append {text rest : List Char} (first : IsAscii text) (second : IsAscii rest) :
    IsAscii (text ++ rest) := by
  intro c among
  rcases List.mem_append.mp among with early | late
  · exact first c early
  · exact second c late

theorem IsAscii.flatten (texts : List (List Char)) (each : ∀ text ∈ texts, IsAscii text) :
    IsAscii texts.flatten := by
  intro c among
  obtain ⟨text, inTexts, inside⟩ := List.mem_flatten.mp among
  exact each text inTexts c inside

/-- An ASCII character is stored as the byte of its code. -/
theorem utf8EncodeChar_ascii (c : Char) (ascii : c.toNat < 128) :
    String.utf8EncodeChar c = [c.toUInt8] := by
  have oneByte : c.val.toNat ≤ 127 := Nat.le_of_lt_succ ascii
  rw [String.utf8EncodeChar, if_pos oneByte]
  rfl

theorem utf8_ascii (text : List Char) (ascii : IsAscii text) :
    utf8 text = text.map Char.toUInt8 := by
  rw [utf8, List.map_eq_flatMap]
  exact List.flatMap_congr fun c member => utf8EncodeChar_ascii c (ascii c member)

theorem mem_utf8_ascii (text : List Char) (byte : UInt8) (ascii : byte < 128)
    (among : byte ∈ utf8 text) : ∃ c ∈ text, c.toUInt8 = byte ∧ c.toNat < 128 := by
  have high : ∀ n, 128 ≤ n → n < 256 → byte ≠ UInt8.ofNat n := by
    rintro n large small rfl
    have low := UInt8.lt_iff_toNat_lt.mp ascii
    rw [UInt8.toNat_ofNat_of_lt' small] at low
    exact absurd low (Nat.not_lt.mpr large)
  obtain ⟨c, inText, encoded⟩ := List.mem_flatMap.mp among
  refine ⟨c, inText, ?_⟩
  unfold String.utf8EncodeChar at encoded
  dsimp only at encoded
  split at encoded
  · rename_i small
    rw [List.mem_singleton.mp encoded]
    exact ⟨rfl, Nat.lt_succ_of_le small⟩
  · exfalso
    split at encoded
    · simp only [List.mem_cons, List.not_mem_nil, or_false] at encoded
      rcases encoded with first | second
      · exact high _ (by omega) (by omega) first
      · exact high _ (by omega) (by omega) second
    · split at encoded
      · simp only [List.mem_cons, List.not_mem_nil, or_false] at encoded
        rcases encoded with first | second | third
        · exact high _ (by omega) (by omega) first
        · exact high _ (by omega) (by omega) second
        · exact high _ (by omega) (by omega) third
      · simp only [List.mem_cons, List.not_mem_nil, or_false] at encoded
        rcases encoded with first | second | third | fourth
        · exact high _ (by omega) (by omega) first
        · exact high _ (by omega) (by omega) second
        · exact high _ (by omega) (by omega) third
        · exact high _ (by omega) (by omega) fourth
end TlshubEbpf.Lib
