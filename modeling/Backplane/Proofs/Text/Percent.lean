import Backplane.Text.Percent
import Backplane.Text.Utf8
import Mathlib.Data.List.Basic

namespace Backplane.Text

/-- The bytes of characters of seven bits. -/
def asciiBytes (characters : List Char) : List UInt8 :=
  characters.map fun character => character.toNat.toUInt8

/-- Text that was written as bytes is read back. -/
theorem ofUtf8?_toUTF8 (text : String) : ofUtf8? text.toUTF8 = some text := by
  unfold ofUtf8? String.fromUTF8?
  rw [String.toUTF8_eq_toByteArray, dif_pos text.isValidUTF8]
  rfl

/-- A text of characters of seven bits has one byte for each of them. -/
theorem toUTF8_ofList {characters : List Char} (ascii : ∀ character ∈ characters,
    character.toNat < 128) :
    (String.ofList characters).toUTF8.data.toList = asciiBytes characters := by
  have whole : (String.ofList characters).toUTF8.data.toList =
      characters.flatMap String.utf8EncodeChar := by
    rw [String.toUTF8_eq_toByteArray]
    exact List.toList_data_toByteArray
  rw [whole]
  clear whole
  induction characters with
  | nil => rfl
  | cons character rest ih =>
      obtain ⟨small, others⟩ := List.forall_mem_cons.mp ascii
      have single : character.utf8Size = 1 := by
        rw [Char.utf8Size_eq_one_iff, UInt32.le_iff_toNat_le]
        exact Nat.le_of_lt_succ small
      rw [List.flatMap_cons, String.utf8EncodeChar_eq_singleton single, ih others]
      rfl

/-- The byte of a character of seven bits has the number of the character. -/
theorem toNat_ofNat_ascii {number : Nat} (small : number < 128) :
    (Char.ofNat number).toNat = number := by
  revert number
  decide

section PercentSigns

/-- A digit in upper case is read back. -/
theorem byteDigit?_upperDigit :
    ∀ value < 16, byteDigit? (upperDigit value).toNat.toUInt8 = some value := by decide

/-- A digit has seven bits. -/
theorem upperDigit_ascii : ∀ value < 16, (upperDigit value).toNat < 128 := by decide

/-- A byte other than the percent sign stands for itself. -/
theorem percentDecode_cons {byte : UInt8} (plain : byte ≠ 37) (rest : List UInt8) :
    percentDecode (byte :: rest) = byte :: percentDecode rest := by
  rw [percentDecode]
  rintro high low tail rfl
  exact absurd rfl plain

/-- A byte that stands for itself is a visible character of seven bits, and no percent sign. -/
theorem isPlainByte_bounds {byte : UInt8} (plain : isPlainByte byte = true) :
    byte.toNat < 128 ∧ byte ≠ 37 := by
  constructor
  · simp only [isPlainByte, Bool.and_eq_true, decide_eq_true_eq] at plain
    exact Nat.lt_succ_of_lt (UInt8.lt_iff_toNat_lt.mp plain.1.2)
  · rintro rfl
    revert plain
    decide

/-- What a byte is written as has seven bits. -/
theorem percentByte_ascii (byte : UInt8) :
    ∀ character ∈ percentByte byte, character.toNat < 128 := by
  have size := byte.toNat_lt
  unfold percentByte
  split
  next plain =>
    have small := (isPlainByte_bounds plain).1
    simpa [toNat_ofNat_ascii small] using small
  next =>
    have upper := upperDigit_ascii (byte.toNat / 16) (by omega)
    have lower := upperDigit_ascii (byte.toNat % 16) (by omega)
    simp [upper, lower]

/-- A written byte is read back. -/
theorem percentDecode_percentByte (byte : UInt8) (rest : List UInt8) :
    percentDecode (asciiBytes (percentByte byte) ++ rest) = byte :: percentDecode rest := by
  have size := byte.toNat_lt
  unfold percentByte
  split
  next plain =>
    obtain ⟨small, other⟩ := isPlainByte_bounds plain
    simpa [asciiBytes, toNat_ofNat_ascii small] using percentDecode_cons other rest
  next =>
    have upper := byteDigit?_upperDigit (byte.toNat / 16) (by omega)
    have lower := byteDigit?_upperDigit (byte.toNat % 16) (by omega)
    have whole : byte.toNat / 16 * 16 + byte.toNat % 16 = byte.toNat := Nat.div_add_mod' _ _
    have digits : asciiBytes ['%', upperDigit (byte.toNat / 16), upperDigit (byte.toNat % 16)] ++
        rest = 37 :: (upperDigit (byte.toNat / 16)).toNat.toUInt8 ::
          (upperDigit (byte.toNat % 16)).toNat.toUInt8 :: rest := rfl
    rw [digits, percentDecode, upper, lower]
    simp [whole]

/-- A text written with percent signs is read back. -/
theorem percentDecode_percentEncode (text : String) :
    percentDecode (percentEncode text).toUTF8.data.toList = text.toUTF8.data.toList := by
  rw [percentEncode, toUTF8_ofList fun character listed => by
    obtain ⟨byte, -, written⟩ := List.mem_flatMap.mp listed
    exact percentByte_ascii byte character written]
  induction text.toUTF8.data.toList with
  | nil => rfl
  | cons byte bytes ih =>
      rw [List.flatMap_cons, asciiBytes, List.map_append]
      exact (percentDecode_percentByte byte _).trans (congrArg _ ih)

end PercentSigns

section Letters

/-- A letter is read back. -/
theorem letterBits?_letterOf :
    ∀ bits < 64, letterBits? (letterOf bits).toNat.toUInt8 = some bits := by decide

/-- A letter has seven bits. -/
theorem letterOf_ascii : ∀ bits < 64, (letterOf bits).toNat < 128 := by decide

/-- What bytes are written as has seven bits. -/
theorem lettersOf_ascii (bytes : List UInt8) :
    ∀ character ∈ lettersOf bytes, character.toNat < 128 := by
  induction bytes using lettersOf.induct with
  | case1 => simp [lettersOf]
  | case2 first =>
      have size := first.toNat_lt
      simp only [lettersOf, List.forall_mem_cons, List.not_mem_nil, false_implies, implies_true,
        and_true]
      exact ⟨letterOf_ascii _ (by omega), letterOf_ascii _ (by omega)⟩
  | case3 first second =>
      have size := first.toNat_lt
      have secondSize := second.toNat_lt
      simp only [lettersOf, List.forall_mem_cons, List.not_mem_nil, false_implies, implies_true,
        and_true]
      exact ⟨letterOf_ascii _ (by omega), letterOf_ascii _ (by omega),
        letterOf_ascii _ (by omega)⟩
  | case4 first second third rest ih =>
      have size := first.toNat_lt
      have secondSize := second.toNat_lt
      have thirdSize := third.toNat_lt
      simp only [lettersOf, List.forall_mem_cons]
      exact ⟨letterOf_ascii _ (by omega), letterOf_ascii _ (by omega),
        letterOf_ascii _ (by omega), letterOf_ascii _ (by omega), ih⟩

/-- A number with the value of a byte is that byte. -/
theorem toUInt8_of_eq {number : Nat} (byte : UInt8) (same : number = byte.toNat) :
    number.toUInt8 = byte := by
  subst same
  exact UInt8.ofNat_toNat

/-- Bytes written as letters are read back. -/
theorem base64Decode?_base64Encode (bytes : List UInt8) :
    base64Decode? (base64Encode bytes).toUTF8.data.toList = some bytes := by
  rw [base64Encode, toUTF8_ofList (lettersOf_ascii bytes)]
  unfold asciiBytes
  -- Three bytes at a time; one or two at the end leave bits that the last letter fills with zeros.
  induction bytes using lettersOf.induct with
  | case1 => rfl
  | case2 first =>
      have size := first.toNat_lt
      have head := letterBits?_letterOf (first.toNat / 4) (by omega)
      have last := letterBits?_letterOf (first.toNat % 4 * 16) (by omega)
      simp only [lettersOf, List.map_cons, List.map_nil, base64Decode?, head, last,
        Option.bind_eq_bind, Option.bind_some, Option.pure_def]
      rw [toUInt8_of_eq first (by omega)]
  | case3 first second =>
      have size := first.toNat_lt
      have secondSize := second.toNat_lt
      have head := letterBits?_letterOf (first.toNat / 4) (by omega)
      have middle := letterBits?_letterOf (first.toNat % 4 * 16 + second.toNat / 16) (by omega)
      have last := letterBits?_letterOf (second.toNat % 16 * 4) (by omega)
      simp only [lettersOf, List.map_cons, List.map_nil, base64Decode?, head, middle, last,
        Option.bind_eq_bind, Option.bind_some, Option.pure_def]
      rw [toUInt8_of_eq first (by omega), toUInt8_of_eq second (by omega)]
  | case4 first second third rest ih =>
      have size := first.toNat_lt
      have secondSize := second.toNat_lt
      have thirdSize := third.toNat_lt
      have head := letterBits?_letterOf (first.toNat / 4) (by omega)
      have left := letterBits?_letterOf (first.toNat % 4 * 16 + second.toNat / 16) (by omega)
      have right := letterBits?_letterOf (second.toNat % 16 * 4 + third.toNat / 64) (by omega)
      have last := letterBits?_letterOf (third.toNat % 64) (by omega)
      simp only [lettersOf, List.map_cons, List.map_nil, base64Decode?, head, left, right, last,
        ih, Option.bind_eq_bind, Option.bind_some, Option.pure_def]
      rw [toUInt8_of_eq first (by omega), toUInt8_of_eq second (by omega),
        toUInt8_of_eq third (by omega)]
      rfl

end Letters

end Backplane.Text
