/-
This file writes for headers what they cannot carry as it is: texts with percent signs and
hexadecimal digits, and bytes as letters that stand for six bits each (base64).
-/

namespace Backplane.Text

/-- Printable characters that are escaped all the same. -/
def escapedMarks : List Char := [' ', '"', '#', '%', '<', '>', '\x60', '?', '{', '}']

/-- Tells whether a byte stands for itself. -/
def isPlainByte (byte : UInt8) : Bool :=
  32 < byte && byte < 127 && !escapedMarks.contains (Char.ofNat byte.toNat)

/-- A hexadecimal digit in upper case. -/
def upperDigit (value : Nat) : Char :=
  if value < 10 then Char.ofNat ('0'.toNat + value) else Char.ofNat ('A'.toNat + (value - 10))

def percentByte (byte : UInt8) : List Char :=
  if isPlainByte byte then [Char.ofNat byte.toNat]
  else ['%', upperDigit (byte.toNat / 16), upperDigit (byte.toNat % 16)]

/-- The escaped text. -/
def percentEncode (text : String) : String :=
  String.ofList (text.toUTF8.data.toList.flatMap percentByte)

/-- The value of a hexadecimal digit given as a byte. -/
def byteDigit? (byte : UInt8) : Option Nat :=
  let value := byte.toNat
  if 48 ≤ value ∧ value ≤ 57 then some (value - 48)
  else if 65 ≤ value ∧ value ≤ 70 then some (value - 55)
  else if 97 ≤ value ∧ value ≤ 102 then some (value - 87)
  else none

/-- The bytes that escaped bytes stand for; a percent sign without two digits stays. -/
def percentDecode : List UInt8 → List UInt8
  | 37 :: high :: low :: rest =>
      match byteDigit? high, byteDigit? low with
      | some upper, some lower => (upper * 16 + lower).toUInt8 :: percentDecode rest
      | _, _ => 37 :: percentDecode (high :: low :: rest)
  | byte :: rest => byte :: percentDecode rest
  | [] => []

/-- The letter of six bits. -/
def letterOf (bits : Nat) : Char :=
  if bits < 26 then Char.ofNat ('A'.toNat + bits)
  else if bits < 52 then Char.ofNat ('a'.toNat + (bits - 26))
  else if bits < 62 then Char.ofNat ('0'.toNat + (bits - 52))
  else if bits = 62 then '+'
  else '/'

/-- The six bits of a letter given as a byte. -/
def letterBits? (byte : UInt8) : Option Nat :=
  let value := byte.toNat
  if 65 ≤ value ∧ value ≤ 90 then some (value - 65)
  else if 97 ≤ value ∧ value ≤ 122 then some (value - 97 + 26)
  else if 48 ≤ value ∧ value ≤ 57 then some (value - 48 + 52)
  else if value = 43 then some 62
  else if value = 47 then some 63
  else none

/-- Three bytes at a time become four letters. The last ones have letters for the bits there are,
and nothing in the place of the others. -/
def lettersOf : List UInt8 → List Char
  | [] => []
  | [first] => [letterOf (first.toNat / 4), letterOf (first.toNat % 4 * 16)]
  | [first, second] =>
      [letterOf (first.toNat / 4), letterOf (first.toNat % 4 * 16 + second.toNat / 16),
        letterOf (second.toNat % 16 * 4)]
  | first :: second :: third :: rest =>
      letterOf (first.toNat / 4) :: letterOf (first.toNat % 4 * 16 + second.toNat / 16) ::
        letterOf (second.toNat % 16 * 4 + third.toNat / 64) :: letterOf (third.toNat % 64) ::
          lettersOf rest

/-- Bytes as letters. -/
def base64Encode (bytes : List UInt8) : String := String.ofList (lettersOf bytes)

/-- The bytes that letters stand for. -/
def base64Decode? : List UInt8 → Option (List UInt8)
  | [] => some []
  | [_] => none
  | [first, second] => do
      return [(← letterBits? first) * 4 + (← letterBits? second) / 16].map Nat.toUInt8
  | [first, second, third] => do
      let middle ← letterBits? second
      let last ← letterBits? third
      return [(← letterBits? first) * 4 + middle / 16, middle % 16 * 16 + last / 4].map Nat.toUInt8
  | first :: second :: third :: fourth :: rest => do
      let left ← letterBits? second
      let right ← letterBits? third
      let bytes := [(← letterBits? first) * 4 + left / 16, left % 16 * 16 + right / 4,
        right % 4 * 64 + (← letterBits? fourth)].map Nat.toUInt8
      return bytes ++ (← base64Decode? rest)

end Backplane.Text
