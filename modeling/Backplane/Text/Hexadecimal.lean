/-
This file reads digits in bases up to sixteen, and characters by their numbers.
-/

import Backplane.Decimal.Read

namespace Backplane.Text

/-- The value of a hexadecimal digit. -/
def hexadecimalDigit? (character : Char) : Option Nat :=
  if Decimal.isDigit character then some (Decimal.digitValue character)
  else if 'a' ≤ character ∧ character ≤ 'f' then some (character.toNat - 'a'.toNat + 10)
  else if 'A' ≤ character ∧ character ≤ 'F' then some (character.toNat - 'A'.toNat + 10)
  else none

/-- The value of a digit in a base. -/
def digitIn? (base : Nat) (character : Char) : Option Nat :=
  (hexadecimalDigit? character).filter (· < base)

def isDigitIn (base : Nat) (character : Char) : Bool := (digitIn? base character).isSome

/-- The number that a non-empty run of digits stands for. -/
def digitsIn? (base : Nat) (characters : List Char) : Option Nat :=
  if characters.isEmpty then none
  else do
    let digits ← characters.mapM (digitIn? base)
    return digits.foldl (fun value digit => value * base + digit) 0

/-- A character from its number. -/
def character? (number : Nat) : Option Char :=
  if h : number.isValidChar then some ⟨number.toUInt32, by
    have bound : number < UInt32.size := by
      rcases h with low | ⟨_, high⟩ <;> simp [UInt32.size] <;> omega
    simpa [UInt32.isValidChar, Nat.toUInt32, UInt32.toNat_ofNat_of_lt' bound] using h⟩
  else none

/-- The character with a number of exactly so many hexadecimal digits, and what follows it. -/
def hexadecimalCharacter? (count : Nat) (characters : List Char) : Option (Char × List Char) := do
  let digits := characters.take count
  if digits.length < count then none
  return (← character? (← digitsIn? 16 digits), characters.drop count)

end Backplane.Text
