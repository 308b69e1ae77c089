/-
This file reads decimal numbers.
-/

import Backplane.Bits

namespace Backplane.Decimal

def isDigit (character : Char) : Bool := '0' ≤ character && character ≤ '9'

def digitValue (character : Char) : Nat := character.toNat - '0'.toNat

/-- The number that a run of digits stands for. -/
def digitsValue (digits : List Char) : Nat :=
  digits.foldl (fun value digit => value * 10 + digitValue digit) 0

/-- A non-empty run of digits and nothing else. -/
def natural? (characters : List Char) : Option Nat :=
  if characters.isEmpty || !characters.all isDigit then none else some (digitsValue characters)

/-- An unsigned integer up to `most`, with an optional plus sign. -/
def unsigned? (most : Nat) (characters : List Char) : Option Nat :=
  let digits := match characters with
    | '+' :: rest => rest
    | _ => characters
  (natural? digits).filter (· ≤ most)

/-- A signed integer in `least … most`, with an optional sign. -/
def signed? (least most : Int) (characters : List Char) : Option Int :=
  let value := match characters with
    | '-' :: rest => (natural? rest).map fun magnitude => -(magnitude : Int)
    | '+' :: rest => (natural? rest).map Int.ofNat
    | _ => (natural? characters).map Int.ofNat
  value.filter fun number => least ≤ number && number ≤ most

/-- A signed integer of 64 bits. -/
def int64? (text : String) : Option Int :=
  signed? (Bits.leastSigned 64) (Bits.mostSigned 64) text.toList

/-- An unsigned integer of 64 bits. -/
def uint64? (text : String) : Option Nat := unsigned? (Bits.most 64) text.toList

/-- The double nearest to `digits * 10 ^ exponent`. -/
def nearestFloat (digits : Nat) (exponent : Int) : Float :=
  let place := ((Nat.toDigits 10 digits).length : Int) + exponent
  if digits = 0 then 0.0
  else if 310 < place then 1.0 / 0.0
  else if place < -330 then 0.0
  else Float.ofScientific digits (decide (exponent < 0)) exponent.natAbs

/-- The exponent part: nothing, or a mark and a signed run of digits. -/
def exponentPart? : List Char → Option Int
  | [] => some 0
  | mark :: rest =>
      if mark = 'e' ∨ mark = 'E' then
        match rest with
        | '-' :: digits => (natural? digits).map fun value => -(value : Int)
        | '+' :: digits => (natural? digits).map Int.ofNat
        | digits => (natural? digits).map Int.ofNat
      else none

/-- An unsigned decimal number with an optional fraction and exponent. -/
def magnitude? (characters : List Char) : Option Float :=
  let whole := characters.takeWhile isDigit
  let afterWhole := characters.dropWhile isDigit
  let (fraction, rest) := match afterWhole with
    | '.' :: tail => (tail.takeWhile isDigit, tail.dropWhile isDigit)
    | _ => ([], afterWhole)
  if whole.isEmpty && fraction.isEmpty then none
  else
    (exponentPart? rest).map fun exponent =>
      nearestFloat (digitsValue (whole ++ fraction)) (exponent - fraction.length)

/-- A decimal number, an infinity or no number, with an optional sign. -/
def float? (text : String) : Option Float :=
  let (negative, body) := match text.toList with
    | '-' :: rest => (true, rest)
    | '+' :: rest => (false, rest)
    | characters => (false, characters)
  let word := String.ofList (body.map Char.toLower)
  let value :=
    if word = "inf" ∨ word = "infinity" then some (1.0 / 0.0)
    else if word = "nan" then some (0.0 / 0.0)
    else magnitude? body
  value.map fun number => if negative then -number else number

end Backplane.Decimal
