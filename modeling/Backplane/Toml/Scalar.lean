/-
This file reads TOML numbers, truth values, dates and times.
-/

import Backplane.Bits
import Backplane.Json.Value
import Backplane.Text.Fields
import Backplane.Text.Hexadecimal

namespace Backplane.Toml

/-- Digits with underscores between them, without the underscores. -/
def plainDigits? (isDigit : Char → Bool) (characters : List Char) : Option (List Char) :=
  let groups := Text.fields '_' characters
  if groups.all fun group => !group.isEmpty && group.all isDigit then some groups.flatten
  else none

/-- A natural number in a base. -/
def natural? (base : Nat) (characters : List Char) : Option Nat := do
  Text.digitsIn? base (← plainDigits? (Text.isDigitIn base) characters)

/-- Digits of a decimal number; more than one do not start with a zero. -/
def decimalDigits? (characters : List Char) : Option (List Char) := do
  let digits ← plainDigits? Decimal.isDigit characters
  match digits with
  | '0' :: _ :: _ => none
  | _ => return digits

/-- A sign in front and what follows it. -/
def splitSign : List Char → List Char × List Char
  | '+' :: rest => (['+'], rest)
  | '-' :: rest => (['-'], rest)
  | characters => ([], characters)

/-- An integer of 64 bits. -/
def integer? (characters : List Char) : Option Int := do
  let value : Int ← match characters with
    | '0' :: 'x' :: digits => Int.ofNat <$> natural? 16 digits
    | '0' :: 'o' :: digits => Int.ofNat <$> natural? 8 digits
    | '0' :: 'b' :: digits => Int.ofNat <$> natural? 2 digits
    | _ => do
        let (sign, digits) := splitSign characters
        let magnitude : Int := Decimal.digitsValue (← decimalDigits? digits)
        pure (if sign = ['-'] then -magnitude else magnitude)
  if Bits.leastSigned 64 ≤ value ∧ value ≤ Bits.mostSigned 64 then some value else none

/-- A fraction behind its point. -/
def fraction? (characters : List Char) : Option (List Char) :=
  plainDigits? Decimal.isDigit characters

/-- An exponent behind its mark. -/
def exponent? (characters : List Char) : Option (List Char) := do
  let (sign, digits) := splitSign characters
  return sign ++ (← plainDigits? Decimal.isDigit digits)

/-- A number with a fraction or an exponent. -/
def float? (characters : List Char) : Option Float := do
  let (sign, body) := splitSign characters
  if body = "inf".toList ∨ body = "nan".toList then
    Decimal.float? (String.ofList (sign ++ body))
  else
    let mantissa := body.takeWhile fun character => character ≠ 'e' && character ≠ 'E'
    let power := body.drop mantissa.length
    let whole := mantissa.takeWhile (· ≠ '.')
    let tail := mantissa.drop whole.length
    if tail.isEmpty && power.isEmpty then none
    let digits ← decimalDigits? whole
    let fraction ← if tail.isEmpty then pure [] else (['.'] ++ ·) <$> fraction? (tail.drop 1)
    let exponent ← if power.isEmpty then pure [] else (['e'] ++ ·) <$> exponent? (power.drop 1)
    let value ← Decimal.float? (String.ofList (sign ++ digits ++ fraction ++ exponent))
    if value.isInf then none else return value

/-- A number of exactly so many digits within bounds. -/
def field? (count least most : Nat) (characters : List Char) : Option Unit := do
  let value ← Decimal.natural? characters
  if characters.length = count ∧ least ≤ value ∧ value ≤ most then some () else none

def isLeap (year : Nat) : Bool := year % 4 == 0 && (year % 100 != 0 || year % 400 == 0)

def daysIn (year month : Nat) : Nat :=
  if month = 2 then if isLeap year then 29 else 28
  else if month = 4 ∨ month = 6 ∨ month = 9 ∨ month = 11 then 30
  else 31

/-- Tells whether a text is a date. -/
def isDate (characters : List Char) : Bool :=
  match Text.fields '-' characters with
  | [year, month, day] =>
      let last := daysIn (Decimal.digitsValue year) (Decimal.digitsValue month)
      (field? 4 0 9999 year).isSome && (field? 2 1 12 month).isSome &&
        (field? 2 1 last day).isSome
  | _ => false

/-- The usual text of a fraction of a second: nanoseconds without zeros at the end. -/
def secondFraction? (digits : List Char) : Option (List Char) := do
  let _ ← Decimal.natural? digits
  let kept := ((digits.take 9).reverse.dropWhile (· = '0')).reverse
  return '.' :: if kept.isEmpty then ['0'] else kept

/-- The usual text of a time; seconds may be left out. -/
def time? (characters : List Char) : Option (List Char) := do
  match Text.fields ':' characters with
  | [hour, minute] =>
      field? 2 0 23 hour
      field? 2 0 59 minute
      return characters
  | [hour, minute, rest] =>
      let second := rest.takeWhile (· ≠ '.')
      field? 2 0 23 hour
      field? 2 0 59 minute
      field? 2 0 60 second
      let fraction ← match rest.drop second.length with
        | [] => pure []
        | _ :: digits => secondFraction? digits
      return hour ++ [':'] ++ minute ++ [':'] ++ second ++ fraction
  | _ => none

/-- The usual text of the distance from universal time; no distance has a plus sign. -/
def offset? (characters : List Char) : Option (List Char) := do
  match characters with
  | ['Z'] | ['z'] => return ['Z']
  | sign :: rest =>
      match Text.fields ':' rest with
      | [hour, minute] =>
          field? 2 0 23 hour
          field? 2 0 59 minute
          let zero := Decimal.digitsValue (hour ++ minute) = 0
          if sign = '+' ∨ (sign = '-' ∧ zero) then return '+' :: rest
          else if sign = '-' then return characters
          else none
      | _ => none
  | [] => none

/-- The usual text of a time with an optional distance from universal time. -/
def fullTime? (characters : List Char) : Option (List Char) := do
  let clock := characters.takeWhile fun character =>
    character ≠ 'Z' && character ≠ 'z' && character ≠ '+' && character ≠ '-'
  let behind := characters.drop clock.length
  let offset ← if behind.isEmpty then pure [] else offset? behind
  return (← time? clock) ++ offset

/-- The usual text of a date, a time or both. -/
def moment? (characters : List Char) : Option (List Char) :=
  if isDate characters then some characters
  else
    match time? characters with
    | some clock => some clock
    | none =>
        let date := characters.take 10
        match characters.drop 10 with
        | part :: rest =>
            if isDate date && (part = 'T' || part = 't' || part = ' ') then
              (date ++ ['T'] ++ ·) <$> fullTime? rest
            else none
        | [] => none

/-- What a word without quotes stands for. Dates and times become texts. -/
def word? (characters : List Char) : Option Json :=
  if characters = "true".toList then some (.boolean true)
  else if characters = "false".toList then some (.boolean false)
  else
    match integer? characters, float? characters, moment? characters with
    | some value, _, _ => some (.integer value)
    | none, some value, _ => some (.float value)
    | none, none, some moment => some (.string (String.ofList moment))
    | none, none, none => none

end Backplane.Toml
