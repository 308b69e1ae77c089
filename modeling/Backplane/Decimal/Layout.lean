/-
This file writes shortest digits in a chosen layout.
-/

import Backplane.Decimal.Shortest

namespace Backplane.Decimal

/-- The decisions of one number format. -/
structure Layout where
  /-- The places of the point that are written without an exponent, if not all. -/
  positional : Option (Int × Int)
  /-- What follows a number without a fraction. -/
  whole : String
  /-- What stands before an exponent that is not negative. -/
  plus : String
  infinity : String
  notANumber : String
  tie : Tie

/-- No exponent ever, and no fraction on a whole number. -/
def Layout.plain : Layout := ⟨none, "", "", "inf", "NaN", .up⟩

/-- An exponent outside `1e-5 … 1e16`, with a sign when it is not negative. -/
def Layout.json : Layout := ⟨some (-4, 16), ".0", "+", "null", "null", .even⟩

/-- An exponent outside `1e-5 … 1e16`, without a sign when it is not negative. -/
def Layout.score : Layout := ⟨some (-4, 16), ".0", "", "inf", "NaN", .even⟩

def zeros (count : Nat) : String := String.ofList (List.replicate count '0')

/-- Digits around the point at `place`. -/
def Layout.writePositional (layout : Layout) (digits : String) (place : Int) : String :=
  let count := digits.toList.length
  if (count : Int) ≤ place then digits ++ zeros (place - count).toNat ++ layout.whole
  else if 0 < place then
    String.ofList (digits.toList.take place.toNat) ++ "." ++
      String.ofList (digits.toList.drop place.toNat)
  else "0." ++ zeros (-place).toNat ++ digits

/-- One digit before the point, and an exponent. -/
def Layout.writeScientific (layout : Layout) (digits : String) (place : Int) : String :=
  let mantissa :=
    match digits.toList with
    | [] => ""
    | [digit] => String.singleton digit
    | digit :: rest => String.singleton digit ++ "." ++ String.ofList rest
  let exponent := place - 1
  mantissa ++ "e" ++ (if 0 ≤ exponent then layout.plus else "") ++ toString exponent

def Layout.writeMagnitude (layout : Layout) (scaled : Scaled) : String :=
  if scaled.digits = 0 then "0" ++ layout.whole
  else
    let digits := String.ofList (Nat.toDigits 10 scaled.digits)
    let place := (digits.toList.length : Int) + scaled.exponent
    match layout.positional with
    | none => layout.writePositional digits place
    | some (lowest, highest) =>
        if lowest ≤ place ∧ place ≤ highest then layout.writePositional digits place
        else layout.writeScientific digits place

def Layout.write (layout : Layout) (format : Format) : Binary → String
  | .notANumber => layout.notANumber
  | .infinite negative => (if negative then "-" else "") ++ layout.infinity
  | .finite negative significand exponent =>
      (if negative then "-" else "") ++
        layout.writeMagnitude (shortest format layout.tie significand exponent)

/-- The text of a double in the given layout. -/
def Layout.float (layout : Layout) (number : Float) : String :=
  layout.write .double (.ofFloat number)

/-- The text of a single in the given layout. -/
def Layout.single (layout : Layout) (number : Float32) : String :=
  layout.write .single (.ofSingle number)

/-- The plain text of a double. -/
def plain (number : Float) : String := Layout.plain.float number

end Backplane.Decimal
