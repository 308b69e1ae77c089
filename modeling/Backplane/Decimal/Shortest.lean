/-
This file finds the fewest decimal digits that read back as a given binary number.
-/

import Backplane.Decimal.Binary

namespace Backplane.Decimal

/-- The value `digits * 10 ^ exponent`. -/
structure Scaled where
  digits : Nat
  exponent : Int
deriving DecidableEq, Repr

/-- Where a value half way between two shortest candidates goes. -/
inductive Tie
  | up
  | even
deriving DecidableEq, Repr

/-- The numbers that read back as one binary number, over a common denominator. -/
structure Interval where
  low : Nat
  value : Nat
  high : Nat
  denominator : Nat
  closed : Bool

/-- Half the distance to each neighbour; the lower one is nearer below a power of two. -/
def Interval.around (format : Format) (significand : Nat) (exponent : Int) : Interval :=
  let nearBelow :=
    significand == Bits.size format.fractionBits && format.leastExponent < exponent
  let scale := if 2 ≤ exponent then Nat.pow 2 (exponent - 2).toNat else 1
  { low := (4 * significand - if nearBelow then 1 else 2) * scale
    value := 4 * significand * scale
    high := (4 * significand + 2) * scale
    denominator := if 2 ≤ exponent then 1 else Nat.pow 2 (2 - exponent).toNat
    closed := significand % 2 == 0 }

/-- Tells whether `numerator / denominator` reads back as the binary number. -/
def Interval.holds (interval : Interval) (numerator denominator : Nat) : Bool :=
  let point := numerator * interval.denominator
  let low := interval.low * denominator
  let high := interval.high * denominator
  if interval.closed then low ≤ point && point ≤ high else low < point && point < high

def digitCount (number : Nat) : Nat := (Nat.toDigits 10 number).length

/-- The place of the point: the value lies in `10 ^ (place - 1) … 10 ^ place`. -/
def Interval.place (interval : Interval) : Int :=
  (digitCount (interval.value * Nat.pow 10 400 / interval.denominator) : Int) - 400

/-- Drops the zeros at the end of the digits. -/
def trimZeros : (fuel : Nat) → Scaled → Scaled
  | 0, scaled => scaled
  | fuel + 1, scaled =>
      if scaled.digits ≠ 0 ∧ scaled.digits % 10 = 0 then
        trimZeros fuel ⟨scaled.digits / 10, scaled.exponent + 1⟩
      else scaled

/-- The nearer of the two neighbours of the value on the grid `10 ^ exponent` that reads back. -/
def Interval.onGrid? (interval : Interval) (tie : Tie) (exponent : Int) : Option Scaled :=
  let up := Nat.pow 10 exponent.toNat
  let down := Nat.pow 10 (-exponent).toNat
  let unit := interval.denominator * up
  let below := interval.value * down / unit
  let belowHolds := interval.holds (below * up) down
  let aboveHolds := interval.holds ((below + 1) * up) down
  let twice := 2 * (interval.value * down)
  let middle := (2 * below + 1) * unit
  let nearer :=
    if twice < middle then below
    else if middle < twice then below + 1
    else
      match tie with
      | .up => below + 1
      | .even => below + below % 2
  if belowHolds && aboveHolds then some ⟨nearer, exponent⟩
  else if belowHolds then some ⟨below, exponent⟩
  else if aboveHolds then some ⟨below + 1, exponent⟩
  else none

/-- Tries grids of more and more digits. -/
def Interval.search (interval : Interval) (tie : Tie) (place : Int) :
    (remaining digits : Nat) → Scaled
  | 0, digits => ⟨interval.value / interval.denominator, place - digits⟩
  | remaining + 1, digits =>
      match interval.onGrid? tie (place - digits) with
      | some scaled => trimZeros digits scaled
      | none => interval.search tie place remaining (digits + 1)

/-- The fewest digits that read back, and of those the nearest to the value. -/
def shortest (format : Format) (tie : Tie) (significand : Nat) (exponent : Int) : Scaled :=
  if significand = 0 then ⟨0, 0⟩
  else
    let interval := Interval.around format significand exponent
    interval.search tie interval.place 20 1

end Backplane.Decimal
