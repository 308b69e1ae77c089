/-
This file reads the bits of a binary floating-point number as an exact value.
-/

import Backplane.Bits

namespace Backplane.Decimal

/-- The widths of the stored fraction and of the exponent. -/
structure Format where
  fractionBits : Nat
  exponentBits : Nat

def Format.double : Format := ⟨52, 11⟩

def Format.single : Format := ⟨23, 8⟩

def Format.bias (format : Format) : Nat := Bits.most (format.exponentBits - 1)

/-- The exponent of the smallest positive number. -/
def Format.leastExponent (format : Format) : Int :=
  1 - (format.bias : Int) - (format.fractionBits : Int)

/-- A finite number is `significand * 2 ^ exponent` with a sign. -/
inductive Binary
  | notANumber
  | infinite (negative : Bool)
  | finite (negative : Bool) (significand : Nat) (exponent : Int)

def Binary.ofBits (format : Format) (bits : Nat) : Binary :=
  let fraction := bits % Bits.size format.fractionBits
  let stored := bits / Bits.size format.fractionBits % Bits.size format.exponentBits
  let negative := bits / Bits.size (format.fractionBits + format.exponentBits) % 2 == 1
  if stored = Bits.most format.exponentBits then
    if fraction = 0 then .infinite negative else .notANumber
  else if stored = 0 then
    .finite negative fraction format.leastExponent
  else
    .finite negative (Bits.size format.fractionBits + fraction) (format.leastExponent + stored - 1)

def Binary.ofFloat (number : Float) : Binary :=
  .ofBits .double number.toBits.toNat

def Binary.ofSingle (number : Float32) : Binary :=
  .ofBits .single number.toBits.toNat

/-- The nearest integer, a half going away from zero, cut to `low … high`; zero for no number. -/
def Binary.toNearest (low high : Int) : Binary → Int
  | .notANumber => 0
  | .infinite negative => if negative then low else high
  | .finite negative significand exponent =>
      let magnitude :=
        if 0 ≤ exponent then significand * Nat.pow 2 exponent.toNat
        else
          let unit := Nat.pow 2 (-exponent).toNat
          (2 * significand + unit) / (2 * unit)
      let rounded : Int := if negative then -(magnitude : Int) else magnitude
      max low (min high rounded)

end Backplane.Decimal
