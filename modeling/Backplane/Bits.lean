/-
This file bounds the numbers that a given number of bits holds.
-/

namespace Backplane.Bits

/-- How many numbers the bits tell apart. -/
def size (bits : Nat) : Nat := Nat.pow 2 bits

/-- The largest number without a sign. -/
def most (bits : Nat) : Nat := size bits - 1

/-- The largest number with a sign. -/
def mostSigned (bits : Nat) : Int := size (bits - 1) - 1

/-- The smallest number with a sign. -/
def leastSigned (bits : Nat) : Int := -size (bits - 1)

end Backplane.Bits
