/-
This file defines spans of time in nanoseconds and writes them in the largest fitting unit.
-/

namespace Backplane

/-- A span of time. -/
structure Span where
  nanoseconds : Nat
deriving DecidableEq, Repr

namespace Span

def ofParts (seconds nanoseconds : Nat) : Span := ⟨seconds * 1000000000 + nanoseconds⟩

def ofSeconds (seconds : Nat) : Span := ⟨seconds * 1000000000⟩

def ofMilliseconds (milliseconds : Nat) : Span := ⟨milliseconds * 1000000⟩

def seconds (span : Span) : Nat := span.nanoseconds / 1000000000

/-- The whole milliseconds. -/
def milliseconds (span : Span) : Nat := span.nanoseconds / 1000000

/-- Drops the zeros at the end of a run of digits. -/
def trimZeros (digits : List Char) : List Char :=
  (digits.reverse.dropWhile (· = '0')).reverse

/-- A number of units with a fraction of the given number of digits, without zeros at its end. -/
def writeUnits (places amount : Nat) (unit : String) : String :=
  let whole := amount / Nat.pow 10 places
  let fraction := Nat.toDigits 10 (amount % Nat.pow 10 places)
  let padded := List.replicate (places - fraction.length) '0' ++ fraction
  let shown := trimZeros padded
  toString whole ++ (if shown.isEmpty then "" else "." ++ String.ofList shown) ++ unit

def write (span : Span) : String :=
  if 1000000000 ≤ span.nanoseconds then writeUnits 9 span.nanoseconds "s"
  else if 1000000 ≤ span.nanoseconds then writeUnits 6 span.nanoseconds "ms"
  else if 1000 ≤ span.nanoseconds then writeUnits 3 span.nanoseconds "µs"
  else writeUnits 0 span.nanoseconds "ns"

end Span

end Backplane
