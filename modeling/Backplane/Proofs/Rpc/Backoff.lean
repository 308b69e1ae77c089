import Backplane.Proofs.Decimal.Whole
import Backplane.Rpc.Retry

namespace Backplane.Rpc.Retry

open Decimal

/-- Squaring again and again reckons exactly with powers of two. -/
theorem whole_power {result base : Float} {first growth : Nat} (exponent : Nat)
    (start : Whole result (2 ^ first)) (step : Whole base (2 ^ growth)) :
    Whole (power result base exponent) (2 ^ (first + growth * exponent)) := by
  induction exponent using Nat.strongRecOn generalizing result base first growth with
  | ind exponent ih =>
      have grown : Whole (if exponent % 2 = 1 then result * base else result)
          (2 ^ (first + growth * (exponent % 2))) := by
        rcases Nat.mod_two_eq_zero_or_one exponent with even | odd
        · simpa [even] using start
        · simpa [odd, Nat.pow_add] using start.mul (Nat.two_pow_pos first).ne' step
      have halves : first + growth * exponent =
          first + growth * (exponent % 2) + 2 * growth * (exponent / 2) := by
        calc
          first + growth * exponent = first + growth * (exponent % 2 + 2 * (exponent / 2)) := by
            rw [Nat.mod_add_div]
          _ = first + growth * (exponent % 2) + 2 * growth * (exponent / 2) := by ring
      rw [power, halves]
      by_cases last : exponent / 2 = 0
      · rw [if_pos last, last]
        simpa using grown
      · have squared : Whole (base * base) (2 ^ (2 * growth)) := by
          rw [Nat.two_mul, Nat.pow_add]
          exact step.mul (Nat.two_pow_pos growth).ne' step
        rw [if_neg last]
        exact ih (exponent / 2) (by omega) grown squared

section Comparison

variable {left right : Float} {number other : Nat}

/-- The smaller of two whole numbers. -/
theorem whole_smaller (whole : Whole left number) (also : Whole right other)
    (small : other < 2 ^ 53) : Whole (smaller left right) (min number other) := by
  rw [smaller, whole.isNaN_eq, also.isNaN_eq]
  simp only [Bool.false_eq_true, if_false, also.lt_iff whole small]
  split
  · rwa [min_eq_right (by omega)]
  · rwa [min_eq_left (by omega)]

/-- The larger of two whole numbers. -/
theorem whole_larger (whole : Whole left number) (also : Whole right other)
    (small : number < 2 ^ 53) : Whole (larger left right) (max number other) := by
  rw [larger, whole.isNaN_eq, also.isNaN_eq]
  simp only [Bool.false_eq_true, if_false, whole.lt_iff also small]
  split
  · rwa [max_eq_right (by omega)]
  · rwa [max_eq_left (by omega)]

/-- What is no number gives way to the other. -/
theorem smaller_of_isNaN (none : left.isNaN = true) : smaller left right = right := by
  rw [smaller, if_pos none]

end Comparison

theorem whole_one : Whole 1.0 (2 ^ 0) := .placed (.ofPower 0) rfl

theorem whole_zero : Whole 0.0 0 := .zero rfl

section Exponents

variable {growth attempt bound : Nat}

/-- A multiplier that grows exceeds every bound within the largest exponent. -/
theorem le_largestExponent_mul (grows : 0 < growth) (few : bound ≤ 1024) :
    bound ≤ growth * largestExponent :=
  (few.trans (by decide : 1024 ≤ largestExponent)).trans (Nat.le_mul_of_pos_left _ grows)

/-- A power is infinite or not, whether or not its exponent is cut. -/
theorem le_mul_min_iff :
    1024 ≤ growth * min attempt largestExponent ↔ 1024 ≤ growth * attempt := by
  rcases Nat.le_total attempt largestExponent with kept | cut
  · rw [Nat.min_eq_left kept]
  · rw [Nat.min_eq_right cut]
    rcases Nat.eq_zero_or_pos growth with rfl | grows
    · simp
    · have full := le_largestExponent_mul grows (Nat.le_refl 1024)
      exact iff_of_true full (full.trans (Nat.mul_le_mul_left growth cut))

/-- An exponent that is cut leaves a power above every pause, so its product is cut anyway. -/
theorem min_mul_pow_min {initial longest : Nat} (small : longest < 2 ^ 53) :
    min (initial * 2 ^ (growth * min attempt largestExponent)) longest =
      min (initial * 2 ^ (growth * attempt)) longest := by
  rcases Nat.le_total attempt largestExponent with kept | cut
  · rw [Nat.min_eq_left kept]
  · rw [Nat.min_eq_right cut]
    rcases Nat.eq_zero_or_pos growth with rfl | grows
    · simp
    rcases Nat.eq_zero_or_pos initial with rfl | positive
    · simp
    have above (exponent : Nat) (many : 53 ≤ exponent) : longest ≤ initial * 2 ^ exponent :=
      (small.le.trans (Nat.pow_le_pow_right (by decide) many)).trans
        (Nat.le_mul_of_pos_left _ positive)
    have many := le_largestExponent_mul grows (by decide : 53 ≤ 1024)
    rw [Nat.min_eq_right (above _ many),
      Nat.min_eq_right (above _ (many.trans (Nat.mul_le_mul_left growth cut)))]

end Exponents

section Backoff

variable {retry : Retry} {growth : Nat}

/-- What remains of a pause after the cut, in milliseconds. -/
theorem toNat_larger {delay : Float} {number : Nat} (whole : Whole delay number)
    (small : number < 2 ^ 53) : (larger delay 0.0).toUInt64.toNat = number := by
  have positive := whole_larger whole whole_zero small
  rw [Nat.max_zero] at positive
  exact positive.toNat_toUInt64 small

/-- A power of a power of two is whole. -/
theorem whole_power_multiplier
    (isPower : (Binary.ofFloat retry.multiplier).value? = some (2 ^ growth)) (attempt : UInt32) :
    Whole (power 1.0 retry.multiplier (min attempt.toNat largestExponent))
      (2 ^ (growth * min attempt.toNat largestExponent)) := by
  have power := whole_power (min attempt.toNat largestExponent) whole_one
    (whole_of_value isPower).2
  rwa [Nat.zero_add] at power

variable (longestSmall : retry.maxBackoff.toNat < 2 ^ 53)
include longestSmall

/-- A pause that is computed without rounding is capped. -/
theorem toNat_backoff_of_whole {attempt : UInt32} {number : Nat}
    (whole : Whole (retry.initialBackoff.toFloat *
      power 1.0 retry.multiplier (min attempt.toNat largestExponent)) number) :
    (retry.backoff attempt).toNat = min number retry.maxBackoff.toNat := by
  have cut := whole_smaller whole (.ofWord _ longestSmall) longestSmall
  exact toNat_larger cut ((Nat.min_le_right _ _).trans_lt longestSmall)

/-- A pause that is no number is the longest one. -/
theorem toNat_backoff_of_isNaN {attempt : UInt32}
    (none : (retry.initialBackoff.toFloat *
      power 1.0 retry.multiplier (min attempt.toNat largestExponent)).isNaN = true) :
    (retry.backoff attempt).toNat = retry.maxBackoff.toNat := by
  rw [backoff, smaller_of_isNaN none]
  exact toNat_larger (.ofWord _ longestSmall) longestSmall

variable (isPower : (Binary.ofFloat retry.multiplier).value? = some (2 ^ growth))
  {attempt : UInt32}
include isPower

/-- Nothing times an infinite power is no number, and the longest pause takes its place. -/
theorem backoff_of_infinite (none : retry.initialBackoff = 0)
    (infinite : 1024 ≤ growth * attempt.toNat) : retry.backoff attempt = retry.maxBackoff := by
  apply UInt64.toNat_inj.mp
  apply toNat_backoff_of_isNaN longestSmall
  rw [none]
  exact Whole.isNaN_zero_mul (.zero rfl) (whole_power_multiplier isPower attempt)
    (le_mul_min_iff.mpr infinite)

variable (initialSmall : retry.initialBackoff.toNat < 2 ^ 53)
include initialSmall

/-- Otherwise a pause is the initial one times a power of the multiplier, up to the longest one. -/
theorem toNat_backoff (finite : ¬(retry.initialBackoff = 0 ∧ 1024 ≤ growth * attempt.toNat)) :
    (retry.backoff attempt).toNat =
      min (retry.initialBackoff.toNat * (2 ^ growth) ^ attempt.toNat) retry.maxBackoff.toNat := by
  have power := whole_power_multiplier isPower attempt
  rw [← Nat.pow_mul, ← min_mul_pow_min longestSmall]
  apply toNat_backoff_of_whole longestSmall
  by_cases none : retry.initialBackoff = 0
  · have room : growth * min attempt.toNat largestExponent < 1024 :=
      Nat.not_le.mp fun infinite => finite ⟨none, le_mul_min_iff.mp infinite⟩
    rw [none, UInt64.toNat_zero, Nat.zero_mul]
    exact Whole.zero_mul (.zero rfl) power room
  · have some : retry.initialBackoff.toNat ≠ 0 := fun zero => none (UInt64.toNat_inj.mp zero)
    exact (Whole.ofWord _ initialSmall).mul some power

/-- No pause is longer than the longest one. -/
theorem backoff_le (attempt : UInt32) : retry.backoff attempt ≤ retry.maxBackoff := by
  by_cases infinite : retry.initialBackoff = 0 ∧ 1024 ≤ growth * attempt.toNat
  · rw [backoff_of_infinite longestSmall isPower infinite.1 infinite.2]
    exact UInt64.le_refl _
  · rw [UInt64.le_iff_toNat_le, toNat_backoff longestSmall isPower initialSmall infinite]
    exact Nat.min_le_right _ _

/-- Pauses never get shorter. -/
theorem backoff_mono {earlier later : UInt32} (order : earlier ≤ later) :
    retry.backoff earlier ≤ retry.backoff later := by
  by_cases infinite : retry.initialBackoff = 0 ∧ 1024 ≤ growth * later.toNat
  · rw [backoff_of_infinite longestSmall isPower infinite.1 infinite.2]
    exact backoff_le longestSmall isPower initialSmall earlier
  · have fewer : growth * earlier.toNat ≤ growth * later.toNat :=
      Nat.mul_le_mul_left growth (UInt32.le_iff_toNat_le.mp order)
    have also : ¬(retry.initialBackoff = 0 ∧ 1024 ≤ growth * earlier.toNat) :=
      fun early => infinite ⟨early.1, early.2.trans fewer⟩
    rw [UInt64.le_iff_toNat_le, toNat_backoff longestSmall isPower initialSmall infinite,
      toNat_backoff longestSmall isPower initialSmall also, ← Nat.pow_mul, ← Nat.pow_mul]
    exact min_le_min_right _ (Nat.mul_le_mul_left _ (Nat.pow_le_pow_right (by decide) fewer))

end Backoff

/-- The pauses of a policy whose multiplier is a power of two, and whose initial and longest pauses
are exact as floats, form a geometric sequence up to the longest pause: none is longer, and none is
shorter than one before. Only without an initial pause the sequence does not stay so: it jumps to
the longest pause as soon as the power of the multiplier is infinite. -/
theorem backoff_geometric_iff (retry : Retry) (growth : Nat)
    (isPower : (Binary.ofFloat retry.multiplier).value? = some (2 ^ growth))
    (initialSmall : retry.initialBackoff.toNat < 2 ^ 53)
    (longestSmall : retry.maxBackoff.toNat < 2 ^ 53) :
    (∀ attempt, (retry.backoff attempt).toNat =
        min (retry.initialBackoff.toNat * (2 ^ growth) ^ attempt.toNat) retry.maxBackoff.toNat ↔
      ¬(retry.initialBackoff = 0 ∧ retry.maxBackoff ≠ 0 ∧ 1024 ≤ growth * attempt.toNat)) ∧
    (∀ attempt, retry.initialBackoff = 0 → 1024 ≤ growth * attempt.toNat →
      retry.backoff attempt = retry.maxBackoff) ∧
    (∀ attempt, retry.backoff attempt ≤ retry.maxBackoff) ∧
    ∀ earlier later, earlier ≤ later → retry.backoff earlier ≤ retry.backoff later := by
  refine ⟨fun attempt => ⟨?_, ?_⟩, fun attempt => backoff_of_infinite longestSmall isPower,
    backoff_le longestSmall isPower initialSmall,
    fun earlier later => backoff_mono longestSmall isPower initialSmall⟩
  · rintro exact ⟨none, some, infinite⟩
    rw [backoff_of_infinite longestSmall isPower none infinite, none, UInt64.toNat_zero,
      Nat.zero_mul, Nat.zero_min] at exact
    exact some (UInt64.toNat_inj.mp exact)
  · intro stays
    by_cases infinite : retry.initialBackoff = 0 ∧ 1024 ≤ growth * attempt.toNat
    · have never : retry.maxBackoff = 0 := by
        by_contra some
        exact stays ⟨infinite.1, some, infinite.2⟩
      rw [backoff_of_infinite longestSmall isPower infinite.1 infinite.2, never]
      exact (Nat.min_zero _).symm
    · exact toNat_backoff longestSmall isPower initialSmall infinite

/-- A policy that calls again at once. -/
def impatient : Retry := { initialBackoff := 0, maxBackoff := 100 }

/-- Such a policy makes no pauses at first. -/
theorem backoff_geometric_iff_impatient :
    (Binary.ofFloat impatient.multiplier).value? = some (2 ^ 1) ∧
      impatient.initialBackoff.toNat < 2 ^ 53 ∧ impatient.maxBackoff.toNat < 2 ^ 53 ∧
        (impatient.backoff 1023).toNat = 0 ∧ impatient.backoff 4294967295 = 100 := by
  have isPower : (Binary.ofFloat impatient.multiplier).value? = some (2 ^ 1) := by decide +kernel
  have initialSmall : impatient.initialBackoff.toNat < 2 ^ 53 := by decide
  have longestSmall : impatient.maxBackoff.toNat < 2 ^ 53 := by decide
  have pauses := backoff_geometric_iff impatient 1 isPower initialSmall longestSmall
  refine ⟨isPower, initialSmall, longestSmall, ?_, pauses.2.1 _ rfl (by decide)⟩
  have none : impatient.initialBackoff.toNat = 0 := rfl
  rw [(pauses.1 1023).mpr (by decide), none, Nat.zero_mul, Nat.zero_min]

/-- Where the power is infinite, such a policy makes the longest pause instead of none. -/
theorem backoff_jumps :
    impatient.backoff 1024 = 100 ∧
      min (impatient.initialBackoff.toNat * (2 ^ 1) ^ (1024 : UInt32).toNat)
        impatient.maxBackoff.toNat = 0 := by
  have none : impatient.initialBackoff.toNat = 0 := rfl
  refine ⟨by decide +kernel, ?_⟩
  rw [none, Nat.zero_mul, Nat.zero_min]

end Backplane.Rpc.Retry
