import Backplane.Decimal.Binary
import Mathlib

namespace Backplane.Decimal

open Float.Model (Format totalExponent UnpackedFloat)
open Float.Model.UnpackedFloat

/-- A whole number whose highest binary digit has the given place and whose first 53 digits, the
significand, are all it has: `number = significand * 2 ^ (place - 52)`. -/
structure Placed (number significand place : Nat) : Prop where
  scaled : number * 2 ^ 52 = significand * 2 ^ place
  low : 2 ^ 52 ≤ significand
  high : significand < 2 ^ 53

namespace Placed

variable {number other significand otherSignificand place otherPlace : Nat}

/-- A small number other than zero has a place. -/
theorem ofSmall (positive : number ≠ 0) (small : number < 2 ^ 53) :
    Placed number (number * 2 ^ (52 - number.log2)) number.log2 := by
  have first : 2 ^ number.log2 ≤ number := Nat.log2_self_le positive
  have last : number < 2 ^ (number.log2 + 1) := Nat.lt_log2_self
  have few : number.log2 < 53 := (Nat.log2_lt positive).mpr small
  have whole : 2 ^ (52 - number.log2) * 2 ^ number.log2 = 2 ^ 52 := by
    rw [← Nat.pow_add, Nat.sub_add_cancel (by omega)]
  refine ⟨?_, ?_, ?_⟩
  · rw [Nat.mul_assoc, whole]
  · rw [← whole, Nat.mul_comm]
    exact Nat.mul_le_mul_right _ first
  · calc
      number * 2 ^ (52 - number.log2) < 2 ^ (number.log2 + 1) * 2 ^ (52 - number.log2) :=
        Nat.mul_lt_mul_of_pos_right last (Nat.two_pow_pos _)
      _ = 2 ^ 53 := by rw [← Nat.pow_add]; congr 1; omega

/-- A power of two has the leading digit and nothing else. -/
theorem ofPower (exponent : Nat) : Placed (2 ^ exponent) (2 ^ 52) exponent :=
  ⟨Nat.mul_comm _ _, Nat.le_refl _, by decide⟩

/-- Doubling a number moves its place. -/
theorem shift (placed : Placed number significand place) (exponent : Nat) :
    Placed (number * 2 ^ exponent) significand (place + exponent) := by
  refine ⟨?_, placed.low, placed.high⟩
  rw [Nat.mul_right_comm, placed.scaled, Nat.pow_add, Nat.mul_assoc]

/-- A number is not below its leading power. -/
theorem lower (placed : Placed number significand place) : 2 ^ place ≤ number := by
  have scaled := placed.scaled
  have low := Nat.mul_le_mul_right (2 ^ place) placed.low
  omega

/-- A number is below the power behind its leading one. -/
theorem upper (placed : Placed number significand place) : number < 2 ^ (place + 1) := by
  have scaled := placed.scaled
  have high := Nat.mul_lt_mul_of_pos_right placed.high (Nat.two_pow_pos place)
  rw [Nat.pow_succ]
  omega

/-- A number is below a power of two exactly if its place is. -/
theorem lt_pow_iff (placed : Placed number significand place) (exponent : Nat) :
    number < 2 ^ exponent ↔ place < exponent := by
  constructor
  · intro small
    exact (Nat.pow_lt_pow_iff_right (by decide)).mp (placed.lower.trans_lt small)
  · intro before
    exact placed.upper.trans_le (Nat.pow_le_pow_right (by decide) before)

/-- Numbers are ordered by their places, and at one place by their significands. -/
theorem lt_iff (placed : Placed number significand place)
    (otherPlaced : Placed other otherSignificand otherPlace) :
    number < other ↔ place < otherPlace ∨ place = otherPlace ∧ significand < otherSignificand := by
  have scaled := placed.scaled
  have otherScaled := otherPlaced.scaled
  rcases Nat.lt_trichotomy place otherPlace with before | rfl | behind
  · have below : number < other :=
      ((placed.lt_pow_iff _).mpr before).trans_le otherPlaced.lower
    exact iff_of_true below (.inl before)
  · have cancel : significand * 2 ^ place < otherSignificand * 2 ^ place ↔
        significand < otherSignificand := Nat.mul_lt_mul_right (Nat.two_pow_pos place)
    rw [← scaled, ← otherScaled, Nat.mul_lt_mul_right (Nat.two_pow_pos 52)] at cancel
    simp [cancel]
  · have above : other < number :=
      ((otherPlaced.lt_pow_iff _).mpr behind).trans_le placed.lower
    omega

/-- The significand is not zero. -/
theorem positive (placed : Placed number significand place) : 0 < significand :=
  (Nat.two_pow_pos 52).trans_le placed.low

/-- A placed number is not zero. -/
theorem ne_zero (placed : Placed number significand place) : number ≠ 0 :=
  ((Nat.two_pow_pos place).trans_le placed.lower).ne'

/-- The highest binary digit has the place. -/
theorem log2_eq (placed : Placed number significand place) : number.log2 = place :=
  (Nat.log2_eq_iff placed.ne_zero).mpr ⟨placed.lower, placed.upper⟩

/-- A significand is itself a number at the last place without fractions. -/
theorem ofSignificand (placed : Placed number significand place) :
    Placed significand significand 52 := ⟨rfl, placed.low, placed.high⟩

/-- A number has one place and one significand. -/
theorem unique (placed : Placed number significand place)
    (also : Placed number otherSignificand otherPlace) :
    significand = otherSignificand ∧ place = otherPlace := by
  obtain rfl : place = otherPlace := placed.log2_eq.symm.trans also.log2_eq
  have scaled : significand * 2 ^ place = otherSignificand * 2 ^ place :=
    placed.scaled.symm.trans also.scaled
  exact ⟨Nat.eq_of_mul_eq_mul_right (Nat.two_pow_pos place) scaled, rfl⟩

/-- A number without digits behind the last place of its significand is cut off nowhere. -/
theorem significand_eq (placed : Placed number significand place) (last : place ≤ 52) :
    significand = number * 2 ^ (52 - place) := by
  have whole : 2 ^ (52 - place) * 2 ^ place = 2 ^ 52 := by
    rw [← Nat.pow_add, Nat.sub_add_cancel last]
  have scaled : number * 2 ^ (52 - place) * 2 ^ place = significand * 2 ^ place := by
    rw [Nat.mul_assoc, whole, placed.scaled]
  exact (Nat.eq_of_mul_eq_mul_right (Nat.two_pow_pos place) scaled).symm

end Placed

/-- The number with a significand at a place, or infinity where there is no room for the place. -/
def atPlace (significand place : Nat) (positive : 0 < significand) : UnpackedFloat :=
  if place < 1024 then .finite .positive significand (place - 52) positive else .infinity .positive

section Rounding

variable {number significand place : Nat}

/-- The exponent to which a number in this form is rounded. -/
theorem targetExponent_eq (mantissa : Nat) (exponent : Int) :
    Format.binary64.targetExponent (totalExponent mantissa exponent) =
      max (mantissa.log2 + exponent - 52) (-1074) := by
  simp only [Format.targetExponent, totalExponent, Format.mantissaBits, Format.minExponent]
  omega

/-- Digits that are zero are dropped without a trace. -/
theorem shiftRight_exact (mantissa count : Nat) :
    ExtendedMantissa.ofMantissaAndAccuracy (mantissa * 2 ^ count) .exact >>> count =
      ExtendedMantissa.ofMantissaAndAccuracy mantissa .exact := by
  change Nat.repeat ExtendedMantissa.shiftRightOne count _ = _
  induction count generalizing mantissa with
  | zero => simp [Nat.repeat]
  | succ count ih =>
      have split : mantissa * 2 ^ (count + 1) = mantissa * 2 * 2 ^ count := by ring
      rw [Nat.repeat, split, ih]
      simp [ExtendedMantissa.shiftRightOne, ExtendedMantissa.ofMantissaAndAccuracy]

/-- Zeros at the end are shifted out without loss. -/
theorem shiftToTargetExponent_eq (mantissa count : Nat) (exponent : Int)
    (target : max ((mantissa * 2 ^ count).log2 + (exponent - count) - 52) (-1074) = exponent) :
    shiftToTargetExponent .binary64 (mantissa * 2 ^ count) (exponent - count) .exact =
      (ExtendedMantissa.ofMantissaAndAccuracy mantissa .exact, exponent) := by
  have dropped : (exponent - (exponent - count)).toNat = count := by omega
  simp only [shiftToTargetExponent, shiftToExponent, targetExponent_eq, target, dropped,
    shiftRight_exact]
  congr 1
  omega

/-- A number with zeros behind its significand is rounded to itself. -/
theorem roundWithAccuracy_exact (placed : Placed number significand place) (sign : Sign)
    (count : Nat) (exponent : Int) (room : -1074 ≤ exponent) :
    roundWithAccuracy .binary64 sign (significand * 2 ^ count) (exponent - count) .exact =
      .finite sign significand exponent placed.positive := by
  have first : (significand * 2 ^ count).log2 = 52 + count :=
    (placed.ofSignificand.shift count).log2_eq
  have again : significand.log2 = 52 := placed.ofSignificand.log2_eq
  have shifted := shiftToTargetExponent_eq significand count exponent (by rw [first]; omega)
  have kept := shiftToTargetExponent_eq significand 0 exponent (by simp [again]; omega)
  simp only [Nat.pow_zero, Nat.mul_one, Nat.cast_zero, Int.sub_zero] at kept
  simp [roundWithAccuracy, shifted, kept, ExtendedMantissa.ofMantissaAndAccuracy,
    ExtendedMantissa.roundedMantissa, ExtendedMantissa.accuracy, Accuracy.roundToNearestEven,
    placed.positive.ne']

end Rounding

section Packing

variable {number significand place : Nat}

/-- Words that stand one behind the other as a number. -/
theorem toNat_append {high low : Nat} (upper : BitVec high) (lower : BitVec low) :
    (upper ++ lower).toNat = upper.toNat * 2 ^ low + lower.toNat := by
  rw [BitVec.toNat_append, ← Nat.shiftLeft_add_eq_or_of_lt lower.isLt, Nat.shiftLeft_eq]

/-- The leading digit is not stored and comes back. -/
theorem toNat_leading_append (placed : Placed number significand place) :
    (1#1 ++ BitVec.ofNat 52 significand).toNat = significand := by
  have low := placed.low
  have high := placed.high
  simp only [toNat_append, BitVec.toNat_ofNat]
  omega

/-- The stored form of a number whose place has room is read back. -/
theorem unpack_packComponents (placed : Placed number significand place) (room : place < 1024) :
    unpack .binary64 (packComponents .binary64 .positive (BitVec.ofNat 11 (place + 1023))
      (BitVec.ofNat 52 significand)) =
      .finite .positive significand (place - 52) placed.positive := by
  have stored : (BitVec.ofNat 11 (place + 1023)).toNat = place + 1023 :=
    Nat.mod_eq_of_lt (by omega)
  have finite : BitVec.ofNat 11 (place + 1023) ≠ -1#11 := fun same => by
    have full : place + 1023 = 2047 := stored ▸ congrArg BitVec.toNat same
    omega
  have normal : BitVec.ofNat 11 (place + 1023) ≠ 0#11 := fun same => by
    have none : place + 1023 = 0 := stored ▸ congrArg BitVec.toNat same
    omega
  have exponent : ((place + 1023 : Nat) : Int) -
      (Format.binary64.exponentBias + Format.binary64.mantissaBitsWithoutImplicit) =
        place - 52 := by
    change ((place + 1023 : Nat) : Int) - (1023 + 52) = place - 52
    omega
  rw [unpack]
  simp only [unpackMantissa_packComponents, unpackExponent_packComponents,
    unpackSign_packComponents, Sign.ofBitVec_toBitVec, finite, normal, if_false, stored,
    toNat_leading_append placed, exponent]

/-- Storing a number keeps it, or makes it infinite if its place has no room. -/
theorem unpack_pack (placed : Placed number significand place) :
    (Float.Model.pack (.finite .positive significand (place - 52) placed.positive)).unpack =
      atPlace significand place placed.positive := by
  have log : significand.log2 = 52 := placed.ofSignificand.log2_eq
  have stored : ((place : Int) - 52 + Format.binary64.exponentBias +
      Format.binary64.mantissaBitsWithoutImplicit).toNat = place + 1023 := by
    change ((place : Int) - 52 + 1023 + 52).toNat = place + 1023
    omega
  have normal : 52 + 1 = Format.binary64.mantissaBits := rfl
  change unpack .binary64 (pack .binary64 _) = _
  rw [pack, atPlace, log, stored, if_pos normal]
  by_cases room : place < 1024
  · have fits : ¬2 ^ 11 ≤ place + 1023 + 1 := by omega
    rw [if_neg fits, if_pos room, unpack_packComponents placed room]
  · have full : 2 ^ 11 ≤ place + 1023 + 1 := by omega
    rw [if_pos full, if_neg room]
    rfl

/-- A packed float as a number: its exponent, then its mantissa. -/
theorem toNat_packComponents (exponent mantissa : Nat) (fits : exponent < 2 ^ 11) :
    (packComponents .binary64 .positive (BitVec.ofNat 11 exponent)
      (BitVec.ofNat 52 mantissa)).toNat = exponent * 2 ^ 52 + mantissa % 2 ^ 52 := by
  change (0#1 ++ BitVec.ofNat 11 exponent ++ BitVec.ofNat 52 mantissa).toNat = _
  simp only [toNat_append, BitVec.toNat_ofNat, Nat.mod_eq_of_lt fits]
  omega

end Packing

/-- A float that is a whole number, or infinity from `2 ^ 1024` on. -/
inductive Whole (float : Float) : Nat → Prop
  | zero (unpacked : float.toModel.unpack = .zero .positive) : Whole float 0
  | placed {number significand place : Nat} (placed : Placed number significand place)
      (unpacked : float.toModel.unpack = atPlace significand place placed.positive) :
      Whole float number

namespace Whole

variable {left right float : Float} {number other exponent : Nat}

/-- Floats are multiplied unpacked, and packed again. -/
theorem unpack_mul (left right : Float) :
    (left * right).toModel.unpack =
      (Float.Model.pack (mul .binary64 left.toModel.unpack right.toModel.unpack)).unpack := rfl

/-- Zero unpacks to zero. -/
theorem unpack_zero (whole : Whole float 0) : float.toModel.unpack = .zero .positive := by
  generalize same : 0 = number at whole
  cases whole with
  | zero unpacked => exact unpacked
  | placed placed => exact absurd same.symm placed.ne_zero

/-- A power of two unpacks to its place. -/
theorem unpack_power (power : Whole float (2 ^ exponent)) :
    float.toModel.unpack = atPlace (2 ^ 52) exponent (by decide) := by
  generalize same : 2 ^ exponent = number at power
  cases power with
  | zero => exact absurd same (Nat.two_pow_pos exponent).ne'
  | @placed _ significand place placed unpacked =>
      subst same
      obtain ⟨rfl, rfl⟩ := placed.unique (.ofPower exponent)
      exact unpacked

/-- A small word becomes the float of its value. -/
theorem ofWord (word : UInt64) (small : word.toNat < 2 ^ 53) : Whole word.toFloat word.toNat := by
  by_cases none : word.toNat = 0
  · obtain rfl : word = 0 := UInt64.toNat_inj.mp none
    exact .zero rfl
  · have placed := Placed.ofSmall none small
    have above : compare (word.toNat : Int) 0 = .gt := Int.compare_eq_gt.mpr (by omega)
    have few : word.toNat.log2 < 53 := (Nat.log2_lt none).mpr small
    have moved : ((0 : Int) - max ((word.toNat.log2 : Int) + 0 - 52) (-1074)).toNat =
        52 - word.toNat.log2 := by omega
    have rounded := roundWithAccuracy_exact placed .positive 0 (word.toNat.log2 - 52) (by omega)
    have exponent : (0 : Int) - (52 - word.toNat.log2 : Nat) = word.toNat.log2 - 52 := by omega
    refine .placed placed ?_
    rw [← unpack_pack placed]
    change (Float.Model.pack (UnpackedFloat.normalize .binary64 word.toNat 0 .positive)).unpack = _
    simp only [Nat.pow_zero, Nat.mul_one, Nat.cast_zero, Int.sub_zero] at rounded
    simp only [UnpackedFloat.normalize, above, Int.toNat_natCast, UnpackedFloat.round,
      targetExponent_eq, decreaseExponent, moved, Nat.shiftLeft_eq, exponent, rounded]

/-- A significand at a place, times a power of two. -/
theorem mul_atPlace {significand place : Nat} (placed : Placed number significand place)
    (exponent : Nat) :
    (Float.Model.pack (UnpackedFloat.mul .binary64 (atPlace significand place placed.positive)
      (atPlace (2 ^ 52) exponent (by decide)))).unpack =
      atPlace significand (place + exponent) placed.positive := by
  have rounded := roundWithAccuracy_exact placed .positive 52 ((place + exponent : Nat) - 52)
    (by omega)
  have exponents : (place : Int) - 52 + (exponent - 52) =
      (place + exponent : Nat) - 52 - (52 : Nat) := by omega
  rw [← unpack_pack (placed.shift exponent)]
  by_cases room : place < 1024 <;> by_cases also : exponent < 1024
  · simp only [atPlace, room, also, if_true, UnpackedFloat.mul, exponents]
    exact congrArg (fun product => (Float.Model.pack product).unpack) rounded
  all_goals
    have full : ¬place + exponent < 1024 := by omega
    rw [unpack_pack (placed.shift exponent)]
    simp only [atPlace, room, also, full, if_true, if_false, UnpackedFloat.mul]
    rfl

/-- A number times a power of two is exact, or infinite where its place has no room. -/
theorem mul (whole : Whole left number) (nonzero : number ≠ 0)
    (power : Whole right (2 ^ exponent)) : Whole (left * right) (number * 2 ^ exponent) := by
  cases whole with
  | zero => exact absurd rfl nonzero
  | placed placed unpacked =>
      refine .placed (placed.shift exponent) ?_
      rw [unpack_mul, unpacked, power.unpack_power, mul_atPlace placed]

/-- Zero times a power of two is zero while the power is finite. -/
theorem zero_mul (whole : Whole left 0) (power : Whole right (2 ^ exponent))
    (room : exponent < 1024) : Whole (left * right) 0 := by
  refine .zero ?_
  rw [unpack_mul, whole.unpack_zero, power.unpack_power]
  simp only [atPlace, room, if_true, UnpackedFloat.mul]
  rfl

/-- Zero times infinity is no number. -/
theorem isNaN_zero_mul (whole : Whole left 0) (power : Whole right (2 ^ exponent))
    (full : 1024 ≤ exponent) : (left * right).isNaN = true := by
  have overflow : ¬exponent < 1024 := Nat.not_lt.mpr full
  change (left * right).toModel.unpack.isNaN = true
  rw [unpack_mul, whole.unpack_zero, power.unpack_power]
  simp only [atPlace, overflow, if_false, UnpackedFloat.mul]
  rfl

/-- A whole number is a number. -/
theorem isNaN_eq (whole : Whole float number) : float.isNaN = false := by
  change float.toModel.unpack.isNaN = false
  cases whole with
  | zero unpacked => rw [unpacked]; rfl
  | placed placed unpacked => rw [unpacked, atPlace]; split <;> rfl

/-- Floats are compared unpacked. -/
theorem lt_iff_compare (left right : Float) :
    left < right ↔ left.toModel.unpack.compare right.toModel.unpack = some .lt := by
  simp [LT.lt, Float.lt, Float.Model.lt, UnpackedFloat.lt]

/-- Floats are ordered as the numbers that they are, also where the right one is infinite. -/
theorem lt_iff (whole : Whole left number) (also : Whole right other)
    (small : number < 2 ^ 53) : left < right ↔ number < other := by
  rw [lt_iff_compare]
  cases whole with
  | zero unpacked =>
      cases also with
      | zero alsoUnpacked => simp [unpacked, alsoUnpacked, UnpackedFloat.compare]
      | placed placed alsoUnpacked =>
          rw [unpacked, alsoUnpacked, atPlace]
          split <;> simp [UnpackedFloat.compare, Nat.pos_iff_ne_zero, placed.ne_zero]
  | placed placed unpacked =>
      have room := ((placed.lt_pow_iff 53).mp small).trans (by decide : 53 < 1024)
      cases also with
      | zero alsoUnpacked => simp [unpacked, alsoUnpacked, atPlace, room, UnpackedFloat.compare]
      | placed alsoPlaced alsoUnpacked =>
          rw [unpacked, alsoUnpacked, placed.lt_iff alsoPlaced, atPlace, if_pos room, atPlace]
          -- The right one is infinite where its place has no room, and then it is the larger one.
          split
          · simp only [UnpackedFloat.compare, Option.some.injEq, Ordering.then_eq_lt,
              Int.compare_eq_lt, compare_eq_iff_eq, Nat.compare_eq_lt]
            omega
          · simp only [UnpackedFloat.compare, true_iff]
            omega

/-- Without fractions nothing is lost on the way to an integer. -/
theorem roundToInt_eq {significand place : Nat} (placed : Placed number significand place)
    (last : place ≤ 52) : roundToInt .positive significand (place - 52) = number := by
  have raised : ((place : Int) - 52).toNat = 0 := by omega
  have dropped : ((0 : Int) - (place - 52)).toNat = 52 - place := by omega
  simp only [roundToInt, decreaseExponent, shiftToExponent, raised, Nat.shiftLeft_zero,
    Nat.cast_zero, Int.sub_zero, dropped]
  rw [placed.significand_eq last, shiftRight_exact]
  rfl

/-- A small number is read as the word that it is. -/
theorem toNat_toUInt64 (whole : Whole float number) (small : number < 2 ^ 53) :
    float.toUInt64.toNat = number := by
  change (UInt64.ofNatClamp (float.toModel.unpack.toInt 0 (UInt64.size - 1)).toNat).toNat = number
  cases whole with
  | zero unpacked => rw [unpacked]; rfl
  | @placed _ significand place placed unpacked =>
      have last := (placed.lt_pow_iff 53).mp small
      have room : place < 1024 := last.trans (by decide)
      rw [unpacked, atPlace, if_pos room, UnpackedFloat.toInt,
        roundToInt_eq placed (Nat.le_of_lt_succ last), Int.toNat_natCast,
        UInt64.toNat_ofNatClamp_of_lt (small.trans (by decide))]

end Whole

/-- The exact value of a finite number. -/
def Binary.value? : Binary → Option ℚ
  | .finite negative significand exponent =>
      some ((if negative then -1 else 1) * significand * 2 ^ exponent)
  | _ => none

section Value

variable {float : Float} {significand shift exponent : Nat}

/-- A double as its sign, its significand and its scale. -/
theorem ofBits_double (bits : Nat) :
    Binary.ofBits .double bits =
      if bits / 2 ^ 52 % 2 ^ 11 = 2047 then
        if bits % 2 ^ 52 = 0 then .infinite (bits / 2 ^ 63 % 2 == 1) else .notANumber
      else if bits / 2 ^ 52 % 2 ^ 11 = 0 then
        .finite (bits / 2 ^ 63 % 2 == 1) (bits % 2 ^ 52) (-1074)
      else .finite (bits / 2 ^ 63 % 2 == 1) (2 ^ 52 + bits % 2 ^ 52)
        (-1074 + (bits / 2 ^ 52 % 2 ^ 11 : Nat) - 1) := rfl

/-- What scale and significand are when their value is a power of two. -/
theorem scaled_of_value {negative : Bool} {bias : Nat} {scale : Int} (place : scale = shift - bias)
    (value : (Binary.finite negative significand scale).value? = some (2 ^ exponent)) :
    negative = false ∧ significand * 2 ^ shift = 2 ^ (exponent + bias) := by
  have same := Option.some.inj value
  have power : (0 : ℚ) < 2 ^ exponent := by positivity
  cases negative with
  | true =>
      have least : (0 : ℚ) ≤ significand * 2 ^ scale := by positivity
      simp only [if_true] at same
      linarith
  | false =>
      refine ⟨rfl, ?_⟩
      have moved : (2 : ℚ) ^ scale * 2 ^ bias = 2 ^ shift := by
        rw [place, zpow_sub₀ two_ne_zero, zpow_natCast, zpow_natCast]
        exact div_mul_cancel₀ _ (by positivity)
      have exact : (significand : ℚ) * 2 ^ shift = 2 ^ (exponent + bias) := by
        rw [← moved, pow_add, ← same]
        simp
        ring
      exact_mod_cast exact

/-- The bits of a power of two. -/
theorem bits_of_value {bits : Nat} (fits : bits < 2 ^ 64)
    (value : (Binary.ofBits .double bits).value? = some (2 ^ exponent)) :
    exponent < 1024 ∧ bits = (exponent + 1023) * 2 ^ 52 := by
  rw [ofBits_double] at value
  split at value
  · split at value <;> exact absurd value (by simp [Binary.value?])
  · split at value
    · -- Numbers without a leading digit are less than one.
      have place : (-1074 : Int) = (1 : Nat) - (1075 : Nat) := rfl
      obtain ⟨-, scaled⟩ := scaled_of_value place value
      have large : 2 ^ 53 ≤ 2 ^ (exponent + 1075) :=
        Nat.pow_le_pow_right (by decide) (by omega)
      have small : bits % 2 ^ 52 < 2 ^ 52 := Nat.mod_lt _ (by decide)
      omega
    · -- A number has one significand and one place, so these are those of the power.
      rename_i finite normal
      have place : (-1074 + (bits / 2 ^ 52 % 2 ^ 11 : Nat) - 1 : Int) =
          (bits / 2 ^ 52 % 2 ^ 11 : Nat) - (1075 : Nat) := by omega
      obtain ⟨sign, scaled⟩ := scaled_of_value place value
      have digits : Placed (2 ^ 52 + bits % 2 ^ 52) (2 ^ 52 + bits % 2 ^ 52) 52 :=
        ⟨rfl, by omega, by omega⟩
      have power := Placed.ofPower (exponent + 1075)
      rw [← scaled] at power
      obtain ⟨significand, places⟩ := (digits.shift _).unique power
      have positive : ¬bits / 2 ^ 63 % 2 = 1 := by simpa using sign
      omega

/-- A float whose value is a power of two is read so. -/
theorem whole_of_value (value : (Binary.ofFloat float).value? = some (2 ^ exponent)) :
    exponent < 1024 ∧ Whole float (2 ^ exponent) := by
  obtain ⟨room, bits⟩ := bits_of_value float.toBits.toNat_lt value
  have placed := Placed.ofPower exponent
  have stored : float.toBits.toBitVec = packComponents .binary64 .positive
      (BitVec.ofNat 11 (exponent + 1023)) (BitVec.ofNat 52 (2 ^ 52)) := by
    apply BitVec.eq_of_toNat_eq
    rw [toNat_packComponents _ _ (by omega), Nat.mod_self, Nat.add_zero]
    exact bits
  refine ⟨room, .placed placed ?_⟩
  change unpack .binary64 float.toBits.toBitVec = _
  rw [stored, unpack_packComponents placed room, atPlace, if_pos room]

end Value

end Backplane.Decimal
