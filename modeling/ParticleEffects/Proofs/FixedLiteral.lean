import ParticleEffects.Proofs.DecimalText
import ParticleEffects.Proofs.NumberValue
import ParticleEffects.Proofs.Rounding
import ParticleEffects.Wgsl.Literal

namespace ParticleEffects
namespace Number

/-!
Literals in fixed places.

Below `10 ^ 21` a literal is the multiple of a millionth nearest to the number, a half
going away from zero.  Its text has the digits of the whole part, a point and what is left
of six places without the zeros they end in; a minus sign stands before the numbers below
zero only.
-/

/-! ## Multiples -/

/-- The multiple of a unit nearest to a number; of two equally near ones, the greater one in
magnitude. -/
structure IsNearestMultiple (unit number multiple : Rat) : Prop where
  isMultiple : Exists fun n : Int => multiple = n * unit
  nearest : forall n : Int, |multiple - number| <= |n * unit - number|
  greater : forall n : Int, |n * unit - number| = |multiple - number| ->
    |n * unit| <= |multiple|

/-- Rounding away from zero is symmetric. -/
theorem IsNearestMultiple.neg {unit number multiple : Rat}
    (positive : IsNearestMultiple unit number multiple) :
    IsNearestMultiple unit (-number) (-multiple) := by
  have mirrored (n : Int) : |(n : Rat) * unit - -number| = |((-n : Int) : Rat) * unit - number| := by
    rw [← abs_neg]
    push_cast
    ring_nf
  have distance : |-multiple - -number| = |multiple - number| := by
    rw [← abs_neg]
    ring_nf
  rcases positive.isMultiple with ⟨n, same⟩
  refine ⟨⟨-n, by rw [same]; push_cast; ring⟩, fun other => ?_, fun other tie => ?_⟩
  · rw [mirrored, distance]
    exact positive.nearest _
  · rw [mirrored, distance] at tie
    have bounded := positive.greater _ tie
    rw [Int.cast_neg, neg_mul, abs_neg] at bounded
    rwa [abs_neg]

/-- The error of a multiple of `1 / places`, over the common denominator. -/
theorem abs_multiple_sub (numerator : Nat) {denominator places : Nat}
    (positive : 0 < denominator) (some : 0 < places) (n : Int) :
    |(n : Rat) * (1 / places) - numerator / denominator| =
      (|n * denominator - numerator * places| : Int) / ((places : Rat) * denominator) := by
  have denominator_pos : (0 : Rat) < denominator := Nat.cast_pos.mpr positive
  have places_pos : (0 : Rat) < places := Nat.cast_pos.mpr some
  have difference : (n : Rat) * (1 / places) - numerator / denominator =
      (n * denominator - numerator * places) / (places * denominator) := by
    field_simp
  rw [difference, abs_div, abs_of_pos (mul_pos places_pos denominator_pos)]
  push_cast
  rfl

/-- What is off by at most half of a step is nearer than other multiples of it. -/
theorem abs_rounded_le {number step rounded : Int}
    (most : 2 * (rounded * step) <= 2 * number + step)
    (least : 2 * number <= 2 * (rounded * step) + step) (n : Int) (positive : 0 < step) :
    |rounded * step - number| <= |n * step - number| := by
  rw [Int.abs_eq_natAbs, Int.abs_eq_natAbs]
  rcases lt_trichotomy n rounded with less | rfl | more
  · have apart := Int.mul_le_mul_of_nonneg_right (Int.add_one_le_of_lt less) positive.le
    rw [Int.add_mul, Int.one_mul] at apart
    omega
  · exact le_rfl
  · have apart := Int.mul_le_mul_of_nonneg_right (Int.add_one_le_of_lt more) positive.le
    rw [Int.add_mul, Int.one_mul] at apart
    omega

/-- What is off by half of a step only if it was rounded up is the greatest of the nearest. -/
theorem abs_le_rounded_of_tie {number step rounded n : Int}
    (least : 2 * number < 2 * (rounded * step) + step) (positive : 0 < step)
    (nonnegative : 0 <= number) (tie : |n * step - number| = |rounded * step - number|) :
    |n| <= rounded := by
  rw [Int.abs_eq_natAbs, Int.abs_eq_natAbs] at tie
  have rounded_nonneg : 0 <= rounded := by
    by_contra below
    have apart := Int.mul_le_mul_of_nonneg_right
      (Int.add_one_le_of_lt (Int.not_le.mp below)) positive.le
    rw [Int.add_mul, Int.one_mul, Int.zero_mul] at apart
    omega
  have rounded_mul := Int.mul_nonneg rounded_nonneg positive.le
  rw [abs_le]
  constructor
  · by_contra less
    have apart := Int.mul_le_mul_of_nonneg_right
      (Int.add_one_le_of_lt (Int.not_le.mp less)) positive.le
    rw [Int.add_mul, Int.one_mul, Int.neg_mul] at apart
    omega
  · by_contra more
    have apart := Int.mul_le_mul_of_nonneg_right
      (Int.add_one_le_of_lt (Int.not_le.mp more)) positive.le
    rw [Int.add_mul, Int.one_mul] at apart
    omega

/-- Division rounded up gives the nearest multiple. -/
theorem isNearestMultiple_roundDiv (numerator : Nat) {denominator places : Nat}
    (positive : 0 < denominator) (some : 0 < places) :
    IsNearestMultiple (1 / places) (numerator / denominator)
      (roundDiv (numerator * places) denominator .up * (1 / places)) := by
  have most := two_mul_roundDiv_le (numerator * places) denominator .up
  have least := two_mul_lt_roundDiv_up (numerator * places) positive
  generalize roundDiv (numerator * places) denominator .up = rounded at most least ⊢
  have scale_pos : (0 : Rat) < (places : Rat) * denominator :=
    mul_pos (Nat.cast_pos.mpr some) (Nat.cast_pos.mpr positive)
  have step_pos : (0 : Int) < denominator := Int.natCast_pos.mpr positive
  have most' : 2 * ((rounded : Int) * denominator) <= 2 * (numerator * places : Int) + denominator := by
    exact_mod_cast most
  have least' : 2 * (numerator * places : Int) < 2 * ((rounded : Int) * denominator) + denominator := by
    exact_mod_cast least
  have error := abs_multiple_sub numerator positive some (rounded : Int)
  rw [Int.cast_natCast] at error
  refine ⟨⟨rounded, by rw [Int.cast_natCast]⟩, fun n => ?_, fun n tie => ?_⟩
  · rw [error, abs_multiple_sub numerator positive some, div_le_div_iff_of_pos_right scale_pos,
      Int.cast_le]
    exact abs_rounded_le most' least'.le n step_pos
  · rw [error, abs_multiple_sub numerator positive some, div_left_inj' scale_pos.ne',
      Int.cast_inj] at tie
    have fewer := abs_le_rounded_of_tie least' step_pos (by positivity) tie
    have unit_nonneg : (0 : Rat) <= 1 / places := by positivity
    rw [abs_mul, abs_mul, abs_of_nonneg unit_nonneg, Nat.abs_cast]
    exact mul_le_mul_of_nonneg_right (by exact_mod_cast fewer) unit_nonneg

end Number

namespace Wgsl

open Number

/-! ## Texts in fixed places -/

/-- Digits of a whole number: at least one, and no zero before another digit. -/
structure IsWholeText (digits : List Char) : Prop where
  nonempty : digits ≠ []
  plain : OfDigits digits
  noLeadingZero : digits.head? = some '0' -> digits = ['0']

/-- Digits of a fraction: at most so many, and none of them a zero at the end. -/
structure IsFractionText (places : Nat) (digits : List Char) : Prop where
  plain : OfDigits digits
  length_le : digits.length <= places
  noTrailingZero : digits.getLast? ≠ some '0'

theorem isWholeText_toDigits (n : Nat) : IsWholeText (Nat.toDigits 10 n) where
  nonempty := Nat.toDigits_ne_nil
  plain := .toDigits n
  noLeadingZero := toDigits_of_head_zero n

/-- The digits behind the point, without the zeros they end in. -/
def fractionOf (places n : Nat) : List Char :=
  dropTrailingZeros ((Nat.toDigits 10 (n % Nat.pow 10 places)).leftpad places '0')

theorem length_leftpad_rest {places : Nat} (some : 0 < places) (n : Nat) :
    ((Nat.toDigits 10 (n % Nat.pow 10 places)).leftpad places '0').length = places :=
  length_leftpad_toDigits some (Nat.mod_lt n (Nat.pow_pos (by decide)))

/-- The zeros that were left out fill the fraction up to its places. -/
theorem exists_fractionOf {places : Nat} (some : 0 < places) (n : Nat) :
    Exists fun count => (fractionOf places n).length + count = places ∧
      spelled (fractionOf places n) * 10 ^ count = n % 10 ^ places := by
  have length_eq := length_leftpad_rest some n
  have whole : spelled ((Nat.toDigits 10 (n % Nat.pow 10 places)).leftpad places '0') =
      n % 10 ^ places := by
    rw [spelled_leftpad, spelled_toDigits]
    rfl
  rcases exists_dropTrailingZeros
    ((Nat.toDigits 10 (n % Nat.pow 10 places)).leftpad places '0') with ⟨count, same⟩
  rw [same] at length_eq whole
  refine ⟨count, ?_, ?_⟩
  · rw [List.length_append, List.length_replicate] at length_eq
    exact length_eq
  · rw [spelled_append, spelled_replicate_zero, List.length_replicate, Nat.add_zero] at whole
    exact whole

theorem isFractionText_fractionOf {places : Nat} (some : 0 < places) (n : Nat) :
    IsFractionText places (fractionOf places n) where
  plain := ((OfDigits.toDigits _).leftpad places).dropTrailingZeros
  length_le := by
    rcases exists_fractionOf some n with ⟨count, length_eq, _⟩
    omega
  noTrailingZero := getLast?_dropTrailingZeros _

/-- How many units of the last place are spelled with a point. -/
def fixedSpelling (negative : Bool) (places n : Nat) : Spelling where
  negative := negative
  whole := Nat.toDigits 10 (n / Nat.pow 10 places)
  fraction? := some (fractionOf places n)
  exponent? := none

theorem wellFormed_fixedSpelling (negative : Bool) (places n : Nat) :
    (fixedSpelling negative places n).WellFormed where
  whole_ne_nil := Nat.toDigits_ne_nil
  whole_digits := .toDigits _
  fraction_digits := ((OfDigits.toDigits _).leftpad places).dropTrailingZeros
  exponent_digits := fun _ _ found => nomatch found

theorem dropTrailingZeros_fixedPoint (places n : Nat) :
    dropTrailingZeros (fixedPoint places n) =
      Nat.toDigits 10 (n / Nat.pow 10 places) ++ '.' :: fractionOf places n :=
  dropTrailingZeros_append_cons _ (by decide) _

/-- Some of the places are written, and the others are the zeros left out. -/
theorem exists_written_places (negative : Bool) {places : Nat} (some : 0 < places) (n : Nat) :
    Exists fun written => Exists fun omitted => written + omitted = places ∧
      (fixedSpelling negative places n).decimal.exponent = -(written : Int) ∧
      (fixedSpelling negative places n).decimal.coefficient * 10 ^ omitted = n := by
  rcases exists_fractionOf some n with ⟨omitted, length_eq, fraction_eq⟩
  refine ⟨(fractionOf places n).length, omitted, length_eq, Int.zero_sub _, ?_⟩
  change spelled (Nat.toDigits 10 (n / 10 ^ places) ++ fractionOf places n) * 10 ^ omitted = n
  rw [spelled_append, spelled_toDigits, Nat.add_mul, fraction_eq, Nat.mul_assoc, ← Nat.pow_add,
    length_eq]
  exact Nat.div_add_mod' n _

/-- What is spelled in fixed places denotes so many units of the last place. -/
theorem value_fixedSpelling (negative : Bool) {places : Nat} (some : 0 < places) (n : Nat) :
    (fixedSpelling negative places n).decimal.value =
      (if negative then -1 else 1) * ((n : Rat) * (1 / (10 ^ places : Nat))) := by
  rcases exists_written_places negative some n with ⟨written, omitted, sum, exponent, coefficient⟩
  have scaled : (n : Rat) * (1 / (10 ^ places : Nat)) =
      ((fixedSpelling negative places n).decimal.coefficient : Rat) *
        10 ^ (fixedSpelling negative places n).decimal.exponent := by
    have whole : (n : Rat) =
        ((fixedSpelling negative places n).decimal.coefficient : Rat) * 10 ^ omitted := by
      exact_mod_cast coefficient.symm
    have denominators : 10 ^ places = 10 ^ written * 10 ^ omitted := by rw [← Nat.pow_add, sum]
    rw [exponent, zpow_neg, zpow_natCast, denominators, whole]
    push_cast
    field_simp
  rw [scaled]
  rfl

/-! ## Literals below the limit -/

/-- A finite number below the limit is spelled in fixed places. -/
theorem literal_eq_fixedSpelling {x : Single} (finite : x.isFinite = true)
    (small : x.steps < fixedLimit * Format.single.unit) :
    literal x = (fixedSpelling x.isBelowZero literalPlaces (roundedPlaces x)).text := by
  cases x with
  | nan => cases finite
  | signed negative pattern =>
    rw [literal, literalMagnitude, if_pos small, dropTrailingZeros_fixedPoint]
    simp only [Spelling.text, Spelling.fractionText, Spelling.exponentText, fixedSpelling,
      List.append_nil]
    rfl

theorem abs_value_lt_limit_iff (x : Single) :
    |x.value| < 10 ^ 21 ↔ x.steps < fixedLimit * Format.single.unit := by
  rw [← Datum.abs_value_lt_iff]
  norm_num [fixedLimit]

/-- The text of a literal below the limit, and what it is read as. -/
theorem literalText_eq_fixedSpelling {v : Float} (finite : (Single.ofFloat v).isFinite = true)
    (small : |(Single.ofFloat v).value| < 10 ^ 21) :
    (literalText v).toList = (fixedSpelling (Single.ofFloat v).isBelowZero literalPlaces
      (roundedPlaces (Single.ofFloat v))).text := by
  rw [literalText, String.toList_ofList,
    literal_eq_fixedSpelling finite ((abs_value_lt_limit_iff _).mp small)]

theorem readDecimal?_literalText {v : Float} (finite : (Single.ofFloat v).isFinite = true)
    (small : |(Single.ofFloat v).value| < 10 ^ 21) :
    readDecimal? (literalText v).toList = some (fixedSpelling (Single.ofFloat v).isBelowZero
      literalPlaces (roundedPlaces (Single.ofFloat v))).decimal :=
  literalText_eq_fixedSpelling finite small ▸
    Spelling.readDecimal?_text (wellFormed_fixedSpelling _ _ _)

/-- The decimal spelled for a number is its nearest multiple of the last place. -/
theorem isNearestMultiple_fixedSpelling (x : Single) :
    IsNearestMultiple (1 / 10 ^ 6) x.value
      (fixedSpelling x.isBelowZero literalPlaces (roundedPlaces x)).decimal.value := by
  have places : ((10 ^ literalPlaces : Nat) : Rat) = 10 ^ 6 := by norm_num [literalPlaces]
  have magnitude := isNearestMultiple_roundDiv x.steps Format.single.unit_pos
    (Nat.pow_pos (by decide) : 0 < Nat.pow 10 literalPlaces)
  change IsNearestMultiple (1 / (10 ^ literalPlaces : Nat)) _
    ((roundedPlaces x : Rat) * (1 / (10 ^ literalPlaces : Nat))) at magnitude
  rw [places] at magnitude
  rw [value_fixedSpelling _ (by decide), places, Datum.value_eq_sign_mul]
  split
  · rw [neg_one_mul, neg_one_mul]
    exact magnitude.neg
  · rw [one_mul, one_mul]
    exact magnitude

/-- Only no units at all denote zero. -/
theorem value_fixedSpelling_eq_zero_iff (negative : Bool) {places : Nat} (some : 0 < places)
    (n : Nat) : (fixedSpelling negative places n).decimal.value = 0 ↔ n = 0 := by
  have sign : (if negative then -1 else 1 : Rat) ≠ 0 := by split <;> norm_num
  have unit : (1 / (10 ^ places : Nat) : Rat) ≠ 0 := by positivity
  rw [value_fixedSpelling negative some, mul_eq_zero, mul_eq_zero]
  simp only [sign, unit, false_or, or_false, Nat.cast_eq_zero]

/-- The literal of a finite number below `10 ^ 21` has a whole part, a point and at most six
places, which denote the nearest multiple of a millionth. -/
theorem literalText_denotes_nearest_millionth (v : Float)
    (finite : (Single.ofFloat v).isFinite = true)
    (small : |(Single.ofFloat v).value| < 10 ^ 21) :
    Exists fun whole => Exists fun fraction => Exists fun decimal =>
      (literalText v).toList =
        (if (Single.ofFloat v).value < 0 then ['-'] else []) ++ (whole ++ '.' :: fraction) ∧
      IsWholeText whole ∧ IsFractionText 6 fraction ∧
      readDecimal? (literalText v).toList = some decimal ∧
      IsNearestMultiple (1 / 10 ^ 6) (Single.ofFloat v).value decimal.value ∧
      (decimal.value = 0 -> whole = ['0'] ∧ fraction = []) := by
  refine ⟨Nat.toDigits 10 (roundedPlaces (Single.ofFloat v) / 10 ^ 6),
    fractionOf 6 (roundedPlaces (Single.ofFloat v)), _, ?_, isWholeText_toDigits _,
    isFractionText_fractionOf (by decide) _, readDecimal?_literalText finite small,
    isNearestMultiple_fixedSpelling _, fun zero => ?_⟩
  · rw [literalText_eq_fixedSpelling finite small, Spelling.text, Spelling.exponentText]
    simp only [Spelling.fractionText, fixedSpelling, List.append_nil, signText,
      Datum.isBelowZero_iff]
    rfl
  · rw [(value_fixedSpelling_eq_zero_iff _ (by decide) _).mp zero]
    exact ⟨rfl, rfl⟩

/-- A negative number halfway between two millionths. -/
theorem negative_half_denotes_nearest_millionth :
    (Single.ofFloat (-0.0078125)).isFinite = true ∧
      |(Single.ofFloat (-0.0078125)).value| < 10 ^ 21 ∧
      Exists fun decimal => readDecimal? (literalText (-0.0078125)).toList = some decimal ∧
        IsNearestMultiple (1 / 10 ^ 6) (Single.ofFloat (-0.0078125)).value decimal.value := by
  have finite : (Single.ofFloat (-0.0078125)).isFinite = true := by decide +kernel
  have small : |(Single.ofFloat (-0.0078125)).value| < 10 ^ 21 :=
    (abs_value_lt_limit_iff _).mpr (by decide +kernel)
  rcases literalText_denotes_nearest_millionth _ finite small with
    ⟨_, _, decimal, _, _, _, read, nearest, _⟩
  exact ⟨finite, small, decimal, read, nearest⟩

/-- The half goes away from zero. -/
example : literalText (-0.0078125) = "-0.007813" := by decide +kernel

end Wgsl
end ParticleEffects
