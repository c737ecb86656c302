import ParticleEffects.Proofs.NumberBits
import ParticleEffects.Proofs.NumberValue

namespace ParticleEffects
namespace Number

/-!
Differences, products and quotients of doubles.

A difference is exact up to one rounding to nearest.  The mantissa that is computed keeps
two residual bits of what is shifted out of it, which tell just as much of a fraction as
rounding needs.  So the difference of two numbers is zero only if they are equal, and a
number that is multiplied with zero, or to which zero is added, behaves as it should.
-/

open Float.Model UnpackedFloat

/-! ## Residual bits -/

/-- A mantissa and its residual bits tell a fraction as far as it matters for rounding. -/
structure Tells (extended : ExtendedMantissa) (numerator denominator : Nat) : Prop where
  mantissa : extended.mantissa = numerator / denominator
  roundBit : extended.roundBit = true ↔ denominator <= 2 * (numerator % denominator)
  stickyBit : extended.stickyBit = true ↔
    2 * (numerator % denominator) ≠ 0 ∧ 2 * (numerator % denominator) ≠ denominator

theorem tells_exact (mantissa : Nat) :
    Tells (.ofMantissaAndAccuracy mantissa .exact) mantissa 1 := by
  refine ⟨(Nat.div_one mantissa).symm, ?_, ?_⟩ <;>
    simp [ExtendedMantissa.ofMantissaAndAccuracy, Nat.mod_one]

namespace Tells

variable {extended : ExtendedMantissa} {numerator denominator : Nat}

theorem shiftRightOne (told : Tells extended numerator denominator) (positive : 0 < denominator) :
    Tells extended.shiftRightOne numerator (denominator * 2) := by
  have rest := Nat.mod_lt numerator positive
  have rest_eq : numerator % (denominator * 2) =
      numerator % denominator + denominator * (extended.mantissa % 2) := by
    rw [Nat.mod_mul, told.mantissa]
  have residual : (extended.roundBit || extended.stickyBit) = true ↔
      numerator % denominator ≠ 0 := by
    rw [Bool.or_eq_true, told.roundBit, told.stickyBit]
    omega
  refine ⟨?_, ?_, ?_⟩
  · rw [ExtendedMantissa.shiftRightOne, told.mantissa, Nat.div_div_eq_div_mul]
  · rw [ExtendedMantissa.shiftRightOne, bne_iff_ne, rest_eq]
    rcases Nat.mod_two_eq_zero_or_one extended.mantissa with even | odd
    · rw [even]
      omega
    · rw [odd]
      omega
  · rw [ExtendedMantissa.shiftRightOne, residual, rest_eq]
    rcases Nat.mod_two_eq_zero_or_one extended.mantissa with even | odd
    · rw [even]
      omega
    · rw [odd]
      omega

theorem shiftRight (told : Tells extended numerator denominator) (positive : 0 < denominator)
    (count : Nat) : Tells (extended >>> count) numerator (denominator * 2 ^ count) := by
  induction count with
  | zero => rwa [Nat.pow_zero, Nat.mul_one]
  | succ count inductionHypothesis =>
    have shifted := inductionHypothesis.shiftRightOne (Nat.mul_pos positive (Nat.two_pow_pos _))
    rwa [Nat.mul_assoc, ← Nat.pow_succ] at shifted

/-- The mantissa is rounded as the fraction is. -/
theorem roundedMantissa_eq (told : Tells extended numerator denominator) :
    extended.roundedMantissa = roundDiv numerator denominator .toEven := by
  rcases told with ⟨mantissa, roundBit, stickyBit⟩
  rcases extended with ⟨digits, half, more⟩
  dsimp only at mantissa roundBit stickyBit
  subst mantissa
  rw [roundDiv]
  cases half with
  | false =>
    have below : 2 * (numerator % denominator) < denominator := by simpa using roundBit
    rw [Nat.compare_eq_lt.mpr below]
    cases more <;> rfl
  | true =>
    have reached : denominator <= 2 * (numerator % denominator) := roundBit.mp rfl
    cases more with
    | false =>
      have same : 2 * (numerator % denominator) = denominator := by
        by_contra different
        exact Bool.false_ne_true (stickyBit.mpr ⟨by omega, different⟩)
      rw [Nat.compare_eq_eq.mpr same]
      rfl
    | true =>
      have beyond : denominator < 2 * (numerator % denominator) := by
        have different := (stickyBit.mp rfl).2
        omega
      rw [Nat.compare_eq_gt.mpr beyond]
      rfl

end Tells

/-! ## Rounding to a double -/

theorem targetExponent_binary64 (exponent : Int) :
    Float.Model.Format.binary64.targetExponent exponent = max (exponent - 53) (-1074) := rfl

theorem shiftToTargetExponent_eq {mantissa : Nat} {exponent : Int} {accuracy : Accuracy}
    (count : Nat)
    (shift : (max ((mantissa.log2 : Int) + 1 + exponent - 53) (-1074) - exponent).toNat = count) :
    shiftToTargetExponent .binary64 mantissa exponent accuracy =
      (ExtendedMantissa.ofMantissaAndAccuracy mantissa accuracy >>> count, exponent + count) := by
  rw [shiftToTargetExponent, targetExponent_binary64, totalExponent, shiftToExponent, shift]

/-- Digits that fit are put together with their exponent; beyond the greatest one there is
infinity. -/
theorem toNat_pack_digits (negative : Bool) {digits scale : Nat} (positive : 0 < digits)
    (fits : digits < 2 ^ 53) (whole : scale = 0 ∨ 2 ^ 52 <= digits) :
    (UnpackedFloat.pack .binary64
      (.finite (signOf negative) digits ((scale : Int) - 1074) positive)).toNat =
        (if negative then Format.double.half else 0) +
          min Format.double.infinity (scale * 2 ^ 52 + digits) := by
  rw [Format.infinity_double]
  rcases Nat.lt_or_ge scale 2046 with few | many
  · rw [toNat_pack_finite _ positive few fits whole, toNat_signOf, Nat.min_eq_right (by omega)]
  · have biased : 2 ^ Float.Model.Format.binary64.exponentBits <=
        ((scale : Int) - 1074 + (Float.Model.Format.exponentBias .binary64 : Nat) +
          (52 : Nat)).toNat + 1 := by
      have bias : Float.Model.Format.exponentBias .binary64 = 1023 := rfl
      have bits : Float.Model.Format.binary64.exponentBits = 11 := rfl
      rw [bias, bits]
      omega
    rw [UnpackedFloat.pack]
    dsimp only
    rw [if_pos biased, packedInfinity, toNat_packComponents, toNat_signOf,
      Nat.min_eq_left (by omega)]
    rfl

theorem shift_of_digits {digits scale : Nat} (fits : digits < 2 ^ 53) :
    (shiftToTargetExponent .binary64 digits ((scale : Int) - 1074) .exact) =
      (.ofMantissaAndAccuracy digits .exact, (scale : Int) - 1074) := by
  have log_le : digits.log2 <= 52 := by
    rcases Nat.eq_zero_or_pos digits with rfl | positive
    · simp
    · exact Nat.le_of_lt_succ ((Nat.log2_lt (Nat.ne_of_gt positive)).mpr fits)
  rw [shiftToTargetExponent_eq 0 (by omega), Int.natCast_zero, Int.add_zero]
  rfl

/-- What is rounded up to a further digit is shifted once more. -/
theorem shift_of_carry (scale : Nat) :
    (shiftToTargetExponent .binary64 (2 ^ 53) ((scale : Int) - 1074) .exact) =
      ((ExtendedMantissa.ofMantissaAndAccuracy (2 ^ 53) .exact).shiftRightOne,
        ((scale + 1 : Nat) : Int) - 1074) := by
  have log_eq : (2 ^ 53 : Nat).log2 = 53 := Nat.log2_two_pow
  rw [shiftToTargetExponent_eq 1 (by rw [log_eq]; omega)]
  refine Prod.ext rfl ?_
  dsimp only
  omega

/-- A mantissa that is shifted and rounded gives the nearest double. -/
theorem toNat_pack_roundWithAccuracy {negative : Bool} {mantissa : Nat} {exponent : Int}
    {accuracy : Accuracy} {extended : ExtendedMantissa} {scale : Nat}
    (shifted : shiftToTargetExponent .binary64 mantissa exponent accuracy =
      (extended, (scale : Int) - 1074))
    (fits : extended.roundedMantissa <= 2 ^ 53)
    (whole : scale = 0 ∨ 2 ^ 52 <= extended.roundedMantissa) :
    (UnpackedFloat.pack .binary64
      (roundWithAccuracy .binary64 (signOf negative) mantissa exponent accuracy)).toNat =
        (if negative then Format.double.half else 0) +
          min Format.double.infinity (scale * 2 ^ 52 + extended.roundedMantissa) := by
  rw [roundWithAccuracy, shifted]
  dsimp only
  generalize extended.roundedMantissa = digits at fits whole ⊢
  rcases Nat.lt_or_eq_of_le fits with less | rfl
  · rw [shift_of_digits less]
    change (UnpackedFloat.pack .binary64 (if none : digits = 0 then .zero (signOf negative)
      else .finite (signOf negative) digits ((scale : Int) - 1074)
        (Nat.pos_of_ne_zero none))).toNat = _
    rcases Nat.eq_zero_or_pos digits with rfl | positive
    · have none : scale = 0 := by omega
      rw [dif_pos rfl, UnpackedFloat.pack, packedZero, toNat_packComponents, toNat_signOf, none]
      rfl
    · rw [dif_neg (Nat.ne_of_gt positive)]
      exact toNat_pack_digits negative positive less whole
  · rw [shift_of_carry]
    have carried : scale * 2 ^ 52 + 2 ^ 53 = (scale + 1) * 2 ^ 52 + 2 ^ 52 := by omega
    rw [carried]
    exact toNat_pack_digits negative (Nat.two_pow_pos 52) (by decide) (.inr (Nat.le_refl _))

theorem log2_mul_two_pow {n : Nat} (positive : 0 < n) (count : Nat) :
    (n * 2 ^ count).log2 = n.log2 + count := by
  have product_ne : n * 2 ^ count ≠ 0 :=
    Nat.ne_of_gt (Nat.mul_pos positive (Nat.two_pow_pos count))
  have lower := Nat.log2_self_le (Nat.ne_of_gt positive)
  have upper : n < 2 ^ (n.log2 + 1) := Nat.lt_log2_self
  rw [Nat.log2_eq_iff product_ne, Nat.pow_add, Nat.add_right_comm, Nat.pow_add 2 (n.log2 + 1)]
  exact ⟨Nat.mul_le_mul_right _ lower, Nat.mul_lt_mul_of_pos_right upper (Nat.two_pow_pos count)⟩

theorem log2_div_two_pow (n count : Nat) : (n / 2 ^ count).log2 = n.log2 - count := by
  rw [Nat.log2_eq_log_two, Nat.log2_eq_log_two, Nat.log_div_base_pow]

/-- Doubling and halving a fraction moves its leading digit. -/
theorem log2_scaled {numerator denominator up down : Nat} (positive : 0 < denominator)
    (enough : up <= down ∨ 0 < numerator / denominator) :
    (numerator * 2 ^ up / (denominator * 2 ^ down)).log2 =
      (numerator / denominator).log2 + up - down := by
  rcases Nat.le_total up down with fewer | more
  · rcases Nat.exists_eq_add_of_le fewer with ⟨less, rfl⟩
    have quotient : numerator * 2 ^ up / (denominator * 2 ^ (up + less)) =
        numerator / denominator / 2 ^ less := by
      rw [Nat.pow_add, Nat.mul_comm (2 ^ up), ← Nat.mul_assoc,
        Nat.mul_div_mul_right _ _ (Nat.two_pow_pos up), Nat.div_div_eq_div_mul]
    rw [quotient, log2_div_two_pow]
    omega
  · rcases Nat.exists_eq_add_of_le more with ⟨further, rfl⟩
    rcases Nat.eq_zero_or_pos further with rfl | some
    · rw [Nat.add_zero, Nat.mul_div_mul_right _ _ (Nat.two_pow_pos down), Nat.add_sub_cancel]
    have whole : numerator / denominator ≠ 0 := Nat.ne_of_gt (enough.resolve_left (by omega))
    have quotient : numerator * 2 ^ (down + further) / (denominator * 2 ^ down) =
        numerator * 2 ^ further / denominator := by
      rw [Nat.pow_add, Nat.mul_comm (2 ^ down), ← Nat.mul_assoc,
        Nat.mul_div_mul_right _ _ (Nat.two_pow_pos down)]
    have lower := (Nat.le_div_iff_mul_le positive).mp (Nat.log2_self_le whole)
    have upper := (Nat.div_lt_iff_lt_mul positive).mp
      (Nat.lt_log2_self (n := numerator / denominator))
    generalize (numerator / denominator).log2 = leading at lower upper ⊢
    have least : 2 ^ (leading + further) <= numerator * 2 ^ further / denominator := by
      rw [Nat.le_div_iff_mul_le positive, Nat.pow_add, Nat.mul_right_comm]
      exact Nat.mul_le_mul_right _ lower
    have most : numerator * 2 ^ further / denominator < 2 ^ (leading + further + 1) := by
      rw [Nat.div_lt_iff_lt_mul positive, Nat.add_right_comm, Nat.pow_add, Nat.mul_right_comm]
      exact Nat.mul_lt_mul_of_pos_right upper (Nat.two_pow_pos further)
    have leading_eq : (numerator * 2 ^ further / denominator).log2 = leading + further :=
      (Nat.log2_eq_iff (Nat.ne_of_gt (Nat.lt_of_lt_of_le (Nat.two_pow_pos _) least))).mpr
        ⟨least, most⟩
    rw [quotient, leading_eq]
    omega

/-- A mantissa that tells a fraction is rounded to the nearest double.  It has all digits
unless there is only halving left to do. -/
theorem toNat_pack_roundWithAccuracy_of_tells (negative : Bool)
    {mantissa numerator denominator up down : Nat} {accuracy : Accuracy}
    (told : Tells (.ofMantissaAndAccuracy mantissa accuracy) numerator denominator)
    (positive : 0 < denominator) (enough : up <= down ∨ 2 ^ 52 <= mantissa) :
    (UnpackedFloat.pack .binary64 (roundWithAccuracy .binary64 (signOf negative) mantissa
      ((up : Int) - down - 1074) accuracy)).toNat =
        (if negative then Format.double.half else 0) +
          Format.double.nearest (numerator * 2 ^ up) (denominator * 2 ^ down) := by
  have mantissa_eq : mantissa = numerator / denominator := by
    rw [← told.mantissa]
    rcases accuracy with _ | _ | _ | _ <;> rfl
  generalize scale_eq :
    Format.double.scale (numerator * 2 ^ up) (denominator * 2 ^ down) = scale
  have scaled : scale = mantissa.log2 + up - down - 52 := by
    rw [← scale_eq, Format.scale, mantissa_eq, log2_scaled positive
      (enough.imp_right fun whole => by omega)]
    rfl
  have leading : up <= down ∨ 52 <= mantissa.log2 := enough.imp_right fun whole =>
    (Nat.le_log2 (by omega)).mpr whole
  have shifted : shiftToTargetExponent .binary64 mantissa ((up : Int) - down - 1074) accuracy =
      (ExtendedMantissa.ofMantissaAndAccuracy mantissa accuracy >>> (scale + down - up),
        (scale : Int) - 1074) := by
    rw [shiftToTargetExponent_eq (scale + down - up) (by omega)]
    refine Prod.ext rfl ?_
    dsimp only
    omega
  have digits_eq : roundDiv numerator (denominator * 2 ^ (scale + down - up)) .toEven =
      Format.double.digits (numerator * 2 ^ up) (denominator * 2 ^ down) := by
    rw [Format.digits, scale_eq, ← roundDiv_mul_left (Nat.two_pow_pos up), Nat.mul_comm (2 ^ up),
      Nat.mul_left_comm, Nat.mul_assoc, ← Nat.pow_add, ← Nat.pow_add]
    congr 3
    omega
  have rounded := (told.shiftRight positive (scale + down - up)).roundedMantissa_eq
  rw [digits_eq] at rounded
  have whole := Format.scale_eq_zero_or Format.double (numerator * 2 ^ up)
    (Nat.mul_pos positive (Nat.two_pow_pos down))
  rw [scale_eq, ← rounded] at whole
  rw [toNat_pack_roundWithAccuracy shifted (rounded ▸ Format.digits_le ..) whole, rounded,
    Format.nearest_eq_min, Format.place, scale_eq]
  rfl

/-- A whole number of steps is rounded to the nearest double.  Digits are appended where it
has fewer than a double. -/
theorem toNat_pack_round (negative : Bool) {mantissa : Nat} (positive : 0 < mantissa)
    (doublings : Nat) :
    (UnpackedFloat.pack .binary64
      (UnpackedFloat.round .binary64 (signOf negative) mantissa ((doublings : Int) - 1074))).toNat =
        (if negative then Format.double.half else 0) +
          Format.double.nearest (mantissa * 2 ^ doublings) 1 := by
  generalize appended_eq : doublings - (mantissa.log2 + doublings - 52) = appended
  have count : ((doublings : Int) - 1074 -
      max ((mantissa.log2 : Int) + 1 + ((doublings : Int) - 1074) - 53) (-1074)).toNat =
        appended := by
    omega
  have exponent : (doublings : Int) - 1074 - appended =
      ((doublings - appended : Nat) : Int) - (0 : Nat) - 1074 := by
    omega
  have enough : doublings - appended <= 0 ∨ 2 ^ 52 <= mantissa * 2 ^ appended := by
    rcases Nat.eq_zero_or_pos (doublings - appended) with none | some
    · exact .inl (Nat.le_of_eq none)
    · refine .inr ((Nat.le_log2 (Nat.ne_of_gt (Nat.mul_pos positive (Nat.two_pow_pos _)))).mp ?_)
      rw [log2_mul_two_pow positive]
      omega
  have product : mantissa * 2 ^ appended * 2 ^ (doublings - appended) =
      mantissa * 2 ^ doublings := by
    rw [Nat.mul_assoc, ← Nat.pow_add]
    congr 2
    omega
  rw [UnpackedFloat.round]
  dsimp only
  rw [decreaseExponent, targetExponent_binary64, totalExponent, count, Nat.shiftLeft_eq]
  dsimp only
  rw [exponent, toNat_pack_roundWithAccuracy_of_tells negative (tells_exact _) Nat.one_pos enough,
    product, Nat.pow_zero, Nat.mul_one]

/-! ## Differences -/

namespace Datum

/-- The steps of a datum, with its sign. -/
def signedSteps {format : Format} : Datum format -> Int
  | .nan => 0
  | .signed negative pattern =>
    if negative then -(format.steps pattern.val : Int) else format.steps pattern.val

/-- The datum nearest to a number of steps. -/
def nearestTo (format : Format) (steps : Int) : Datum format :=
  .ofSteps format (decide (steps < 0)) steps.natAbs 1

theorem ofSteps_one {format : Format} (negative : Bool) {pattern : Fin (format.infinity + 1)}
    (finite : pattern.val < format.infinity) :
    ofSteps format negative (format.steps pattern.val) 1 = .signed negative pattern := by
  have exact := Format.nearest_steps Nat.one_pos finite
  rw [Nat.mul_one] at exact
  exact congrArg (signed negative) (Fin.ext exact)

/-- A number that is not zero is nearest to its steps. -/
theorem nearestTo_signedSteps {format : Format} {datum : Datum format}
    (finite : datum.isFinite = true) (nonzero : datum.signedSteps ≠ 0) :
    nearestTo format datum.signedSteps = datum := by
  cases datum with
  | nan => cases finite
  | signed negative pattern =>
    have exact := ofSteps_one negative (of_decide_eq_true finite)
    cases negative with
    | false =>
      have sign : decide ((format.steps pattern.val : Int) < 0) = false := by simp
      change ofSteps format (decide ((format.steps pattern.val : Int) < 0)) _ 1 = _
      rwa [sign]
    | true =>
      have some_steps : (format.steps pattern.val : Int) ≠ 0 := by
        simpa [signedSteps] using nonzero
      have sign : decide (-(format.steps pattern.val : Int) < 0) = true := by
        simp only [decide_eq_true_eq]
        omega
      change ofSteps format (decide (-(format.steps pattern.val : Int) < 0))
        (-(format.steps pattern.val : Int)).natAbs 1 = _
      rwa [sign, Int.natAbs_neg, Int.natAbs_natCast]

theorem ofFloat_pack {result : UnpackedFloat} {negative : Bool}
    {pattern : Fin (Format.double.infinity + 1)}
    (bits : (UnpackedFloat.pack .binary64 result).toNat =
      (if negative then Format.double.half else 0) + pattern.val) :
    ofFloat (.ofModel (Float.Model.pack result)) = .signed negative pattern := by
  show ofBits .double (UnpackedFloat.pack .binary64 result).toNat = .signed negative pattern
  rw [bits]
  exact ofBits_bits negative pattern

/-- What a double is computed with is put together to that double. -/
theorem ofFloat_pack_unpacked (datum : Datum .double) :
    ofFloat (.ofModel (Float.Model.pack datum.unpacked)) = datum := by
  cases datum with
  | nan => decide +kernel
  | signed negative pattern =>
    exact ofFloat_pack (toNat_pack_unpackedMagnitude negative (Nat.le_of_lt_succ pattern.isLt))

theorem ofFloat_pack_normalize {mantissa : Int} (nonzero : mantissa ≠ 0) (doublings : Nat)
    (sign : UnpackedFloat.Sign) :
    ofFloat (.ofModel (Float.Model.pack
      (UnpackedFloat.normalize .binary64 mantissa ((doublings : Int) - 1074) sign))) =
        nearestTo .double (mantissa * 2 ^ doublings) := by
  have power : 0 < (2 : Int) ^ doublings := by positivity
  rw [nearestTo, Int.natAbs_mul, Int.natAbs_pow]
  rcases Int.lt_or_gt_of_ne nonzero with below | above
  · rw [UnpackedFloat.normalize, Int.compare_eq_lt.mpr below,
      decide_eq_true (Int.mul_neg_of_neg_of_pos below power)]
    dsimp only
    rw [show (-mantissa).toNat = mantissa.natAbs by omega]
    exact ofFloat_pack (toNat_pack_round true (by omega) doublings)
  · rw [UnpackedFloat.normalize, Int.compare_eq_gt.mpr above,
      decide_eq_false (Int.not_lt.mpr (Int.le_of_lt (Int.mul_pos above power)))]
    dsimp only
    rw [show mantissa.toNat = mantissa.natAbs by omega]
    exact ofFloat_pack (toNat_pack_round false (by omega) doublings)

/-- The mantissa of a number, brought to an exponent that it has in common with another
one. -/
theorem apply_decreaseExponent (negative : Bool) (pattern : Fin (Format.double.infinity + 1))
    (common : Nat) (small : common <= Format.double.doublings pattern.val) :
    (signOf negative).apply ((decreaseExponent (Format.double.significand pattern.val)
      ((Format.double.doublings pattern.val : Int) - 1074) ((common : Int) - 1074)).1 : Int) *
        2 ^ common = (signed negative pattern).signedSteps := by
  have count : ((Format.double.doublings pattern.val : Int) - 1074 -
      ((common : Int) - 1074)).toNat = Format.double.doublings pattern.val - common := by
    omega
  have steps_eq : (Format.double.significand pattern.val <<<
      (Format.double.doublings pattern.val - common)) * 2 ^ common =
        Format.double.steps pattern.val := by
    rw [Nat.shiftLeft_eq, Nat.mul_assoc, ← Nat.pow_add, Nat.sub_add_cancel small, Format.steps_eq]
  rw [decreaseExponent, signedSteps]
  dsimp only
  rw [count, ← steps_eq]
  cases negative <;> simp [signOf, UnpackedFloat.Sign.apply]

theorem signedSteps_of_zero {format : Format} (negative : Bool)
    {pattern : Fin (format.infinity + 1)} (zero : pattern.val = 0) :
    (signed negative pattern).signedSteps = 0 := by
  rw [signedSteps, zero, Format.steps_zero, Int.natCast_zero, Int.neg_zero, ite_self]

theorem signedSteps_not {format : Format} (negative : Bool) (pattern : Fin (format.infinity + 1)) :
    (signed (!negative) pattern).signedSteps = -(signed negative pattern).signedSteps := by
  cases negative
  · rfl
  · exact (Int.neg_neg _).symm

theorem unpacked_of_zero (negative : Bool) {pattern : Fin (Format.double.infinity + 1)}
    (zero : pattern.val = 0) :
    (signed negative pattern : Datum .double).unpacked = .zero (signOf negative) := by
  rw [unpacked, zero, unpackedMagnitude_zero]

theorem neg_signOf (negative : Bool) : -signOf negative = signOf (!negative) := by
  cases negative <;> rfl

section Sub

variable {negative negative' : Bool} {pattern pattern' : Fin (Format.double.infinity + 1)}

theorem unpacked_of_finite (positive : 0 < pattern.val)
    (finite : (signed negative pattern : Datum .double).isFinite = true) :
    (signed negative pattern : Datum .double).unpacked =
      .finite (signOf negative) (Format.double.significand pattern.val)
        ((Format.double.doublings pattern.val : Int) - 1074)
        (Format.double.significand_pos positive) :=
  unpackedMagnitude_finite _ positive (of_decide_eq_true finite)

theorem sub_unpacked_of_zero (sign : UnpackedFloat.Sign) (positive : 0 < pattern.val)
    (finite : (signed negative pattern : Datum .double).isFinite = true) :
    UnpackedFloat.sub .binary64 (signed negative pattern : Datum .double).unpacked (.zero sign) =
      (signed negative pattern : Datum .double).unpacked := by
  rw [unpacked_of_finite positive finite]
  rfl

/-- What is taken from zero comes back with the opposite sign. -/
theorem zero_sub_unpacked (sign : UnpackedFloat.Sign) (positive : 0 < pattern.val)
    (finite : (signed negative pattern : Datum .double).isFinite = true) :
    UnpackedFloat.sub .binary64 (.zero sign) (signed negative pattern : Datum .double).unpacked =
      (signed (!negative) pattern : Datum .double).unpacked := by
  have finite_opposite : (signed (!negative) pattern : Datum .double).isFinite = true := finite
  rw [unpacked_of_finite positive finite, unpacked_of_finite positive finite_opposite,
    ← neg_signOf]
  rfl

/-- Two numbers are brought to one exponent, and the difference of their mantissas is
rounded. -/
theorem ofFloat_pack_sub_of_pos (positive : 0 < pattern.val)
    (finite : (signed negative pattern : Datum .double).isFinite = true)
    (positive' : 0 < pattern'.val)
    (finite' : (signed negative' pattern' : Datum .double).isFinite = true)
    (different : (signed negative pattern : Datum .double).signedSteps -
      (signed negative' pattern' : Datum .double).signedSteps ≠ 0) :
    ofFloat (.ofModel (Float.Model.pack (UnpackedFloat.sub .binary64
      (signed negative pattern).unpacked (signed negative' pattern').unpacked))) =
        nearestTo .double ((signed negative pattern : Datum .double).signedSteps -
          (signed negative' pattern' : Datum .double).signedSteps) := by
  let common := min (Format.double.doublings pattern.val) (Format.double.doublings pattern'.val)
  have aligned := apply_decreaseExponent negative pattern common (Nat.min_le_left _ _)
  have aligned' := apply_decreaseExponent negative' pattern' common (Nat.min_le_right _ _)
  have common_eq : min ((Format.double.doublings pattern.val : Int) - 1074)
      ((Format.double.doublings pattern'.val : Int) - 1074) = (common : Int) - 1074 := by
    dsimp only [common]
    omega
  rw [← aligned, ← aligned', ← sub_mul] at different ⊢
  rw [unpacked_of_finite positive finite, unpacked_of_finite positive' finite', UnpackedFloat.sub]
  dsimp only
  rw [common_eq]
  exact ofFloat_pack_normalize (left_ne_zero_of_mul different) common _

end Sub

/-- The difference of two finite doubles is the nearest one to their exact difference. -/
theorem ofFloat_pack_sub {first second : Datum .double} (finite : first.isFinite = true)
    (finite' : second.isFinite = true) (different : first.signedSteps - second.signedSteps ≠ 0) :
    ofFloat (.ofModel (Float.Model.pack
      (UnpackedFloat.sub .binary64 first.unpacked second.unpacked))) =
        nearestTo .double (first.signedSteps - second.signedSteps) := by
  cases first with
  | nan => cases finite
  | signed negative pattern =>
  cases second with
  | nan => cases finite'
  | signed negative' pattern' =>
  rcases Nat.eq_zero_or_pos pattern.val with zero | positive
  · rw [signedSteps_of_zero negative zero, Int.zero_sub, ← signedSteps_not] at different ⊢
    rcases Nat.eq_zero_or_pos pattern'.val with zero' | positive'
    · exact absurd (signedSteps_of_zero _ zero') different
    · have finite_opposite : (signed (!negative') pattern' : Datum .double).isFinite = true :=
        finite'
      rw [unpacked_of_zero negative zero, zero_sub_unpacked _ positive' finite',
        ofFloat_pack_unpacked, nearestTo_signedSteps finite_opposite different]
  · rcases Nat.eq_zero_or_pos pattern'.val with zero' | positive'
    · rw [signedSteps_of_zero negative' zero', Int.sub_zero] at different ⊢
      rw [unpacked_of_zero negative' zero', sub_unpacked_of_zero _ positive finite,
        ofFloat_pack_unpacked, nearestTo_signedSteps finite different]
    · exact ofFloat_pack_sub_of_pos positive finite positive' finite' different

/-- Data are ordered as their steps are. -/
theorem signedSteps_lt_of_place_lt {format : Format} {first second : Datum format}
    {place place' : Int} (found : first.place? = some place) (found' : second.place? = some place')
    (less : place < place') : first.signedSteps < second.signedSteps := by
  cases first with
  | nan => cases found
  | signed negative pattern =>
  cases second with
  | nan => cases found'
  | signed negative' pattern' =>
  cases found
  cases found'
  have above_zero {pattern : Nat} (positive : 0 < pattern) : 0 < format.steps pattern := by
    have above : format.steps 0 < format.steps pattern := Format.steps_lt_steps positive
    rwa [Format.steps_zero] at above
  cases negative <;> cases negative' <;>
    simp only [signedSteps, Bool.false_eq_true, if_false, if_true] at less ⊢
  case false.false =>
    have greater : format.steps pattern.val < format.steps pattern'.val :=
      Format.steps_lt_steps (Int.ofNat_lt.mp less)
    omega
  case false.true => omega
  case true.false =>
    rcases Nat.eq_zero_or_pos pattern.val with zero | positive
    · have greater := above_zero (show 0 < pattern'.val by omega)
      omega
    · have lesser := above_zero positive
      omega
  case true.true =>
    have greater : format.steps pattern'.val < format.steps pattern.val :=
      Format.steps_lt_steps (by omega)
    omega

/-- What is nearest to some steps is not zero. -/
theorem exists_place?_nearestTo {steps : Int} (positive : 0 < steps) :
    Exists fun place => (nearestTo .double steps).place? = some place ∧ 0 < place := by
  have one_step : Format.double.nearest (Format.double.steps 1 * 1) 1 = 1 :=
    Format.nearest_steps Nat.one_pos (by decide)
  have steps_one : Format.double.steps 1 * 1 = 1 := rfl
  have more : Format.double.nearest 1 1 <= Format.double.nearest steps.natAbs 1 :=
    Format.nearest_mono Nat.one_pos (by omega)
  rw [steps_one] at one_step
  rw [one_step] at more
  rw [nearestTo, decide_eq_false (Int.not_lt.mpr (Int.le_of_lt positive))]
  exact ⟨_, rfl, Int.natCast_pos.mpr more⟩

end Datum

theorem sub_eq (x y : Float) :
    x - y = .ofModel (Float.Model.pack
      (UnpackedFloat.sub .binary64 x.toModel.unpack y.toModel.unpack)) := rfl

private theorem sub_pos_of_finite {x y : Float} (less : x < y) (finite : x.isFinite = true)
    (finite' : y.isFinite = true) : 0 < y - x := by
  rcases (lt_iff_place x y).mp less with ⟨place, place', found, found', placed⟩
  have steps_lt := Datum.signedSteps_lt_of_place_lt found found' placed
  have exact := Datum.ofFloat_pack_sub (isFinite_eq y ▸ finite') (isFinite_eq x ▸ finite)
    (show (Datum.ofFloat y).signedSteps - (Datum.ofFloat x).signedSteps ≠ 0 by omega)
  rcases Datum.exists_place?_nearestTo (Int.sub_pos_of_lt steps_lt) with
    ⟨difference, foundDifference, positive⟩
  refine (lt_iff_place 0 (y - x)).mpr ⟨0, difference, place_zero, ?_, positive⟩
  rw [sub_eq, unpack_eq_unpacked, unpack_eq_unpacked, exact, foundDifference]

theorem sub_unpack_of_infinite {u v : UnpackedFloat} (less : (u.lt v) = true)
    (infinite : ¬ (u.isFinite = true ∧ v.isFinite = true)) :
    UnpackedFloat.sub .binary64 v u = .infinity .positive := by
  rcases u with ⟨_ | _⟩ | _ | _ | ⟨_ | _, _, _, _⟩ <;>
    rcases v with ⟨_ | _⟩ | _ | _ | ⟨_ | _, _, _, _⟩ <;>
    first
    | rfl
    | exact absurd less Bool.false_ne_true
    | exact absurd ⟨rfl, rfl⟩ infinite

/-- The difference of a greater number and a lesser one is above zero, also where one of
them is infinite. -/
theorem sub_pos_of_lt {x y : Float} (less : x < y) : 0 < y - x := by
  by_cases finite : x.isFinite = true ∧ y.isFinite = true
  · exact sub_pos_of_finite less finite.1 finite.2
  · rw [sub_eq, sub_unpack_of_infinite ((lt_iff_unpack x y).mp less) finite]
    decide +kernel

/-! ## Zeros -/

theorem unpack_pack_zero (sign : UnpackedFloat.Sign) :
    (Float.ofModel (Float.Model.pack (.zero sign))).toModel.unpack = .zero sign := by
  cases sign <;> rfl

/-- The zeros of either sign are the numbers that equal zero. -/
theorem beq_zero_iff (x : Float) :
    (x == 0) = true ↔ Exists fun sign => x.toModel.unpack = .zero sign := by
  have zero : (0 : Float).toModel.unpack = .zero .positive := rfl
  rw [beq_eq_compare, zero]
  rcases x.toModel.unpack with ⟨_ | _⟩ | _ | sign | ⟨_ | _, _, _, _⟩
  case zero => exact ⟨fun _ => ⟨sign, rfl⟩, fun _ => rfl⟩
  all_goals exact ⟨fun same => absurd same Bool.false_ne_true, fun ⟨_, same⟩ => nomatch same⟩

theorem pack_zero_beq_zero {result : UnpackedFloat}
    (zero : Exists fun sign => result = .zero sign) :
    (Float.ofModel (Float.Model.pack result) == 0) = true := by
  rcases zero with ⟨sign, rfl⟩
  exact (beq_zero_iff _).mpr ⟨sign, unpack_pack_zero sign⟩

/-- Data of one place are the same, or zeros. -/
theorem Datum.eq_or_zeros_of_place {first second : Datum .double} {place : Int}
    (found : first.place? = some place) (found' : second.place? = some place) :
    first = second ∨ Exists fun sign => Exists fun sign' =>
      first.unpacked = .zero sign ∧ second.unpacked = .zero sign' := by
  cases first with
  | nan => cases found
  | signed negative pattern =>
  cases second with
  | nan => cases found'
  | signed negative' pattern' =>
  have places := found.trans found'.symm
  simp only [place?, Option.some.injEq] at places
  rcases Nat.eq_zero_or_pos pattern.val with zero | positive
  · have zero' : pattern'.val = 0 := by
      cases negative <;> cases negative' <;>
        simp only [Bool.false_eq_true, if_false, if_true] at places <;> omega
    exact .inr ⟨_, _, unpacked_of_zero negative zero, unpacked_of_zero negative' zero'⟩
  · have same : negative = negative' ∧ pattern.val = pattern'.val := by
      cases negative <;> cases negative' <;>
        simp only [Bool.false_eq_true, if_false, if_true] at places <;>
        first
        | exact ⟨rfl, by omega⟩
        | omega
    rw [same.1, Fin.ext same.2]
    exact .inl rfl

theorem sub_self_zero {u : UnpackedFloat} (finite : u.isFinite = true) :
    Exists fun sign => UnpackedFloat.sub .binary64 u u = .zero sign := by
  cases u with
  | infinity | notANumber => cases finite
  | zero sign => cases sign <;> exact ⟨_, rfl⟩
  | finite sign mantissa exponent positive =>
    refine ⟨.positive, ?_⟩
    rw [UnpackedFloat.sub]
    dsimp only
    rw [Int.sub_self]
    rfl

/-- The difference of a finite number and an equal one is zero. -/
theorem sub_beq_zero {x y : Float} (finite : x.isFinite = true) (same : (x == y) = true) :
    (x - y == 0) = true := by
  rcases (beq_iff_place x y).mp same with ⟨place, found, found'⟩
  refine pack_zero_beq_zero ?_
  change x.toModel.unpack.isFinite = true at finite
  rcases Datum.eq_or_zeros_of_place found found' with equal | ⟨sign, sign', zero, zero'⟩
  · rw [unpack_eq_unpacked y, ← equal, ← unpack_eq_unpacked]
    exact sub_self_zero finite
  · rw [unpack_eq_unpacked, unpack_eq_unpacked, zero, zero']
    cases sign <;> cases sign' <;> exact ⟨_, rfl⟩

/-- Zero remains zero when it is divided by something greater. -/
theorem div_beq_zero {x y : Float} (zero : (x == 0) = true) (positive : 0 < y) :
    (x / y == 0) = true := by
  rcases (beq_zero_iff x).mp zero with ⟨sign, unpacked⟩
  refine pack_zero_beq_zero ?_
  rw [lt_iff_unpack] at positive
  rw [unpacked]
  generalize y.toModel.unpack = v at positive ⊢
  rcases v with ⟨_ | _⟩ | _ | sign' | ⟨_ | _, _, _, _⟩ <;>
    first
    | exact ⟨_, rfl⟩
    | exact absurd positive Bool.false_ne_true

/-- A finite number multiplied with zero is zero. -/
theorem mul_beq_zero {x y : Float} (finite : x.isFinite = true) (zero : (y == 0) = true) :
    (x * y == 0) = true := by
  rcases (beq_zero_iff y).mp zero with ⟨sign, unpacked⟩
  refine pack_zero_beq_zero ?_
  rw [unpacked]
  change x.toModel.unpack.isFinite = true at finite
  generalize x.toModel.unpack = u at finite ⊢
  cases u with
  | infinity | notANumber => cases finite
  | zero sign' => exact ⟨_, rfl⟩
  | finite sign' mantissa exponent positive => exact ⟨_, rfl⟩

theorem add_eq (x y : Float) :
    x + y = .ofModel (Float.Model.pack
      (UnpackedFloat.add .binary64 x.toModel.unpack y.toModel.unpack)) := rfl

theorem exists_place_of_finite {x : Float} (finite : x.isFinite = true) :
    Exists fun place => (Datum.ofFloat x).place? = some place := by
  rw [isFinite_eq] at finite
  cases found : Datum.ofFloat x with
  | nan => rw [found] at finite; cases finite
  | signed negative pattern => exact ⟨_, rfl⟩

/-- Zero added to a finite number leaves it as it is. -/
theorem add_beq_self {x y : Float} (finite : x.isFinite = true) (zero : (y == 0) = true) :
    (x + y == x) = true := by
  rcases (beq_zero_iff y).mp zero with ⟨sign, unpacked⟩
  by_cases none : (x == 0) = true
  · rcases (beq_zero_iff x).mp none with ⟨sign', unpacked'⟩
    rw [beq_eq_compare, add_eq, unpacked, unpacked']
    cases sign <;> cases sign' <;> rfl
  · have same : UnpackedFloat.add .binary64 x.toModel.unpack y.toModel.unpack =
        (Datum.ofFloat x).unpacked := by
      rw [← unpack_eq_unpacked, unpacked]
      rw [beq_zero_iff] at none
      change x.toModel.unpack.isFinite = true at finite
      generalize x.toModel.unpack = u at none finite ⊢
      cases u with
      | infinity | notANumber => cases finite
      | zero sign' => exact absurd ⟨sign', rfl⟩ none
      | finite sign' mantissa exponent positive => rfl
    rcases exists_place_of_finite finite with ⟨place, found⟩
    refine (beq_iff_place _ _).mpr ⟨place, ?_, found⟩
    rw [add_eq, same, Datum.ofFloat_pack_unpacked, found]

end Number
end ParticleEffects
