import ParticleEffects.Proofs.NumberArithmetic

namespace ParticleEffects
namespace Number

/-!
The places of sums, products and quotients.

An operation on finite numbers gives the number nearest to the exact result.  Up to the
sign of zero that number is told by its place, so that an operation is a function of the
steps of its operands.  What is finite comes from finite operands only, and a quotient may
also have an infinite divisor.
-/

open Float.Model UnpackedFloat

/-! ## Places and steps -/

/-- The place of what is nearest to a fraction of steps. -/
def nearestPlace (numerator : Int) (denominator : Nat) : Int :=
  numerator.sign * Format.double.nearest numerator.natAbs denominator

/-- The steps of what is at a place. -/
def placeSteps (place : Int) : Int := place.sign * Format.double.steps place.natAbs

/-- The steps of a double. -/
def stepsOf (x : Float) : Int := (Datum.ofFloat x).signedSteps

theorem nearest_zero {denominator : Nat} (positive : 0 < denominator) :
    Format.double.nearest 0 denominator = 0 := by
  have exact : Format.double.nearest (Format.double.steps 0 * denominator) denominator = 0 :=
    Format.nearest_steps positive (by decide)
  rwa [Format.steps_zero, Nat.zero_mul] at exact

theorem nearestPlace_zero (denominator : Nat) : nearestPlace 0 denominator = 0 := by
  rw [nearestPlace, Int.sign_zero, Int.zero_mul]

theorem placeSteps_natCast (pattern : Nat) :
    placeSteps pattern = Format.double.steps pattern := by
  rcases Nat.eq_zero_or_pos pattern with rfl | positive
  · rw [Format.steps_zero]
    rfl
  · rw [placeSteps, Int.sign_natCast_of_ne_zero (Nat.ne_of_gt positive), Int.one_mul,
      Int.natAbs_natCast]

theorem placeSteps_neg (place : Int) : placeSteps (-place) = -placeSteps place := by
  rw [placeSteps, placeSteps, Int.sign_neg, Int.natAbs_neg, Int.neg_mul]

theorem natAbs_placeSteps (place : Int) :
    (placeSteps place).natAbs = Format.double.steps place.natAbs := by
  rcases Int.natAbs_eq place with positive | negative
  · rw [positive, placeSteps_natCast, Int.natAbs_natCast, Int.natAbs_natCast]
  · rw [negative, placeSteps_neg, placeSteps_natCast, Int.natAbs_neg, Int.natAbs_neg,
      Int.natAbs_natCast, Int.natAbs_natCast]

theorem nearestPlace_neg (numerator : Int) (denominator : Nat) :
    nearestPlace (-numerator) denominator = -nearestPlace numerator denominator := by
  rw [nearestPlace, nearestPlace, Int.sign_neg, Int.natAbs_neg, Int.neg_mul]

theorem nearestPlace_natCast (numerator : Nat) {denominator : Nat} (positive : 0 < denominator) :
    nearestPlace numerator denominator = Format.double.nearest numerator denominator := by
  rcases Nat.eq_zero_or_pos numerator with rfl | some_steps
  · rw [nearest_zero positive]
    exact nearestPlace_zero _
  · rw [nearestPlace, Int.sign_natCast_of_ne_zero (Nat.ne_of_gt some_steps), Int.one_mul,
      Int.natAbs_natCast]

theorem natAbs_nearestPlace (numerator : Int) {denominator : Nat} (positive : 0 < denominator) :
    (nearestPlace numerator denominator).natAbs =
      Format.double.nearest numerator.natAbs denominator := by
  rcases Int.natAbs_eq numerator with above | below
  · rw [above, nearestPlace_natCast _ positive, Int.natAbs_natCast, Int.natAbs_natCast]
  · rw [below, nearestPlace_neg, nearestPlace_natCast _ positive, Int.natAbs_neg, Int.natAbs_neg,
      Int.natAbs_natCast, Int.natAbs_natCast]

/-- What is at a place is nearest to itself. -/
theorem nearestPlace_placeSteps {place : Int} (finite : place.natAbs < Format.double.infinity)
    {denominator : Nat} (positive : 0 < denominator) :
    nearestPlace (placeSteps place * denominator) denominator = place := by
  have exact : Format.double.nearest (Format.double.steps place.natAbs * denominator)
      denominator = place.natAbs := Format.nearest_steps positive finite
  rcases Int.natAbs_eq place with above | below
  · rw [above, placeSteps_natCast, ← Int.natCast_mul, nearestPlace_natCast _ positive, exact]
  · rw [below, placeSteps_neg, Int.neg_mul, nearestPlace_neg, placeSteps_natCast,
      ← Int.natCast_mul, nearestPlace_natCast _ positive, exact]

theorem place?_ofSteps (negative : Bool) (numerator : Nat) {denominator : Nat}
    (positive : 0 < denominator) :
    (Datum.ofSteps .double negative numerator denominator).place? =
      some (nearestPlace (if negative then -(numerator : Int) else numerator) denominator) := by
  rw [Datum.ofSteps, Datum.place?, nearestPlace]
  dsimp only
  rcases Nat.eq_zero_or_pos numerator with rfl | some_steps
  · rw [nearest_zero positive]
    cases negative <;> simp
  · have sign : (numerator : Int).sign = 1 := Int.sign_natCast_of_ne_zero (by omega)
    cases negative <;> simp [sign]

theorem place?_nearestTo (steps : Int) :
    (Datum.nearestTo .double steps).place? = some (nearestPlace steps 1) := by
  rw [Datum.nearestTo, place?_ofSteps _ _ Nat.one_pos]
  congr 2
  by_cases below : steps < 0
  · rw [decide_eq_true below, if_pos rfl]
    omega
  · rw [decide_eq_false below, if_neg Bool.false_ne_true]
    omega

namespace Datum

variable {datum : Datum .double} {place : Int}

theorem signedSteps_of_place (found : datum.place? = some place) :
    datum.signedSteps = placeSteps place := by
  cases datum with
  | nan => cases found
  | signed negative pattern =>
    cases found
    rcases Nat.eq_zero_or_pos pattern.val with zero | positive
    · rw [signedSteps_of_zero negative zero, zero]
      cases negative <;> rfl
    · have sign : (pattern.val : Int).sign = 1 := Int.sign_natCast_of_ne_zero (by omega)
      cases negative <;> simp [signedSteps, placeSteps, sign]

theorem isFinite_of_place (found : datum.place? = some place) :
    datum.isFinite = true ↔ place.natAbs < Format.double.infinity := by
  cases datum with
  | nan => cases found
  | signed negative pattern =>
    cases found
    cases negative <;> simp [isFinite]

/-- Data of the same steps are at one place. -/
theorem place_eq_of_signedSteps {first second : Datum .double} {place place' : Int}
    (found : first.place? = some place) (found' : second.place? = some place')
    (same : first.signedSteps = second.signedSteps) : place = place' := by
  rcases Int.lt_trichotomy place place' with less | equal | greater
  · exact absurd same (Int.ne_of_lt (signedSteps_lt_of_place_lt found found' less))
  · exact equal
  · exact absurd same.symm (Int.ne_of_lt (signedSteps_lt_of_place_lt found' found greater))

end Datum

theorem isFinite_iff_of_place {x : Float} {place : Int}
    (found : (Datum.ofFloat x).place? = some place) :
    x.isFinite = true ↔ place.natAbs < Format.double.infinity := by
  rw [isFinite_eq, Datum.isFinite_of_place found]

theorem stepsOf_of_place {x : Float} {place : Int}
    (found : (Datum.ofFloat x).place? = some place) : stepsOf x = placeSteps place :=
  Datum.signedSteps_of_place found

/-! ## Differences and sums -/

/-- A difference is at the place nearest to the exact one. -/
theorem place?_sub {x y : Float} (finite : x.isFinite = true) (finite' : y.isFinite = true) :
    (Datum.ofFloat (x - y)).place? = some (nearestPlace (stepsOf x - stepsOf y) 1) := by
  by_cases same : stepsOf x - stepsOf y = 0
  · rcases exists_place_of_finite finite with ⟨place, found⟩
    rcases exists_place_of_finite finite' with ⟨place', found'⟩
    obtain rfl := Datum.place_eq_of_signedSteps found found' (Int.sub_eq_zero.mp same)
    have zero := sub_beq_zero finite ((beq_iff_place x y).mpr ⟨place, found, found'⟩)
    rcases (beq_iff_place _ _).mp zero with ⟨_, foundDifference, foundZero⟩
    rw [foundDifference, ← foundZero, place_zero, same, nearestPlace_zero]
  · rw [sub_eq, unpack_eq_unpacked, unpack_eq_unpacked,
      Datum.ofFloat_pack_sub (isFinite_eq x ▸ finite) (isFinite_eq y ▸ finite') same,
      place?_nearestTo]
    rfl

theorem neg_neg_sign (sign : UnpackedFloat.Sign) : - -sign = sign := by
  cases sign <;> rfl

theorem apply_neg_sign (sign : UnpackedFloat.Sign) (mantissa : Int) :
    (-sign).apply mantissa = -sign.apply mantissa := by
  cases sign
  · exact (Int.neg_neg _).symm
  · rfl

/-- To add a number is to subtract its opposite. -/
theorem Datum.add_unpacked (u : UnpackedFloat) (negative : Bool)
    (pattern : Fin (Format.double.infinity + 1)) :
    UnpackedFloat.add .binary64 u (signed negative pattern : Datum .double).unpacked =
      UnpackedFloat.sub .binary64 u (signed (!negative) pattern : Datum .double).unpacked := by
  rw [unpacked, unpacked, ← neg_signOf]
  generalize signOf negative = sign
  unfold unpackedMagnitude
  split
  · cases u <;> cases sign <;> rfl
  · split
    · cases u with
      | finite sign' mantissa exponent positive =>
        simp only [UnpackedFloat.add, UnpackedFloat.sub, apply_neg_sign, Int.sub_neg]
      | zero sign' => simp only [UnpackedFloat.add, UnpackedFloat.sub, neg_neg_sign]
      | _ => rfl
    · cases u <;> cases sign <;> rfl

theorem exists_ofFloat_eq (datum : Datum .double) :
    Exists fun x : Float => Datum.ofFloat x = datum :=
  ⟨_, Datum.ofFloat_toFloat datum⟩

theorem exists_opposite {y : Float} (finite : y.isFinite = true) :
    Exists fun opposite : Float => opposite.isFinite = true ∧ stepsOf opposite = -stepsOf y ∧
      forall x : Float, x + y = x - opposite := by
  rw [isFinite_eq] at finite
  cases datum : Datum.ofFloat y with
  | nan => rw [datum] at finite; cases finite
  | signed negative pattern =>
    rcases exists_ofFloat_eq (.signed (!negative) pattern) with ⟨opposite, same⟩
    refine ⟨opposite, ?_, ?_, fun x => ?_⟩
    · rw [isFinite_eq, same]
      rw [datum] at finite
      exact finite
    · rw [stepsOf, stepsOf, same, datum, Datum.signedSteps_not]
    · rw [add_eq, sub_eq, unpack_eq_unpacked y, unpack_eq_unpacked opposite, datum, same,
        Datum.add_unpacked]

/-- A sum is at the place nearest to the exact one. -/
theorem place?_add {x y : Float} (finite : x.isFinite = true) (finite' : y.isFinite = true) :
    (Datum.ofFloat (x + y)).place? = some (nearestPlace (stepsOf x + stepsOf y) 1) := by
  rcases exists_opposite finite' with ⟨opposite, finiteOpposite, opposite_eq, sum_eq⟩
  rw [sum_eq, place?_sub finite finiteOpposite, opposite_eq, Int.sub_neg]

/-! ## Products and quotients -/

namespace Datum

theorem unit_double_eq : Format.double.unit = 2 ^ 1074 := by decide +kernel

theorem signOf_mul (negative negative' : Bool) :
    signOf negative * signOf negative' = signOf (negative ^^ negative') := by
  cases negative <;> cases negative' <;> rfl

theorem signOf_div (negative negative' : Bool) :
    signOf negative / signOf negative' = signOf (negative ^^ negative') := by
  cases negative <;> cases negative' <;> rfl

theorem ofFloat_pack_zero (negative : Bool) {denominator : Nat} (positive : 0 < denominator) :
    ofFloat (.ofModel (Float.Model.pack (.zero (signOf negative)))) =
      ofSteps .double negative 0 denominator := by
  have zero : (signed negative 0 : Datum .double) = ofSteps .double negative 0 denominator :=
    congrArg (signed negative) (Fin.ext (nearest_zero positive).symm)
  rw [← zero]
  exact ofFloat_pack_unpacked (signed negative 0)

section

variable {negative negative' : Bool} {pattern pattern' : Fin (Format.double.infinity + 1)}

/-- A mantissa that is doubled has all digits, and so has a product with it. -/
theorem doublings_le_or_span_le_mul (positive : 0 < pattern.val) (positive' : 0 < pattern'.val) :
    Format.double.doublings pattern.val + Format.double.doublings pattern'.val <= 1074 ∨
      2 ^ 52 <= Format.double.significand pattern.val * Format.double.significand pattern'.val := by
  have some_digits := Format.double.significand_pos positive
  have some_digits' := Format.double.significand_pos positive'
  rcases Format.double.doublings_eq_zero_or pattern.val with none | whole
  · rcases Format.double.doublings_eq_zero_or pattern'.val with none' | whole'
    · exact .inl (by omega)
    · exact .inr (Nat.le_trans whole' (Nat.le_mul_of_pos_left _ some_digits))
  · exact .inr (Nat.le_trans whole (Nat.le_mul_of_pos_right _ some_digits'))

theorem ofFloat_pack_mul_of_pos (positive : 0 < pattern.val)
    (finite : (signed negative pattern : Datum .double).isFinite = true)
    (positive' : 0 < pattern'.val)
    (finite' : (signed negative' pattern' : Datum .double).isFinite = true) :
    ofFloat (.ofModel (Float.Model.pack (UnpackedFloat.mul .binary64
      (signed negative pattern).unpacked (signed negative' pattern').unpacked))) =
        ofSteps .double (negative ^^ negative')
          (Format.double.steps pattern.val * Format.double.steps pattern'.val)
          Format.double.unit := by
  have exponent : (Format.double.doublings pattern.val : Int) - 1074 +
      ((Format.double.doublings pattern'.val : Int) - 1074) =
        ((Format.double.doublings pattern.val + Format.double.doublings pattern'.val : Nat) : Int) -
          (1074 : Nat) - 1074 := by
    omega
  have steps_eq : Format.double.significand pattern.val * Format.double.significand pattern'.val *
      2 ^ (Format.double.doublings pattern.val + Format.double.doublings pattern'.val) =
        Format.double.steps pattern.val * Format.double.steps pattern'.val := by
    rw [Format.steps_eq, Format.steps_eq, Nat.pow_add]
    ring
  rw [unpacked_of_finite positive finite, unpacked_of_finite positive' finite', UnpackedFloat.mul,
    signOf_mul, exponent]
  refine ofFloat_pack ?_
  rw [toNat_pack_roundWithAccuracy_of_tells _ (tells_exact _) Nat.one_pos
    (doublings_le_or_span_le_mul positive positive'), steps_eq, Nat.one_mul, unit_double_eq]

/-- The product of two finite doubles is the nearest one to their exact product. -/
theorem ofFloat_pack_mul
    (finite : (signed negative pattern : Datum .double).isFinite = true)
    (finite' : (signed negative' pattern' : Datum .double).isFinite = true) :
    ofFloat (.ofModel (Float.Model.pack (UnpackedFloat.mul .binary64
      (signed negative pattern).unpacked (signed negative' pattern').unpacked))) =
        ofSteps .double (negative ^^ negative')
          (Format.double.steps pattern.val * Format.double.steps pattern'.val)
          Format.double.unit := by
  rcases Nat.eq_zero_or_pos pattern.val with zero | positive
  · rw [zero, Format.steps_zero, Nat.zero_mul, ← ofFloat_pack_zero _ Format.double.unit_pos,
      ← signOf_mul, unpacked_of_zero negative zero]
    rcases Nat.eq_zero_or_pos pattern'.val with zero' | positive'
    · rw [unpacked_of_zero negative' zero']
      rfl
    · rw [unpacked_of_finite positive' finite']
      rfl
  · rcases Nat.eq_zero_or_pos pattern'.val with zero' | positive'
    · rw [zero', Format.steps_zero, Nat.mul_zero, ← ofFloat_pack_zero _ Format.double.unit_pos,
        ← signOf_mul, unpacked_of_zero negative' zero', unpacked_of_finite positive finite]
      rfl
    · exact ofFloat_pack_mul_of_pos positive finite positive' finite'

end

/-! ### Quotients -/

/-- A quotient and the accuracy of its rest tell the fraction. -/
theorem tells_quotient (numerator : Nat) {denominator : Nat} (positive : 0 < denominator) :
    Tells (.ofMantissaAndAccuracy (numerator / denominator)
      (accuracyOfFraction (numerator % denominator) denominator)) numerator denominator := by
  rw [accuracyOfFraction]
  split
  · rename_i whole
    refine ⟨rfl, ?_, ?_⟩ <;> simp [ExtendedMantissa.ofMantissaAndAccuracy, whole, positive.ne']
  · rename_i rest
    rcases order : compare (2 * (numerator % denominator)) denominator with _ | _ | _
    · have less := Nat.compare_eq_lt.mp order
      refine ⟨rfl, ?_, ?_⟩ <;> simp [ExtendedMantissa.ofMantissaAndAccuracy] <;> omega
    · have same := Nat.compare_eq_eq.mp order
      refine ⟨rfl, ?_, ?_⟩ <;> simp [ExtendedMantissa.ofMantissaAndAccuracy] <;> omega
    · have greater := Nat.compare_eq_gt.mp order
      refine ⟨rfl, ?_, ?_⟩ <;> simp [ExtendedMantissa.ofMantissaAndAccuracy] <;> omega

section

variable {negative negative' : Bool} {pattern pattern' : Fin (Format.double.infinity + 1)}

theorem ofFloat_pack_div_of_pos (positive : 0 < pattern.val)
    (finite : (signed negative pattern : Datum .double).isFinite = true)
    (positive' : 0 < pattern'.val)
    (finite' : (signed negative' pattern' : Datum .double).isFinite = true) :
    ofFloat (.ofModel (Float.Model.pack (UnpackedFloat.div .binary64
      (signed negative pattern).unpacked (signed negative' pattern').unpacked))) =
        ofSteps .double (negative ^^ negative')
          (Format.double.steps pattern.val * Format.double.unit)
          (Format.double.steps pattern'.val) := by
  have some_digits := Format.double.significand_pos positive
  have some_digits' := Format.double.significand_pos positive'
  rw [unpacked_of_finite positive finite, unpacked_of_finite positive' finite',
    Format.steps_eq, Format.steps_eq, UnpackedFloat.div]
  generalize Format.double.significand pattern.val = digits at some_digits ⊢
  generalize Format.double.significand pattern'.val = digits' at some_digits' ⊢
  generalize Format.double.doublings pattern.val = doublings
  generalize Format.double.doublings pattern'.val = doublings'
  -- The dividend is shifted until the quotient has all digits.
  generalize appended_eq : ((doublings : Int) - doublings' -
    max ((digits.log2 : Int) + doublings - digits'.log2 - doublings' - 53) (-1074)).toNat = appended
  have core : divCore .binary64 digits ((doublings : Int) - 1074) digits'
      ((doublings' : Int) - 1074) =
        (digits * 2 ^ appended / digits',
          ((doublings + 1074 : Nat) : Int) - ((doublings' + appended : Nat) : Int) - 1074,
          accuracyOfFraction (digits * 2 ^ appended % digits') digits') := by
    have least : min ((doublings : Int) - 1074 - ((doublings' : Int) - 1074))
        (max ((digits.log2 : Int) + 1 + ((doublings : Int) - 1074) -
          ((digits'.log2 : Int) + 1 + ((doublings' : Int) - 1074)) - 53) (-1074)) =
            (doublings : Int) - doublings' - appended := by
      omega
    have count : ((doublings : Int) - 1074 - ((doublings' : Int) - 1074) -
        ((doublings : Int) - doublings' - appended)).toNat = appended := by
      omega
    have exponent : (doublings : Int) - doublings' - appended =
        ((doublings + 1074 : Nat) : Int) - ((doublings' + appended : Nat) : Int) - 1074 := by
      omega
    rw [divCore, targetExponent_binary64, totalExponent, totalExponent, least, count,
      Nat.shiftLeft_eq, exponent]
  have enough : doublings + 1074 <= doublings' + appended ∨
      2 ^ 52 <= digits * 2 ^ appended / digits' := by
    rcases Nat.lt_or_ge (doublings' + appended) (doublings + 1074) with fewer | all
    · refine .inr ((Nat.le_div_iff_mul_le some_digits').mpr ?_)
      have leading : 52 + (digits'.log2 + 1) <= digits.log2 + appended := by omega
      calc
        2 ^ 52 * digits' <= 2 ^ 52 * 2 ^ (digits'.log2 + 1) :=
          Nat.mul_le_mul_left _ (Nat.le_of_lt Nat.lt_log2_self)
        _ <= 2 ^ digits.log2 * 2 ^ appended := by
          rw [← Nat.pow_add, ← Nat.pow_add]
          exact Nat.pow_le_pow_right (by decide) leading
        _ <= digits * 2 ^ appended :=
          Nat.mul_le_mul_right _ (Nat.log2_self_le (Nat.ne_of_gt some_digits))
    · exact .inl all
  rw [core, signOf_div]
  refine ofFloat_pack ?_
  dsimp only
  have steps_eq : digits * 2 ^ appended * 2 ^ (doublings + 1074) =
      2 ^ appended * (digits * 2 ^ doublings * Format.double.unit) := by
    have doubled : 2 ^ (doublings + 1074) = 2 ^ doublings * Format.double.unit := by
      rw [unit_double_eq, ← Nat.pow_add]
    rw [doubled]
    ring
  have steps_eq' : digits' * 2 ^ (doublings' + appended) =
      2 ^ appended * (digits' * 2 ^ doublings') := by
    rw [Nat.pow_add]
    ring
  rw [toNat_pack_roundWithAccuracy_of_tells _ (tells_quotient _ some_digits') some_digits' enough,
    steps_eq, steps_eq', Format.nearest_mul_left (Nat.two_pow_pos appended)]

/-- The quotient of two finite doubles is the nearest one to their exact quotient. -/
theorem ofFloat_pack_div
    (finite : (signed negative pattern : Datum .double).isFinite = true)
    (positive' : 0 < pattern'.val)
    (finite' : (signed negative' pattern' : Datum .double).isFinite = true) :
    ofFloat (.ofModel (Float.Model.pack (UnpackedFloat.div .binary64
      (signed negative pattern).unpacked (signed negative' pattern').unpacked))) =
        ofSteps .double (negative ^^ negative')
          (Format.double.steps pattern.val * Format.double.unit)
          (Format.double.steps pattern'.val) := by
  rcases Nat.eq_zero_or_pos pattern.val with zero | positive
  · have some_steps : 0 < Format.double.steps pattern'.val := by
      have above := Format.double.steps_strictMono positive'
      rwa [Format.steps_zero] at above
    rw [zero, Format.steps_zero, Nat.zero_mul, ← ofFloat_pack_zero _ some_steps, ← signOf_div,
      unpacked_of_zero negative zero, unpacked_of_finite positive' finite']
    rfl
  · exact ofFloat_pack_div_of_pos positive finite positive' finite'

end

end Datum

theorem mul_eq (x y : Float) :
    x * y = .ofModel (Float.Model.pack
      (UnpackedFloat.mul .binary64 x.toModel.unpack y.toModel.unpack)) := rfl

theorem div_eq (x y : Float) :
    x / y = .ofModel (Float.Model.pack
      (UnpackedFloat.div .binary64 x.toModel.unpack y.toModel.unpack)) := rfl

/-- A product is at the place nearest to the exact one. -/
theorem place?_mul {x y : Float} (finite : x.isFinite = true) (finite' : y.isFinite = true) :
    (Datum.ofFloat (x * y)).place? =
      some (nearestPlace (stepsOf x * stepsOf y) Format.double.unit) := by
  rw [isFinite_eq] at finite finite'
  rw [mul_eq, unpack_eq_unpacked, unpack_eq_unpacked, stepsOf, stepsOf]
  generalize Datum.ofFloat x = first at finite ⊢
  generalize Datum.ofFloat y = second at finite' ⊢
  cases first with
  | nan => cases finite
  | signed negative pattern =>
  cases second with
  | nan => cases finite'
  | signed negative' pattern' =>
  rw [Datum.ofFloat_pack_mul finite finite', place?_ofSteps _ _ Format.double.unit_pos]
  cases negative <;> cases negative' <;> simp [Datum.signedSteps]

/-- A quotient by something positive is at the place nearest to the exact one. -/
theorem place?_div {x y : Float} (finite : x.isFinite = true) (finite' : y.isFinite = true)
    (positive : 0 < stepsOf y) :
    (Datum.ofFloat (x / y)).place? =
      some (nearestPlace (stepsOf x * Format.double.unit) (stepsOf y).toNat) := by
  rw [isFinite_eq] at finite finite'
  rw [stepsOf] at positive
  rw [div_eq, unpack_eq_unpacked, unpack_eq_unpacked, stepsOf, stepsOf]
  generalize Datum.ofFloat x = first at finite ⊢
  generalize Datum.ofFloat y = second at finite' positive ⊢
  cases first with
  | nan => cases finite
  | signed negative pattern =>
  cases second with
  | nan => cases finite'
  | signed negative' pattern' =>
  cases negative' with
  | true => exact absurd positive (by simp [Datum.signedSteps])
  | false =>
    have some_steps : 0 < Format.double.steps pattern'.val := Int.natCast_pos.mp positive
    have positive' : 0 < pattern'.val := by
      rw [← Format.steps_zero .double] at some_steps
      exact Format.steps_lt_steps_iff.mp some_steps
    rw [Datum.ofFloat_pack_div finite positive' finite', place?_ofSteps _ _ some_steps]
    generalize Format.double.unit = unit
    cases negative <;> simp [Datum.signedSteps]

/-! ## Finite results -/

theorem isFinite_pack_of_not {result : UnpackedFloat} (special : result.isFinite = false) :
    (Float.ofModel (Float.Model.pack result)).isFinite = false := by
  cases result with
  | infinity sign => cases sign <;> decide +kernel
  | notANumber => decide +kernel
  | zero | finite => cases special

section

variable {x y : Float}

theorem isFinite_of_add (finite : (x + y).isFinite = true) :
    x.isFinite = true ∧ y.isFinite = true := by
  by_contra infinite
  change ¬ (x.toModel.unpack.isFinite = true ∧ y.toModel.unpack.isFinite = true) at infinite
  rw [add_eq, isFinite_pack_of_not] at finite
  · cases finite
  · generalize x.toModel.unpack = u at infinite ⊢
    generalize y.toModel.unpack = v at infinite ⊢
    rcases u with ⟨_ | _⟩ | _ | _ | _ <;> rcases v with ⟨_ | _⟩ | _ | _ | _ <;>
      first
      | rfl
      | exact absurd ⟨rfl, rfl⟩ infinite

theorem isFinite_of_mul (finite : (x * y).isFinite = true) :
    x.isFinite = true ∧ y.isFinite = true := by
  by_contra infinite
  change ¬ (x.toModel.unpack.isFinite = true ∧ y.toModel.unpack.isFinite = true) at infinite
  rw [mul_eq, isFinite_pack_of_not] at finite
  · cases finite
  · generalize x.toModel.unpack = u at infinite ⊢
    generalize y.toModel.unpack = v at infinite ⊢
    rcases u with _ | _ | _ | _ <;> rcases v with _ | _ | _ | _ <;>
      first
      | rfl
      | exact absurd ⟨rfl, rfl⟩ infinite

theorem isFinite_of_div (finite : (x / y).isFinite = true) : x.isFinite = true := by
  by_contra infinite
  change ¬ x.toModel.unpack.isFinite = true at infinite
  rw [div_eq, isFinite_pack_of_not] at finite
  · cases finite
  · generalize x.toModel.unpack = u at infinite ⊢
    rcases u with _ | _ | _ | _ <;> rcases y.toModel.unpack with _ | _ | _ | _ <;>
      first
      | rfl
      | exact absurd rfl infinite

/-- A finite number divided by an infinite one is zero. -/
theorem div_beq_zero_of_infinite (finite : x.isFinite = true) (positive : 0 < y)
    (infinite : ¬ y.isFinite = true) : (x / y == 0) = true := by
  refine pack_zero_beq_zero ?_
  rw [lt_iff_unpack] at positive
  change x.toModel.unpack.isFinite = true at finite
  change ¬ y.toModel.unpack.isFinite = true at infinite
  generalize x.toModel.unpack = u at finite ⊢
  generalize y.toModel.unpack = v at positive infinite ⊢
  rcases u with _ | _ | _ | _ <;> rcases v with _ | _ | _ | _ <;>
    first
    | exact ⟨_, rfl⟩
    | exact absurd rfl infinite
    | exact absurd positive Bool.false_ne_true
    | cases finite

end

end Number
end ParticleEffects
