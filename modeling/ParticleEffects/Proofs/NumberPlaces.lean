import ParticleEffects.Proofs.NumberOperations

namespace ParticleEffects
namespace Number

/-!
Arithmetic of doubles up to the sign of zero.

The place of a double in the order tells everything about it but the sign of a zero.  The place
of a sum, a difference or a product is told by the places of the operands, whatever these are:
an infinite operand decides the result or leaves no number.  Rounding is symmetric, so that all
these operations respect negation.
-/

open Float.Model UnpackedFloat

/-! ## Places -/

/-- What a double is up to the sign of zero. -/
inductive Place where
  | nan
  | number (position : Int)
  deriving DecidableEq

/-- Whether what is at a position is finite. -/
def isBounded (position : Int) : Bool := position.natAbs < Format.double.infinity

def Datum.place : Datum .double -> Place
  | .nan => .nan
  | .signed negative pattern => .number (if negative then -(pattern.val : Int) else pattern.val)

/-- The place of a double; both zeros are at one place. -/
def placeOf (x : Float) : Place := (Datum.ofFloat x).place

namespace Place

instance : Neg Place where
  neg
    | .nan => .nan
    | .number position => .number (-position)

/-- An infinite summand decides the sum, unless the other one is its opposite. -/
instance : Add Place where
  add
    | .number position, .number position' =>
      if isBounded position && isBounded position' then
        .number (nearestPlace (placeSteps position + placeSteps position') 1)
      else if isBounded position then .number position'
      else if isBounded position' then .number position
      else if position = position' then .number position
      else .nan
    | _, _ => .nan

instance : Sub Place where
  sub place place' := place + -place'

/-- An infinite factor makes the product infinite, unless the other one is zero. -/
instance : Mul Place where
  mul
    | .number position, .number position' =>
      if isBounded position && isBounded position' then
        .number (nearestPlace (placeSteps position * placeSteps position') Format.double.unit)
      else if position = 0 || position' = 0 then .nan
      else .number (position.sign * position'.sign * Format.double.infinity)
    | _, _ => .nan

instance : OfNat Place 2 := ⟨placeOf 2⟩

end Place

/-! ## Kinds of data -/

namespace Datum

/-- The datum with the other sign. -/
def neg : Datum .double -> Datum .double
  | .nan => .nan
  | .signed negative pattern => .signed (!negative) pattern

theorem unpacked_neg (datum : Datum .double) : datum.neg.unpacked = datum.unpacked.neg := by
  cases datum with
  | nan => rfl
  | signed negative pattern =>
    rw [neg, unpacked, unpacked, ← neg_signOf]
    unfold unpackedMagnitude
    split
    · rfl
    · split <;> rfl

theorem place_neg (datum : Datum .double) : datum.neg.place = -datum.place := by
  cases datum with
  | nan => rfl
  | signed negative pattern =>
    cases negative
    · rfl
    · exact congrArg Place.number (Int.neg_neg _).symm

theorem place_eq_number_iff {datum : Datum .double} {position : Int} :
    datum.place = .number position ↔ datum.place? = some position := by
  cases datum with
  | nan => exact ⟨nofun, nofun⟩
  | signed negative pattern => rw [place, place?, Place.number.injEq, Option.some.injEq]

end Datum

/-! ## Negation -/

theorem ofFloat_neg (x : Float) : Datum.ofFloat (-x) = (Datum.ofFloat x).neg := by
  have packed : -x = .ofModel (Float.Model.pack x.toModel.unpack.neg) := rfl
  rw [packed, unpack_eq_unpacked, ← Datum.unpacked_neg, Datum.ofFloat_pack_unpacked]

theorem placeOf_neg (x : Float) : placeOf (-x) = -placeOf x := by
  rw [placeOf, ofFloat_neg, Datum.place_neg, placeOf]

/-- To subtract is to add the opposite. -/
theorem sub_eq_add_opposite (x y : Float) : x - y = x + -y := by
  rw [add_eq, sub_eq, unpack_eq_unpacked y, unpack_eq_unpacked (-y), ofFloat_neg]
  cases Datum.ofFloat y with
  | nan => cases x.toModel.unpack <;> rfl
  | signed negative pattern =>
    rw [Datum.neg, Datum.add_unpacked, Bool.not_not]

/-! ## Infinite operands -/

/-- The position of an infinite datum. -/
def infinitePosition (negative : Bool) : Int :=
  if negative then -(Format.double.infinity : Int) else Format.double.infinity

theorem not_isBounded_infinitePosition (negative : Bool) :
    isBounded (infinitePosition negative) = false := by
  cases negative <;> decide +kernel

namespace Place

theorem number_add (position position' : Int) : number position + number position' =
    if isBounded position && isBounded position' then
      number (nearestPlace (placeSteps position + placeSteps position') 1)
    else if isBounded position then number position'
    else if isBounded position' then number position
    else if position = position' then number position
    else nan := rfl

theorem number_mul (position position' : Int) : number position * number position' =
    if isBounded position && isBounded position' then
      number (nearestPlace (placeSteps position * placeSteps position') Format.double.unit)
    else if position = 0 || position' = 0 then nan
    else number (position.sign * position'.sign * Format.double.infinity) := rfl

theorem nan_add (place : Place) : nan + place = nan := by
  cases place <;> rfl

theorem add_nan (place : Place) : place + nan = nan := by
  cases place <;> rfl

theorem nan_mul (place : Place) : nan * place = nan := by
  cases place <;> rfl

theorem mul_nan (place : Place) : place * nan = nan := by
  cases place <;> rfl

section

variable (negative : Bool) {position : Int} (bounded : isBounded position = true)
include bounded

theorem infinite_add :
    number (infinitePosition negative) + number position = number (infinitePosition negative) := by
  rw [number_add, not_isBounded_infinitePosition, bounded]
  rfl

theorem add_infinite :
    number position + number (infinitePosition negative) = number (infinitePosition negative) := by
  rw [number_add, not_isBounded_infinitePosition, bounded]
  rfl

end

end Place

/-- A double is no number, infinite or finite. -/
theorem unpacked_cases (x : Float) :
    (x.toModel.unpack = .notANumber ∧ placeOf x = .nan) ∨
    (Exists fun negative => x.toModel.unpack = .infinity (signOf negative) ∧
      placeOf x = .number (infinitePosition negative)) ∨
    x.isFinite = true ∧ Exists fun position =>
      placeOf x = .number position ∧ isBounded position = true := by
  rw [unpack_eq_unpacked, placeOf, isFinite_eq]
  cases Datum.ofFloat x with
  | nan => exact .inl ⟨rfl, rfl⟩
  | signed negative pattern =>
    rcases Nat.lt_or_eq_of_le (Nat.le_of_lt_succ pattern.isLt) with less | last
    · have finite : (Datum.signed negative pattern).isFinite = true := decide_eq_true less
      have bounded := decide_eq_true ((Datum.isFinite_of_place rfl).mp finite)
      exact .inr (.inr ⟨finite, _, rfl, bounded⟩)
    · refine .inr (.inl ⟨negative, ?_, ?_⟩)
      · rw [Datum.unpacked, last, unpackedMagnitude_infinity]
      · rw [Datum.place, last, infinitePosition]

theorem placeOf_pack_nan : placeOf (.ofModel (Float.Model.pack .notANumber)) = .nan := by
  decide +kernel

theorem placeOf_pack_infinity (negative : Bool) :
    placeOf (.ofModel (Float.Model.pack (.infinity (signOf negative)))) =
      .number (infinitePosition negative) := by
  cases negative <;> decide +kernel

section

variable {u v : UnpackedFloat}

theorem nan_add (v : UnpackedFloat) : UnpackedFloat.add .binary64 .notANumber v = .notANumber := by
  cases v <;> rfl

theorem add_nan (u : UnpackedFloat) : UnpackedFloat.add .binary64 u .notANumber = .notANumber := by
  cases u <;> rfl

theorem infinity_add (sign : UnpackedFloat.Sign) (finite : v.isFinite = true) :
    UnpackedFloat.add .binary64 (.infinity sign) v = .infinity sign := by
  cases v with
  | infinity | notANumber => cases finite
  | zero | finite => rfl

theorem add_infinity (sign : UnpackedFloat.Sign) (finite : u.isFinite = true) :
    UnpackedFloat.add .binary64 u (.infinity sign) = .infinity sign := by
  cases u with
  | infinity | notANumber => cases finite
  | zero | finite => rfl

theorem placeOf_pack_add_infinite (negative negative' : Bool) :
    placeOf (.ofModel (Float.Model.pack (UnpackedFloat.add .binary64
        (.infinity (signOf negative)) (.infinity (signOf negative'))))) =
      .number (infinitePosition negative) + .number (infinitePosition negative') := by
  cases negative <;> cases negative' <;> decide +kernel

end

theorem placeOf_of_place? {x : Float} {position : Int}
    (found : (Datum.ofFloat x).place? = some position) : placeOf x = .number position :=
  Datum.place_eq_number_iff.mpr found

/-- The place of a sum is the sum of the places. -/
theorem placeOf_add (x y : Float) : placeOf (x + y) = placeOf x + placeOf y := by
  rcases unpacked_cases x with ⟨unpacked, place⟩ | ⟨negative, unpacked, place⟩ |
    ⟨finite, position, place, bounded⟩
  · rw [add_eq, unpacked, nan_add, placeOf_pack_nan, place, Place.nan_add]
  · rcases unpacked_cases y with ⟨unpacked', place'⟩ | ⟨negative', unpacked', place'⟩ |
      ⟨finite', position', place', bounded'⟩
    · rw [add_eq, unpacked', add_nan, placeOf_pack_nan, place', Place.add_nan]
    · rw [add_eq, unpacked, unpacked', placeOf_pack_add_infinite, place, place']
    · rw [add_eq, unpacked, infinity_add _ finite', placeOf_pack_infinity, place, place',
        Place.infinite_add negative bounded']
  · rcases unpacked_cases y with ⟨unpacked', place'⟩ | ⟨negative', unpacked', place'⟩ |
      ⟨finite', position', place', bounded'⟩
    · rw [add_eq, unpacked', add_nan, placeOf_pack_nan, place', Place.add_nan]
    · rw [add_eq, unpacked', add_infinity _ finite, placeOf_pack_infinity, place, place',
        Place.add_infinite negative' bounded]
    · rw [placeOf_of_place? (place?_add finite finite'), place, place', Place.number_add, bounded,
        bounded', stepsOf_of_place (Datum.place_eq_number_iff.mp place),
        stepsOf_of_place (Datum.place_eq_number_iff.mp place')]
      rfl

/-- The place of a difference is the difference of the places. -/
theorem placeOf_sub (x y : Float) : placeOf (x - y) = placeOf x - placeOf y := by
  rw [sub_eq_add_opposite, placeOf_add, placeOf_neg]
  rfl

/-! ## Products -/

/-- A finite double is computed with as zero or with the sign of its position. -/
theorem unpack_of_place {x : Float} {position : Int} (place : placeOf x = .number position)
    (bounded : isBounded position = true) :
    (position = 0 ∧ Exists fun sign => x.toModel.unpack = .zero sign) ∨
      position ≠ 0 ∧ Exists fun mantissa => Exists fun exponent => Exists fun positive =>
        x.toModel.unpack = .finite (signOf (decide (position < 0))) mantissa exponent positive := by
  rw [placeOf] at place
  rw [unpack_eq_unpacked]
  cases datum : Datum.ofFloat x with
  | nan => rw [datum] at place; cases place
  | signed negative pattern =>
    rw [datum] at place
    cases place
    have finite : (Datum.signed negative pattern).isFinite = true :=
      (Datum.isFinite_of_place rfl).mpr (of_decide_eq_true bounded)
    rcases Nat.eq_zero_or_pos pattern.val with zero | positive
    · refine .inl ⟨by rw [zero, Int.natCast_zero, Int.neg_zero, ite_self], _,
        Datum.unpacked_of_zero negative zero⟩
    · have sign : decide ((if negative then -(pattern.val : Int) else pattern.val) < 0) =
          negative := by
        cases negative
        · exact decide_eq_false (by simp only [Bool.false_eq_true, if_false]; omega)
        · exact decide_eq_true (by simp only [if_true]; omega)
      refine .inr ⟨by split <;> omega, Format.double.significand pattern.val,
        Format.double.doublings pattern.val - 1074, Format.double.significand_pos positive, ?_⟩
      rw [Datum.unpacked_of_finite positive finite, sign]

theorem nan_mul (v : UnpackedFloat) : UnpackedFloat.mul .binary64 .notANumber v = .notANumber := by
  cases v <;> rfl

/-- An infinite factor makes the product infinite, or leaves no number next to zero. -/
theorem placeOf_mul_infinite {x : Float} {negative : Bool}
    (unpacked : x.toModel.unpack = .infinity (signOf negative))
    (place : placeOf x = .number (infinitePosition negative)) (y : Float) :
    placeOf (x * y) = placeOf x * placeOf y := by
  have unbounded := not_isBounded_infinitePosition negative
  have nonzero : ¬ infinitePosition negative = 0 := by cases negative <;> decide +kernel
  have sign : (infinitePosition negative).sign = if negative then -1 else 1 := by
    cases negative <;> decide +kernel
  rcases unpacked_cases y with ⟨unpacked', place'⟩ | ⟨negative', unpacked', place'⟩ |
    ⟨_, position, place', bounded⟩
  · rw [mul_eq, unpacked, unpacked', place', Place.mul_nan]
    exact placeOf_pack_nan
  · have product : UnpackedFloat.mul .binary64 (.infinity (signOf negative))
        (.infinity (signOf negative')) = .infinity (signOf (negative ^^ negative')) :=
      congrArg _ (Datum.signOf_mul negative negative')
    rw [mul_eq, unpacked, unpacked', product, placeOf_pack_infinity, place, place']
    cases negative <;> cases negative' <;> decide +kernel
  · rw [mul_eq, unpacked, place, place', Place.number_mul, unbounded, Bool.false_and,
      if_neg Bool.false_ne_true, sign]
    rcases unpack_of_place place' bounded with ⟨rfl, sign', unpacked'⟩ |
      ⟨position_ne, mantissa, exponent, positive, unpacked'⟩
    · have product : UnpackedFloat.mul .binary64 (.infinity (signOf negative)) (.zero sign') =
          .notANumber := rfl
      rw [unpacked', product, placeOf_pack_nan, decide_eq_true rfl, Bool.or_true, if_pos rfl]
    · have product : UnpackedFloat.mul .binary64 (.infinity (signOf negative))
          (.finite (signOf (decide (position < 0))) mantissa exponent positive) =
            .infinity (signOf (negative ^^ decide (position < 0))) :=
        congrArg _ (Datum.signOf_mul negative _)
      rw [unpacked', product, placeOf_pack_infinity, decide_eq_false nonzero,
        decide_eq_false position_ne, Bool.or_false, if_neg Bool.false_ne_true]
      rcases Int.lt_or_gt_of_ne position_ne with below | above
      · rw [Int.sign_eq_neg_one_of_neg below, decide_eq_true below]
        cases negative <;> simp [infinitePosition]
      · rw [Int.sign_eq_one_of_pos above, decide_eq_false (Int.lt_asymm above)]
        cases negative <;> simp [infinitePosition]

theorem mul_swap (x y : Float) : x * y = y * x := by
  have signs (sign sign' : UnpackedFloat.Sign) : sign * sign' = sign' * sign := by
    cases sign <;> cases sign' <;> rfl
  rw [mul_eq, mul_eq]
  generalize x.toModel.unpack = u
  generalize y.toModel.unpack = v
  cases u <;> cases v <;>
    simp only [UnpackedFloat.mul, signs, Nat.mul_comm, Int.add_comm]

theorem Place.mul_swap (place place' : Place) : place * place' = place' * place := by
  cases place with
  | nan => rw [nan_mul, mul_nan]
  | number position =>
    cases place' with
    | nan => rfl
    | number position' =>
      simp only [number_mul, Bool.and_comm, Int.mul_comm, Bool.or_comm]

/-- The place of a product is the product of the places. -/
theorem placeOf_mul (x y : Float) : placeOf (x * y) = placeOf x * placeOf y := by
  rcases unpacked_cases x with ⟨unpacked, place⟩ | ⟨negative, unpacked, place⟩ |
    ⟨finite, position, place, bounded⟩
  · rw [mul_eq, unpacked, nan_mul, placeOf_pack_nan, place, Place.nan_mul]
  · exact placeOf_mul_infinite unpacked place y
  · rcases unpacked_cases y with ⟨unpacked', place'⟩ | ⟨negative', unpacked', place'⟩ |
      ⟨finite', position', place', bounded'⟩
    · rw [mul_swap, mul_eq, unpacked', nan_mul, placeOf_pack_nan, place', Place.mul_nan]
    · rw [mul_swap, placeOf_mul_infinite unpacked' place', Place.mul_swap]
    · rw [placeOf_of_place? (place?_mul finite finite'), place, place', Place.number_mul, bounded,
        bounded', stepsOf_of_place (Datum.place_eq_number_iff.mp place),
        stepsOf_of_place (Datum.place_eq_number_iff.mp place')]
      rfl

/-! ## Symmetry -/

theorem isBounded_neg (position : Int) : isBounded (-position) = isBounded position := by
  rw [isBounded, isBounded, Int.natAbs_neg]

namespace Place

variable (place place' : Place)

theorem neg_number (position : Int) : -number position = number (-position) := rfl

theorem neg_opposite : - -place = place := by
  cases place with
  | nan => rfl
  | number position => rw [neg_number, neg_number, Int.neg_neg]

/-- The sum of opposites is the opposite of the sum. -/
theorem neg_add_neg : -place + -place' = -(place + place') := by
  cases place with
  | nan => rw [nan_add]; exact nan_add _
  | number position =>
    cases place' with
    | nan => rfl
    | number position' =>
      rw [neg_number, neg_number, number_add, number_add, isBounded_neg, isBounded_neg,
        placeSteps_neg, placeSteps_neg, ← Int.neg_add, nearestPlace_neg]
      simp only [Int.neg_inj]
      split
      · rfl
      · split
        · rfl
        · split
          · rfl
          · split <;> rfl

theorem neg_sub_neg : -place - -place' = -(place - place') := neg_add_neg place (-place')

/-- The product with an opposite is the opposite of the product. -/
theorem neg_mul : -place * place' = -(place * place') := by
  cases place with
  | nan => rw [nan_mul]; exact nan_mul _
  | number position =>
    cases place' with
    | nan => rfl
    | number position' =>
      rw [neg_number, number_mul, number_mul, isBounded_neg, placeSteps_neg, Int.neg_mul,
        nearestPlace_neg, Int.sign_neg, Int.neg_mul, Int.neg_mul]
      simp only [Int.neg_eq_zero]
      split
      · rfl
      · split <;> rfl

theorem mul_neg : place * -place' = -(place * place') := by
  rw [mul_swap, neg_mul, mul_swap]

/-! ## Zeros -/

section

variable {position : Int} (bounded : isBounded position = true)
include bounded

theorem zero_mul : number 0 * number position = number 0 := by
  have zero : isBounded 0 = true := by decide +kernel
  have steps : placeSteps 0 = 0 := rfl
  rw [number_mul, zero, bounded, steps, Int.zero_mul, nearestPlace_zero]
  rfl

theorem add_zero : number position + number 0 = number position := by
  have zero : isBounded 0 = true := by decide +kernel
  have steps : placeSteps 0 = 0 := rfl
  have same := nearestPlace_placeSteps (of_decide_eq_true bounded) Nat.one_pos
  rw [Int.natCast_one, Int.mul_one] at same
  rw [number_add, zero, bounded, steps, Int.add_zero, same]
  rfl

end

theorem zero_sub : number 0 - number 0 = number 0 := by decide +kernel

end Place

end Number
end ParticleEffects
