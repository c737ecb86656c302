import Mathlib
import ParticleEffects.Number.Datum
import ParticleEffects.Proofs.NumberOrder

namespace ParticleEffects
namespace Number

/-!
The order of floating-point numbers, read off their patterns.

A double is compared through its exponent and its mantissa, which are digits of its
bits.  Since patterns count magnitudes in order, that comparison is the comparison of
patterns with their signs.  What is not a number has no place among them, and the two
zeros share one.
-/

open Float.Model

/-! ## Fields -/

namespace Format

section

variable (format : Format)

/-- The digits of a magnitude, as a whole number of steps of its own size. -/
def significand (pattern : Nat) : Nat :=
  if pattern < format.span then pattern else format.span + pattern % format.span

/-- How often the least step is doubled to give the step of a magnitude's own size. -/
def doublings (pattern : Nat) : Nat := pattern / format.span - 1

theorem steps_eq (pattern : Nat) :
    format.steps pattern = format.significand pattern * 2 ^ format.doublings pattern := by
  rw [steps, significand, doublings]
  split
  · rename_i small
    rw [Nat.div_eq_of_lt small, Nat.zero_sub, Nat.pow_zero, Nat.mul_one]
  · rfl

theorem significand_pos {pattern : Nat} (positive : 0 < pattern) :
    0 < format.significand pattern := by
  have := format.span_pos
  unfold significand
  split <;> omega

end

theorem span_double : double.span = 2 ^ 52 := rfl

theorem half_double : double.half = 2 ^ 63 := rfl

theorem infinity_double : double.infinity = 2047 * 2 ^ 52 := rfl

/-- Magnitudes are ordered by the step of their size, then by their digits. -/
theorem lt_iff_doublings {first second : Nat} :
    first < second ↔
      double.doublings first < double.doublings second ∨
        double.doublings first = double.doublings second ∧
          double.significand first < double.significand second := by
  simp only [doublings, significand, span_double]
  by_cases small : first < 2 ^ 52 <;> by_cases small' : second < 2 ^ 52 <;>
    simp only [small, small', if_true, if_false] <;> omega

end Format

theorem Datum.ofBits_of_le {format : Format} {bits : Nat}
    (number : bits % format.half <= format.infinity) :
    ofBits format bits = .signed (decide (format.half <= bits))
      ⟨bits % format.half, Nat.lt_succ_of_le number⟩ :=
  dif_pos number

theorem Datum.ofBits_of_lt {format : Format} {bits : Nat}
    (beyond : format.infinity < bits % format.half) : ofBits format bits = .nan :=
  dif_neg (Nat.not_le.mpr beyond)

def signOf (negative : Bool) : UnpackedFloat.Sign := if negative then .negative else .positive

/-- A magnitude with a sign, as it is computed with. -/
def unpackedMagnitude (sign : UnpackedFloat.Sign) (pattern : Nat) : UnpackedFloat :=
  if pattern = Format.double.infinity then .infinity sign
  else if positive : 0 < pattern then
    .finite sign (Format.double.significand pattern)
      (Format.double.doublings pattern - 1074) (Format.double.significand_pos positive)
  else .zero sign

theorem unpackedMagnitude_infinity (sign : UnpackedFloat.Sign) :
    unpackedMagnitude sign Format.double.infinity = .infinity sign := if_pos rfl

theorem unpackedMagnitude_zero (sign : UnpackedFloat.Sign) :
    unpackedMagnitude sign 0 = .zero sign := rfl

theorem unpackedMagnitude_finite (sign : UnpackedFloat.Sign) {pattern : Nat}
    (positive : 0 < pattern) (finite : pattern < Format.double.infinity) :
    unpackedMagnitude sign pattern = .finite sign (Format.double.significand pattern)
      (Format.double.doublings pattern - 1074) (Format.double.significand_pos positive) := by
  rw [unpackedMagnitude, if_neg (Nat.ne_of_lt finite), dif_pos positive]

/-- A double, as it is computed with. -/
def Datum.unpacked : Datum .double -> UnpackedFloat
  | .nan => .notANumber
  | .signed negative pattern => unpackedMagnitude (signOf negative) pattern.val

/-! ## Digits of the bits -/

theorem toNat_unpackSign (bits : BitVec 64) :
    (@UnpackedFloat.unpackSign .binary64 bits).toNat = bits.toNat / 2 ^ 63 % 2 := by
  simp [UnpackedFloat.unpackSign, Nat.shiftRight_eq_div_pow]

theorem toNat_unpackExponent (bits : BitVec 64) :
    (@UnpackedFloat.unpackExponent .binary64 bits).toNat =
      bits.toNat / 2 ^ 52 % 2 ^ 11 := by
  simp [UnpackedFloat.unpackExponent, Nat.shiftRight_eq_div_pow]

theorem toNat_unpackMantissa (bits : BitVec 64) :
    (@UnpackedFloat.unpackMantissa .binary64 bits).toNat = bits.toNat % 2 ^ 52 := by
  simp [UnpackedFloat.unpackMantissa, Nat.shiftRight_eq_div_pow]

theorem toNat_leadingOne (bits : BitVec 64) :
    (1#1 ++ @UnpackedFloat.unpackMantissa .binary64 bits).toNat =
      2 ^ 52 + bits.toNat % 2 ^ 52 := by
  rw [BitVec.toNat_append, toNat_unpackMantissa,
    ← Nat.shiftLeft_add_eq_or_of_lt (Nat.mod_lt _ (by decide))]
  rfl

theorem ofBitVec_unpackSign (x : Float) :
    UnpackedFloat.Sign.ofBitVec
      (@UnpackedFloat.unpackSign .binary64 x.toModel.toBits.toBitVec) =
        signOf (decide (Format.double.half <= x.toBits.toNat)) := by
  have bounded : x.toBits.toNat < 2 ^ 64 := x.toBits.toNat_lt
  have digit : x.toBits.toNat / 2 ^ 63 % 2 = 0 ↔ ¬ Format.double.half <= x.toBits.toNat := by
    rw [Format.half_double]
    omega
  have zero : @UnpackedFloat.unpackSign .binary64 x.toModel.toBits.toBitVec = 0#1 ↔
      ¬ Format.double.half <= x.toBits.toNat := by
    rw [← digit, ← BitVec.toNat_inj, toNat_unpackSign]
    rfl
  rw [UnpackedFloat.Sign.ofBitVec, signOf]
  by_cases negative : Format.double.half <= x.toBits.toNat
  · rw [if_neg fun isZero => zero.mp isZero negative, if_pos (decide_eq_true negative)]
  · rw [if_pos (zero.mpr negative), if_neg (by simpa using negative)]

private theorem finite_congr {sign : UnpackedFloat.Sign} {mantissa mantissa' : Nat}
    {exponent exponent' : Int} (positive : 0 < mantissa) (positive' : 0 < mantissa')
    (mantissas : mantissa = mantissa') (exponents : exponent = exponent') :
    UnpackedFloat.finite sign mantissa exponent positive =
      .finite sign mantissa' exponent' positive' := by
  subst mantissas exponents
  rfl

/-- A double is computed with as its datum tells. -/
theorem unpack_eq_unpacked (x : Float) : x.toModel.unpack = (Datum.ofFloat x).unpacked := by
  have bounded : x.toBits.toNat < 2 ^ 64 := x.toBits.toNat_lt
  have exponent : (@UnpackedFloat.unpackExponent .binary64
      x.toModel.toBits.toBitVec).toNat = x.toBits.toNat / 2 ^ 52 % 2 ^ 11 :=
    toNat_unpackExponent _
  have mantissa : (@UnpackedFloat.unpackMantissa .binary64
      x.toModel.toBits.toBitVec).toNat = x.toBits.toNat % 2 ^ 52 := toNat_unpackMantissa _
  have leading : (1#1 ++ @UnpackedFloat.unpackMantissa .binary64
      x.toModel.toBits.toBitVec).toNat = 2 ^ 52 + x.toBits.toNat % 2 ^ 52 := toNat_leadingOne _
  have allOnes : @UnpackedFloat.unpackExponent .binary64 x.toModel.toBits.toBitVec =
      -1#_ ↔ x.toBits.toNat / 2 ^ 52 % 2 ^ 11 = 2047 := by
    rw [← BitVec.toNat_inj, exponent]
    rfl
  have noExponent : @UnpackedFloat.unpackExponent .binary64 x.toModel.toBits.toBitVec =
      0#_ ↔ x.toBits.toNat / 2 ^ 52 % 2 ^ 11 = 0 := by
    rw [← BitVec.toNat_inj, exponent]
    rfl
  have noMantissa : @UnpackedFloat.unpackMantissa .binary64 x.toModel.toBits.toBitVec =
      0#_ ↔ x.toBits.toNat % 2 ^ 52 = 0 := by
    rw [← BitVec.toNat_inj, mantissa]
    rfl
  have bias : ((Format.exponentBias .binary64 : Nat) : Int) + (52 : Nat) = 1075 := rfl
  have low : x.toBits.toNat % Format.double.half = x.toBits.toNat % 2 ^ 63 := rfl
  simp only [Float.Model.unpack, UnpackedFloat.unpack, ofBitVec_unpackSign, allOnes, noExponent,
    noMantissa]
  rw [Datum.ofFloat]
  by_cases special : x.toBits.toNat / 2 ^ 52 % 2 ^ 11 = 2047
  · rw [if_pos special]
    split
    · have infinite : x.toBits.toNat % Format.double.half = Format.double.infinity := by
        rw [low, Format.infinity_double]
        omega
      rw [Datum.ofBits_of_le (Nat.le_of_eq infinite)]
      exact (congrArg (unpackedMagnitude _) infinite ▸ unpackedMagnitude_infinity _).symm
    · rw [Datum.ofBits_of_lt (by rw [low, Format.infinity_double]; omega)]
      rfl
  · have finite : x.toBits.toNat % 2 ^ 63 < Format.double.infinity := by
      rw [Format.infinity_double]
      omega
    rw [if_neg special, Datum.ofBits_of_le (Nat.le_of_lt finite)]
    show _ = unpackedMagnitude _ (x.toBits.toNat % 2 ^ 63)
    by_cases small : x.toBits.toNat / 2 ^ 52 % 2 ^ 11 = 0
    · rw [if_pos small]
      split
      · rw [show x.toBits.toNat % 2 ^ 63 = 0 by omega, unpackedMagnitude_zero]
      · rw [unpackedMagnitude_finite _ (by omega) finite]
        apply finite_congr
        · rw [mantissa, Format.significand, Format.span_double, if_pos (by omega)]
          omega
        · rw [exponent, Format.doublings, Format.span_double, bias]
          omega
    · rw [if_neg small, unpackedMagnitude_finite _ (by omega) finite]
      apply finite_congr
      · rw [leading, Format.significand, Format.span_double, if_neg (by omega)]
        omega
      · rw [exponent, Format.doublings, Format.span_double, bias]
        omega

/-! ## Places -/

/-- The place of a datum in the order: the pattern of its magnitude, with its sign. -/
def Datum.place? {format : Format} : Datum format -> Option Int
  | .nan => none
  | .signed negative pattern => some (if negative then -(pattern.val : Int) else pattern.val)

theorem Datum.natAbs_place_le {format : Format} {datum : Datum format} {place : Int}
    (found : datum.place? = some place) : place.natAbs <= format.infinity := by
  cases datum with
  | nan => cases found
  | signed negative pattern =>
    have bounded := Nat.le_of_lt_succ pattern.isLt
    cases found
    cases negative <;> simp <;> omega

namespace Rank

/-- The rank of a magnitude. -/
def ofPattern (pattern : Nat) : Rank :=
  if pattern = 0 then { tier := 0, exponent := 0, mantissa := 0 }
  else if pattern = Format.double.infinity then { tier := 2, exponent := 0, mantissa := 0 }
  else {
    tier := 1
    exponent := Format.double.doublings pattern - 1074
    mantissa := Format.double.significand pattern }

def neg (rank : Rank) : Rank :=
  { tier := -rank.tier, exponent := -rank.exponent, mantissa := -rank.mantissa }

/-- The rank of what is at a place. -/
def ofPlace (place : Int) : Rank :=
  if place < 0 then (ofPattern place.natAbs).neg else ofPattern place.natAbs

theorem tier_pos {pattern : Nat} (positive : 0 < pattern) : 0 < (ofPattern pattern).tier := by
  rw [ofPattern, if_neg (Nat.ne_of_gt positive)]
  split <;> simp

theorem tier_nonneg (pattern : Nat) : 0 <= (ofPattern pattern).tier := by
  rcases Nat.eq_zero_or_pos pattern with rfl | positive
  · exact Int.le_refl _
  · exact Int.le_of_lt (tier_pos positive)

/-- Greater magnitudes have greater ranks. -/
theorem not_atMost_ofPattern {pattern pattern' : Nat} (less : pattern < pattern')
    (bounded : pattern' <= Format.double.infinity) :
    ¬ (ofPattern pattern').AtMost (ofPattern pattern) := by
  have order := Format.lt_iff_doublings.mp less
  rw [ofPattern, ofPattern, if_neg (show pattern' ≠ 0 by omega),
    if_neg (show pattern ≠ Format.double.infinity by omega), AtMost]
  by_cases zero : pattern = 0
  · rw [if_pos zero]
    split <;> simp
  · rw [if_neg zero]
    split
    · simp
    · simp
      omega

theorem not_atMost_ofPlace {place place' : Int} (less : place < place')
    (bounded : place.natAbs <= Format.double.infinity)
    (bounded' : place'.natAbs <= Format.double.infinity) :
    ¬ (ofPlace place').AtMost (ofPlace place) := by
  rw [ofPlace, ofPlace]
  by_cases below : place < 0
  · rw [if_pos below]
    by_cases below' : place' < 0
    · rw [if_pos below']
      have reversed := not_atMost_ofPattern (show place'.natAbs < place.natAbs by omega) bounded
      simp only [AtMost, neg] at reversed ⊢
      omega
    · rw [if_neg below']
      have positive := tier_pos (show 0 < place.natAbs by omega)
      have nonnegative := tier_nonneg place'.natAbs
      simp only [AtMost, neg]
      omega
  · rw [if_neg below, if_neg (by omega)]
    exact not_atMost_ofPattern (by omega) bounded'

theorem atMost_ofPlace_iff {place place' : Int}
    (bounded : place.natAbs <= Format.double.infinity)
    (bounded' : place'.natAbs <= Format.double.infinity) :
    (ofPlace place).AtMost (ofPlace place') ↔ place <= place' := by
  constructor
  · intro atMost
    exact Int.not_lt.mp fun greater => not_atMost_ofPlace greater bounded' bounded atMost
  · intro less
    rcases Int.lt_or_eq_of_le less with strict | rfl
    · exact (AtMost.total _ _).resolve_right (not_atMost_ofPlace strict bounded bounded')
    · exact (AtMost.total _ _).elim id id

theorem of?_unpacked (datum : Datum .double) : of? datum.unpacked = datum.place?.map ofPlace := by
  cases datum with
  | nan => rfl
  | signed negative pattern =>
    have bounded := Nat.le_of_lt_succ pattern.isLt
    rw [Datum.place?, Option.map_some, Datum.unpacked]
    rcases Nat.eq_zero_or_pos pattern.val with zero | positive
    · rw [zero]
      cases negative <;> rfl
    · have place : ofPlace (if negative then -(pattern.val : Int) else pattern.val) =
          if negative then (ofPattern pattern).neg else ofPattern pattern := by
        cases negative
        · simp only [ofPlace, Bool.false_eq_true, if_false, Int.natAbs_natCast]
          exact if_neg (by omega)
        · simp [ofPlace, positive]
      rw [place, ofPattern, if_neg (Nat.ne_of_gt positive)]
      by_cases infinite : pattern.val = Format.double.infinity
      · rw [if_pos infinite, infinite, unpackedMagnitude_infinity]
        cases negative <;> rfl
      · rw [if_neg infinite, unpackedMagnitude_finite _ positive (by omega)]
        cases negative <;> rfl

end Rank

/-- Numbers are ordered as their places are. -/
theorem le_iff_place (x y : Float) :
    x <= y ↔ Exists fun place => Exists fun place' =>
      (Datum.ofFloat x).place? = some place ∧ (Datum.ofFloat y).place? = some place' ∧
        place <= place' := by
  rw [le_iff, unpack_eq_unpacked, unpack_eq_unpacked, Rank.of?_unpacked, Rank.of?_unpacked]
  constructor
  · rintro ⟨first, second, foundFirst, foundSecond, atMost⟩
    rcases Option.map_eq_some_iff.mp foundFirst with ⟨place, found, rfl⟩
    rcases Option.map_eq_some_iff.mp foundSecond with ⟨place', found', rfl⟩
    exact ⟨place, place', found, found', (Rank.atMost_ofPlace_iff (Datum.natAbs_place_le found)
      (Datum.natAbs_place_le found')).mp atMost⟩
  · rintro ⟨place, place', found, found', less⟩
    exact ⟨_, _, Option.map_eq_some_iff.mpr ⟨place, found, rfl⟩,
      Option.map_eq_some_iff.mpr ⟨place', found', rfl⟩,
      (Rank.atMost_ofPlace_iff (Datum.natAbs_place_le found) (Datum.natAbs_place_le found')).mpr
        less⟩

theorem lt_iff_place (x y : Float) :
    x < y ↔ Exists fun place => Exists fun place' =>
      (Datum.ofFloat x).place? = some place ∧ (Datum.ofFloat y).place? = some place' ∧
        place < place' := by
  rw [lt_iff, le_iff_place, le_iff_place]
  constructor
  · rintro ⟨⟨place, place', found, found', less⟩, greater⟩
    refine ⟨place, place', found, found', Int.not_le.mp fun atMost => ?_⟩
    exact greater ⟨place', place, found', found, atMost⟩
  · rintro ⟨place, place', found, found', less⟩
    refine ⟨⟨place, place', found, found', Int.le_of_lt less⟩, ?_⟩
    rintro ⟨_, _, again', again, atMost⟩
    cases found.symm.trans again
    cases found'.symm.trans again'
    exact Int.not_lt.mpr atMost less

/-- Numbers are equal if their places are the same. -/
theorem beq_iff_place (x y : Float) :
    (x == y) = true ↔ Exists fun place =>
      (Datum.ofFloat x).place? = some place ∧ (Datum.ofFloat y).place? = some place := by
  rw [beq_iff, le_iff_place, le_iff_place]
  constructor
  · rintro ⟨⟨place, place', found, found', less⟩, ⟨_, _, again', again, greater⟩⟩
    cases found.symm.trans again
    cases found'.symm.trans again'
    cases Int.le_antisymm less greater
    exact ⟨place, found, found'⟩
  · rintro ⟨place, found, found'⟩
    exact ⟨⟨place, place, found, found', Int.le_refl _⟩,
      ⟨place, place, found', found, Int.le_refl _⟩⟩

end Number
end ParticleEffects
