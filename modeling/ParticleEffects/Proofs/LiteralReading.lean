import ParticleEffects.Proofs.FixedLiteral
import ParticleEffects.Proofs.NumberBits

namespace ParticleEffects
namespace Number

/-!
Literals in fixed places, read back.

From sixteen on the singles are further apart than millionths, and the single nearest to
the literal of a number is the number itself.  Below sixteen the millionths are further
apart; the nearest single may be another number, but it has the same literal.
-/

/-- The datum of a format that is nearest to a decimal; of two equally near ones the even
one. -/
def Decimal.nearest (format : Format) (decimal : Decimal) : Datum format :=
  let (numerator, denominator) := powerFraction decimal.coefficient decimal.exponent
  .ofSteps format decimal.negative (numerator * format.unit) denominator

theorem powerFraction_neg (coefficient places : Nat) :
    powerFraction coefficient (-(places : Int)) = (coefficient, 10 ^ places) := by
  cases places with
  | zero => exact congrArg (·, 1) (Nat.mul_one coefficient)
  | succ places => rfl

/-- The zeros that are left out of a fraction do not change what it is rounded to. -/
theorem nearest_fixedSpelling (format : Format) (negative : Bool) {places : Nat}
    (some : 0 < places) (n : Nat) :
    (Wgsl.fixedSpelling negative places n).decimal.nearest format =
      .ofSteps format negative (n * format.unit) (10 ^ places) := by
  rcases Wgsl.exists_written_places negative some n with
    ⟨written, omitted, sum, exponent, coefficient⟩
  have numerators : n * format.unit = 10 ^ omitted *
      ((Wgsl.fixedSpelling negative places n).decimal.coefficient * format.unit) := by
    rw [← Nat.mul_assoc, Nat.mul_comm (10 ^ omitted), coefficient]
  have denominators : 10 ^ places = 10 ^ omitted * 10 ^ written := by
    rw [← Nat.pow_add, Nat.add_comm, sum]
  rw [Decimal.nearest, exponent, powerFraction_neg]
  refine congrArg (Datum.signed negative) (Fin.ext ?_)
  change format.nearest _ (10 ^ written) = format.nearest _ _
  rw [numerators, denominators, Format.nearest_mul_left (Nat.pow_pos (by decide))]

namespace Format

/-- Beyond sixteen the singles are at least `2 ^ 130` steps apart. -/
theorem le_doublings_of_large {pattern : Nat}
    (large : 16 * single.unit < single.steps (pattern + 1)) :
    130 <= single.doublings pattern := by
  by_contra few
  have most : 2 * single.span * 2 ^ single.doublings pattern <= 2 * single.span * 2 ^ 129 :=
    Nat.mul_le_mul_left _ (Nat.pow_le_pow_right (by decide) (by omega))
  have bound : 2 * single.span * 2 ^ 129 = 16 * single.unit := by decide +kernel
  have fits := single.steps_succ_le pattern
  omega

/-- Sixteen is a single. -/
theorem exists_steps_sixteen : Exists fun pattern =>
    pattern < single.infinity ∧ single.steps pattern = 16 * single.unit := by
  rcases single.exists_steps_eq 153 (show 1 <= 2 * single.span by decide) with ⟨pattern, same⟩
  have sixteen : single.steps pattern = 16 * single.unit := same.trans (by decide +kernel)
  have top : 16 * single.unit < single.steps single.infinity := by decide +kernel
  exact ⟨pattern, steps_lt_steps_iff.mp (sixteen.trans_lt top), sixteen⟩

end Format

/-! ## From sixteen on -/

/-- A magnitude from sixteen on is the nearest one to its millionths. -/
theorem nearest_millionths_of_large {pattern : Nat} (finite : pattern < Format.single.infinity)
    (large : 16 * Format.single.unit <= Format.single.steps pattern) :
    Format.single.nearest
      (roundDiv (Format.single.steps pattern * 10 ^ 6) Format.single.unit .up *
        Format.single.unit) (10 ^ 6) = pattern := by
  have unit_pos := Format.single.unit_pos
  rcases Nat.eq_or_lt_of_le large with exact | beyond
  · -- Sixteen itself has singles close below it, but it is a whole number of millionths.
    have same : Format.single.steps pattern * 10 ^ 6 = 16 * 10 ^ 6 * Format.single.unit := by
      rw [← exact]
      ring
    rw [same, roundDiv_mul_self _ unit_pos, ← same]
    exact Format.nearest_steps (by decide) finite
  · have most := two_mul_roundDiv_le (Format.single.steps pattern * 10 ^ 6) Format.single.unit .up
    have least := two_mul_lt_roundDiv_up (Format.single.steps pattern * 10 ^ 6) unit_pos
    have gap : Format.single.unit < 2 ^ 130 * 10 ^ 6 := by decide +kernel
    refine Format.nearest_eq_of_between (by decide) finite (fun before succ => ?_) ?_
    · subst succ
      have wide := Nat.pow_le_pow_right (show 0 < 2 by decide) (Format.le_doublings_of_large beyond)
      rw [Format.steps_succ] at most least ⊢
      omega
    · have next : 16 * Format.single.unit < Format.single.steps (pattern + 1) :=
        beyond.trans (Format.steps_lt_steps (Nat.lt_succ_self pattern))
      have wide := Nat.pow_le_pow_right (show 0 < 2 by decide) (Format.le_doublings_of_large next)
      rw [Format.steps_succ]
      omega

/-! ## Below sixteen -/

section

variable {n : Nat} (few : n <= 16 * 10 ^ 6)
include few

/-- What is at most sixteen is placed at most there. -/
theorem place_millionths_le : Exists fun pattern => pattern < Format.single.infinity ∧
    Format.single.steps pattern = 16 * Format.single.unit ∧
      Format.single.place (n * Format.single.unit) (10 ^ 6) <= pattern := by
  rcases Format.exists_steps_sixteen with ⟨pattern, finite, sixteen⟩
  refine ⟨pattern, finite, sixteen, Format.place_le (by decide) ?_⟩
  rw [sixteen, Nat.mul_right_comm]
  exact Nat.mul_le_mul_right _ few

theorem nearest_millionths : Format.single.nearest (n * Format.single.unit) (10 ^ 6) =
    Format.single.place (n * Format.single.unit) (10 ^ 6) := by
  rcases place_millionths_le few with ⟨pattern, finite, _, bounded⟩
  rw [Format.nearest_eq_min, Nat.min_eq_right (bounded.trans finite.le)]

theorem nearest_millionths_lt_infinity :
    Format.single.nearest (n * Format.single.unit) (10 ^ 6) < Format.single.infinity := by
  rcases place_millionths_le few with ⟨pattern, finite, _, bounded⟩
  rw [nearest_millionths few]
  exact bounded.trans_lt finite

theorem steps_nearest_millionths_le :
    Format.single.steps (Format.single.nearest (n * Format.single.unit) (10 ^ 6)) <=
      16 * Format.single.unit := by
  rcases place_millionths_le few with ⟨pattern, _, sixteen, bounded⟩
  rw [nearest_millionths few, ← sixteen]
  exact Format.steps_le_steps_iff.mpr bounded

/-- The nearest single to so many millionths has that many. -/
theorem roundDiv_nearest_millionths :
    roundDiv (Format.single.steps
      (Format.single.nearest (n * Format.single.unit) (10 ^ 6)) * 10 ^ 6)
        Format.single.unit .up = n := by
  have unit_pos := Format.single.unit_pos
  rcases Nat.eq_or_lt_of_le few with rfl | less
  · rcases Format.exists_steps_sixteen with ⟨pattern, finite, sixteen⟩
    have same : 16 * 10 ^ 6 * Format.single.unit = Format.single.steps pattern * 10 ^ 6 := by
      rw [sixteen]
      ring
    rw [same, Format.nearest_steps (by decide) finite, ← same, roundDiv_mul_self _ unit_pos]
  · have scale_le : Format.single.scale (n * Format.single.unit) (10 ^ 6) <= 129 := by
      refine Format.scale_le ?_
      rw [Nat.div_lt_iff_lt_mul (by decide)]
      have sixteen : 2 ^ (Format.single.fractionBits + 129 + 1) = 16 * Format.single.unit := by
        decide +kernel
      rw [sixteen, Nat.mul_right_comm]
      exact Nat.mul_lt_mul_of_pos_right less unit_pos
    have error := Format.steps_place_error Format.single (n * Format.single.unit)
      (show 0 < 10 ^ 6 by decide)
    have narrow := Nat.pow_le_pow_right (show 0 < 2 by decide) scale_le
    have gap : 10 ^ 6 * 2 ^ 129 < Format.single.unit := by decide +kernel
    rw [nearest_millionths few]
    exact roundDiv_up_eq unit_pos (by omega) (by omega)

/-- Only no millionths at all are rounded to zero. -/
theorem nearest_millionths_eq_zero_iff :
    Format.single.nearest (n * Format.single.unit) (10 ^ 6) = 0 ↔ n = 0 := by
  constructor
  · intro zero
    have back := roundDiv_nearest_millionths few
    have none : roundDiv (0 * Format.single.unit) Format.single.unit .up = 0 :=
      roundDiv_mul_self 0 Format.single.unit_pos
    rw [Nat.zero_mul] at none
    rw [zero, Format.steps_zero, Nat.zero_mul] at back
    exact back.symm.trans none
  · rintro rfl
    decide +kernel

end

end Number

namespace Wgsl

open Number

/-! ## Literals -/

/-- The single nearest to the literal of a number below the limit. -/
def readBack (x : Single) : Single :=
  (fixedSpelling x.isBelowZero literalPlaces (roundedPlaces x)).decimal.nearest .single

theorem readBack_eq (x : Single) : readBack x =
    .ofSteps .single x.isBelowZero (roundedPlaces x * Format.single.unit) (10 ^ 6) :=
  nearest_fixedSpelling .single _ (by decide) _

theorem readBack_of_large {x : Single} (finite : x.isFinite = true)
    (large : 16 * Format.single.unit <= x.steps) : readBack x = x := by
  cases x with
  | nan => cases finite
  | signed negative pattern =>
    have below_infinity : pattern.val < Format.single.infinity := of_decide_eq_true finite
    have some : pattern.val ≠ 0 := by
      intro zero
      rw [Datum.steps, zero, Format.steps_zero] at large
      exact absurd large (by decide +kernel)
    have sign : (Datum.signed negative pattern).isBelowZero = negative := by
      rw [Datum.isBelowZero, bne_iff_ne.mpr some, Bool.and_true]
    rw [readBack_eq, sign, Datum.ofSteps]
    exact congrArg (Datum.signed negative)
      (Fin.ext (nearest_millionths_of_large below_infinity large))

/-- Below sixteen there are no more millionths than in sixteen. -/
theorem roundedPlaces_le {x : Single} (small : x.steps < 16 * Format.single.unit) :
    roundedPlaces x <= 16 * 10 ^ 6 := by
  have most : 2 * (roundedPlaces x * Format.single.unit) <=
      2 * (x.steps * 10 ^ 6) + Format.single.unit := two_mul_roundDiv_le _ _ _
  by_contra more
  have apart := Nat.mul_le_mul_right Format.single.unit (Nat.succ_le_of_lt (Nat.not_le.mp more))
  rw [Nat.succ_mul] at apart
  omega

/-- The literal of a number that is nearest to so many millionths. -/
theorem literal_nearest_millionths (negative : Bool) {n : Nat} (few : n <= 16 * 10 ^ 6) :
    literal (.ofSteps .single negative (n * Format.single.unit) (10 ^ 6)) =
      (fixedSpelling (negative && n != 0) literalPlaces n).text := by
  have finite : (Datum.ofSteps .single negative (n * Format.single.unit) (10 ^ 6)).isFinite =
      true := decide_eq_true (nearest_millionths_lt_infinity few)
  have small : (Datum.ofSteps .single negative (n * Format.single.unit) (10 ^ 6)).steps <
      fixedLimit * Format.single.unit :=
    (steps_nearest_millionths_le few).trans_lt (by decide +kernel)
  have sign : (Datum.ofSteps .single negative (n * Format.single.unit) (10 ^ 6)).isBelowZero =
      (negative && n != 0) := by
    rw [Datum.ofSteps, Datum.isBelowZero]
    exact congrArg (negative && ·)
      (Bool.eq_iff_iff.mpr (by simpa using not_congr (nearest_millionths_eq_zero_iff few)))
  rw [literal_eq_fixedSpelling finite small, sign]
  exact congrArg (fun places => (fixedSpelling _ literalPlaces places).text)
    (roundDiv_nearest_millionths few)

/-- What is read back has the same literal, unless the sign stood before zeros only. -/
theorem literal_readBack_eq_iff {x : Single} (finite : x.isFinite = true)
    (limited : x.steps < fixedLimit * Format.single.unit) :
    literal (readBack x) = literal x ↔ ¬ (x.isBelowZero = true ∧ roundedPlaces x = 0) := by
  rcases Nat.lt_or_ge x.steps (16 * Format.single.unit) with small | large
  · rw [readBack_eq, literal_nearest_millionths _ (roundedPlaces_le small),
      literal_eq_fixedSpelling finite limited]
    rcases Nat.eq_zero_or_pos (roundedPlaces x) with zero | some
    · rw [zero]
      cases x.isBelowZero <;> decide
    · have different := Nat.ne_of_gt some
      rw [bne_iff_ne.mpr different, Bool.and_true]
      exact iff_of_true rfl fun negativeZero => different negativeZero.2
  · rw [readBack_of_large finite large]
    refine iff_of_true rfl fun negativeZero => ?_
    have back := readBack_of_large finite large
    rw [readBack_eq, negativeZero.2, Nat.zero_mul] at back
    rw [← back] at large
    exact absurd large (by cases x.isBelowZero <;> decide +kernel)

theorem sixteen_le_abs_value_iff (x : Single) :
    16 <= |x.value| ↔ 16 * Format.single.unit <= x.steps := by
  rw [← Datum.le_abs_value_iff]
  norm_num

/-- The single nearest to a literal below the limit has the same literal, except that a
negative number with nothing but zeros becomes zero.  From sixteen on it is the number
itself, so that there different numbers have different literals. -/
theorem literalText_reads_back (v : Float) (finite : (Single.ofFloat v).isFinite = true)
    (limited : |(Single.ofFloat v).value| < 10 ^ 21) :
    Exists fun decimal => readDecimal? (literalText v).toList = some decimal ∧
      (literalText (Single.toFloat (decimal.nearest .single)) = literalText v ↔
        ¬ ((Single.ofFloat v).value < 0 ∧ decimal.value = 0)) ∧
      (16 <= |(Single.ofFloat v).value| ->
        decimal.nearest .single = Single.ofFloat v ∧
        forall w, (Single.ofFloat w).isFinite = true -> |(Single.ofFloat w).value| < 10 ^ 21 ->
          16 <= |(Single.ofFloat w).value| -> literalText w = literalText v ->
            Single.ofFloat w = Single.ofFloat v) := by
  have read := readDecimal?_literalText finite limited
  have steps_lt := (abs_value_lt_limit_iff _).mp limited
  refine ⟨_, read, ?_, fun large => ?_⟩
  · rw [← Datum.isBelowZero_iff, value_fixedSpelling_eq_zero_iff _ (by decide),
      ← literal_readBack_eq_iff finite steps_lt]
    change String.ofList (literal (Single.ofFloat (Single.toFloat (readBack _)))) =
      String.ofList (literal _) ↔ _
    rw [Single.ofFloat_toFloat, String.ofList_inj]
  · have same := readBack_of_large finite ((sixteen_le_abs_value_iff _).mp large)
    refine ⟨same, fun w finite' limited' large' alike => ?_⟩
    have read' := readDecimal?_literalText finite' limited'
    rw [alike, read, Option.some_inj] at read'
    have same' := readBack_of_large finite' ((sixteen_le_abs_value_iff _).mp large')
    rw [← same, ← same', readBack, readBack, read']

/-- A number just beyond sixteen is read back from its literal. -/
theorem beyond_sixteen_reads_back :
    (Single.ofFloat 16.1).isFinite = true ∧ |(Single.ofFloat 16.1).value| < 10 ^ 21 ∧
      16 <= |(Single.ofFloat 16.1).value| ∧
      Exists fun decimal => readDecimal? (literalText 16.1).toList = some decimal ∧
        literalText (Single.toFloat (decimal.nearest .single)) = literalText 16.1 ∧
        decimal.nearest .single = Single.ofFloat 16.1 := by
  have finite : (Single.ofFloat 16.1).isFinite = true := by decide +kernel
  have limited : |(Single.ofFloat 16.1).value| < 10 ^ 21 :=
    (abs_value_lt_limit_iff _).mpr (by decide +kernel)
  have large : 16 <= |(Single.ofFloat 16.1).value| :=
    (sixteen_le_abs_value_iff _).mpr (by decide +kernel)
  have notBelow : ¬ (Single.ofFloat 16.1).value < 0 := by
    rw [← Datum.isBelowZero_iff]
    decide +kernel
  rcases literalText_reads_back 16.1 finite limited with ⟨decimal, read, same, back⟩
  exact ⟨finite, limited, large, decimal, read, same.mpr fun negativeZero =>
    notBelow negativeZero.1, (back large).1⟩

/-- Closer to zero a number need not be read back, although its literal is. -/
example : readBack (Single.ofFloat 1.25e-6) ≠ Single.ofFloat 1.25e-6 := by decide +kernel

end Wgsl
end ParticleEffects
