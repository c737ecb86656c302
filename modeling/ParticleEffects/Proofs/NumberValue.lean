import ParticleEffects.Proofs.Magnitudes

namespace ParticleEffects
namespace Number

/-!
The values of numbers.

A finite datum is a rational number, its steps divided by the steps in one.  Greater
patterns have more steps, so that numbers are ordered as their values are, and a number
is a whole one if its steps are a multiple of the steps in one.
-/

open Float.Model

namespace Datum

variable {format : Format}

/-- The rational number that a datum is, if it is finite. -/
def value : Datum format -> Rat
  | .nan => 0
  | .signed negative pattern =>
    (if negative then -1 else 1) * ((format.steps pattern.val : Rat) / (format.unit : Rat))

theorem exists_div_eq_int_iff {numerator denominator : Nat} (positive : 0 < denominator) :
    (Exists fun n : Int => (numerator : Rat) / (denominator : Rat) = n) ↔
      numerator % denominator = 0 := by
  have denominator_ne : (denominator : Rat) ≠ 0 := Nat.cast_ne_zero.mpr (Nat.ne_of_gt positive)
  constructor
  · rintro ⟨n, quotient⟩
    have product : (numerator : Int) = n * denominator := by
      exact_mod_cast (div_eq_iff denominator_ne).mp quotient
    exact Nat.mod_eq_zero_of_dvd (Int.natCast_dvd_natCast.mp ⟨n, by rw [product, Int.mul_comm]⟩)
  · intro noRest
    rcases Nat.dvd_of_mod_eq_zero noRest with ⟨n, rfl⟩
    refine ⟨n, (div_eq_iff denominator_ne).mpr ?_⟩
    rw [Nat.mul_comm]
    exact_mod_cast rfl

/-- A datum is a whole number if its steps are a multiple of those in one. -/
theorem exists_value_eq_int_iff (datum : Datum format) :
    (Exists fun n : Int => datum.value = n) ↔ datum.steps % format.unit = 0 := by
  cases datum with
  | nan => exact ⟨fun _ => Nat.zero_mod _, fun _ => ⟨0, rfl⟩⟩
  | signed negative pattern =>
    rw [steps, ← exists_div_eq_int_iff format.unit_pos]
    cases negative with
    | false => simp [value]
    | true =>
      simp only [value, if_true, neg_one_mul]
      constructor
      · rintro ⟨n, same⟩
        exact ⟨-n, by rw [Int.cast_neg, ← same, neg_neg]⟩
      · rintro ⟨n, same⟩
        exact ⟨-n, by rw [same, Int.cast_neg]⟩

/-- What is not below zero is its steps, counted in those of one. -/
theorem value_of_not_below {datum : Datum format} (notBelow : datum.isBelowZero = false) :
    datum.value = (datum.steps : Rat) / (format.unit : Rat) := by
  cases datum with
  | nan => rw [value, steps, Nat.cast_zero, zero_div]
  | signed negative pattern =>
    cases negative with
    | false => rw [value, if_neg Bool.false_ne_true, one_mul, steps]
    | true =>
      have zero : pattern.val = 0 := by
        simpa only [isBelowZero, Bool.true_and, bne_eq_false_iff_eq] using notBelow
      rw [value, steps, zero, Format.steps_zero, Nat.cast_zero, zero_div, mul_zero]

theorem value_lt_zero {datum : Datum format} (below : datum.isBelowZero = true) :
    datum.value < 0 := by
  cases datum with
  | nan => cases below
  | signed negative pattern =>
    rcases Bool.and_eq_true_iff.mp below with ⟨rfl, different⟩
    have steps_pos := format.steps_strictMono (Nat.pos_of_ne_zero (bne_iff_ne.mp different))
    rw [Format.steps_zero] at steps_pos
    rw [value, if_pos rfl, neg_one_mul, neg_lt_zero]
    exact div_pos (Nat.cast_pos.mpr steps_pos) (Nat.cast_pos.mpr format.unit_pos)

theorem isBelowZero_iff (datum : Datum format) : datum.isBelowZero = true ↔ datum.value < 0 := by
  refine ⟨value_lt_zero, fun below => ?_⟩
  by_contra notBelow
  rw [value_of_not_below (Bool.not_eq_true _ ▸ notBelow)] at below
  exact absurd below (not_lt.mpr (by positivity))

/-- A number is its magnitude with its sign. -/
theorem value_eq_sign_mul (datum : Datum format) :
    datum.value = (if datum.isBelowZero then -1 else 1) * ((datum.steps : Rat) / format.unit) := by
  cases below : datum.isBelowZero with
  | false => rw [value_of_not_below below, if_neg Bool.false_ne_true, one_mul]
  | true =>
    cases datum with
    | nan => cases below
    | signed negative pattern =>
      have sign : negative = true := (Bool.and_eq_true_iff.mp below).1
      rw [sign]
      rfl

theorem abs_value (datum : Datum format) : |datum.value| = (datum.steps : Rat) / format.unit := by
  have nonnegative : (0 : Rat) <= (datum.steps : Rat) / format.unit := by positivity
  rw [value_eq_sign_mul]
  split
  · rw [neg_one_mul, abs_neg, abs_of_nonneg nonnegative]
  · rw [one_mul, abs_of_nonneg nonnegative]

/-- Magnitudes are compared with whole numbers through their steps. -/
theorem abs_value_lt_iff (datum : Datum format) (n : Nat) :
    |datum.value| < n ↔ datum.steps < n * format.unit := by
  rw [abs_value, div_lt_iff₀ (Nat.cast_pos.mpr format.unit_pos)]
  exact_mod_cast Iff.rfl

theorem le_abs_value_iff (datum : Datum format) (n : Nat) :
    n <= |datum.value| ↔ n * format.unit <= datum.steps := by
  rw [← not_lt, abs_value_lt_iff, Nat.not_lt]

end Datum

/-! ## Kinds of numbers -/

theorem isFinite_eq_not (x : Float) : x.isFinite = !(x.isNaN || x.isInf) := by
  show x.toModel.unpack.isFinite = !(x.toModel.unpack.isNaN || x.toModel.unpack.isInf)
  cases x.toModel.unpack <;> rfl

theorem isFinite_unpackedMagnitude (sign : UnpackedFloat.Sign) (pattern : Nat) :
    (unpackedMagnitude sign pattern).isFinite = !decide (pattern = Format.double.infinity) := by
  unfold unpackedMagnitude
  split
  · rename_i infinite
    rw [decide_eq_true infinite]
    rfl
  · rename_i finite
    rw [decide_eq_false finite]
    split <;> rfl

theorem isFinite_eq (x : Float) : x.isFinite = (Datum.ofFloat x).isFinite := by
  have unpacked : x.isFinite = (Datum.ofFloat x).unpacked.isFinite :=
    congrArg UnpackedFloat.isFinite (unpack_eq_unpacked x)
  rw [unpacked]
  cases Datum.ofFloat x with
  | nan => rfl
  | signed negative pattern =>
    have bounded := pattern.isLt
    rw [Datum.unpacked, isFinite_unpackedMagnitude, Datum.isFinite, ← decide_not]
    exact decide_eq_decide.mpr (by omega)

theorem isNaN_of_isFinite {x : Float} (finite : x.isFinite = true) : x.isNaN = false := by
  rw [isFinite_eq_not, Bool.not_eq_true', Bool.or_eq_false_iff] at finite
  exact finite.1

/-- What lies between numbers is finite. -/
theorem isFinite_of_lt_of_lt {x y z : Float} (above : x < y) (below : y < z) :
    y.isFinite = true := by
  rcases (lt_iff_place x y).mp above with ⟨least, place, found, foundPlace, less⟩
  rcases (lt_iff_place y z).mp below with ⟨place', greatest, foundPlace', found', greater⟩
  cases foundPlace.symm.trans foundPlace'
  have lower := Datum.natAbs_place_le found
  have upper := Datum.natAbs_place_le found'
  rw [isFinite_eq]
  cases datum : Datum.ofFloat y with
  | nan => rw [datum] at foundPlace; cases foundPlace
  | signed negative pattern =>
    rw [datum] at foundPlace
    cases foundPlace
    refine decide_eq_true ?_
    cases negative <;> simp only [Bool.false_eq_true, if_false, if_true] at less greater <;> omega

theorem place_zero : (Datum.ofFloat 0).place? = some 0 := by decide +kernel

/-- A number is below zero if its sign is negative and its magnitude is not zero. -/
theorem lt_zero_iff (x : Float) : x < 0 ↔ (Datum.ofFloat x).isBelowZero = true := by
  rw [lt_iff_place, place_zero]
  cases Datum.ofFloat x with
  | nan => simp [Datum.place?, Datum.isBelowZero]
  | signed negative pattern =>
    simp only [Datum.place?, Datum.isBelowZero, Bool.and_eq_true, bne_iff_ne]
    constructor
    · rintro ⟨_, _, ⟨⟩, ⟨⟩, below⟩
      cases negative with
      | false => exact absurd below (by simp)
      | true =>
        simp only [if_true] at below
        exact ⟨rfl, fun none => absurd below (by rw [none]; decide)⟩
    · rintro ⟨rfl, positive⟩
      refine ⟨_, 0, rfl, rfl, ?_⟩
      simp only [if_true]
      omega

/-- The pattern of the first number that addresses no slot. -/
theorem place_sixteen : (Datum.ofFloat 16).place? = some 4625196817309499392 := by decide +kernel

theorem steps_sixteen : Format.double.steps 4625196817309499392 = 16 * Format.double.unit := by
  decide +kernel

theorem sixteen_le_iff (x : Float) :
    16 <= x ↔ (Datum.ofFloat x).isBelowZero = false ∧
      16 * Format.double.unit <= (Datum.ofFloat x).steps := by
  have some_steps : ¬ 16 * Format.double.unit <= 0 := by
    have := Format.double.unit_pos
    omega
  rw [le_iff_place, place_sixteen]
  cases Datum.ofFloat x with
  | nan => simp [Datum.place?, Datum.steps, some_steps]
  | signed negative pattern =>
    cases negative with
    | false =>
      rw [← steps_sixteen]
      simp [Datum.place?, Datum.isBelowZero, Datum.steps, Format.steps_le_steps_iff]
    | true =>
      constructor
      · rintro ⟨_, _, ⟨⟩, ⟨⟩, above⟩
        simp at above
        omega
      · rintro ⟨notBelow, enough⟩
        have zero : pattern.val = 0 := by simpa [Datum.isBelowZero] using notBelow
        rw [Datum.steps, zero, Format.steps_zero] at enough
        exact absurd enough some_steps

/-- A whole number. -/
def IsWhole (x : Float) : Prop := Exists fun n : Int => (Datum.ofFloat x).value = n

theorem isWhole_iff (x : Float) : IsWhole x ↔ (Datum.ofFloat x).steps % Format.double.unit = 0 :=
  Datum.exists_value_eq_int_iff _

theorem natural?_eq_some_iff_steps {x : Float} {n : Nat} :
    natural? x = some n ↔ x.isFinite = true ∧ (Datum.ofFloat x).isBelowZero = false ∧
      (Datum.ofFloat x).steps % Format.double.unit = 0 ∧
      (Datum.ofFloat x).steps / Format.double.unit = n := by
  rw [natural?, Datum.natural?, isFinite_eq]
  simp [and_assoc]

theorem div_eq_natCast_iff {numerator denominator n : Nat} (positive : 0 < denominator) :
    (numerator : Rat) / (denominator : Rat) = n ↔
      numerator % denominator = 0 ∧ numerator / denominator = n := by
  rw [div_eq_iff (Nat.cast_ne_zero.mpr (Nat.ne_of_gt positive))]
  constructor
  · intro product
    have whole : numerator = n * denominator := by exact_mod_cast product
    subst whole
    exact ⟨Nat.mul_mod_left n denominator, Nat.mul_div_cancel n positive⟩
  · rintro ⟨noRest, rfl⟩
    exact_mod_cast (Nat.div_mul_cancel (Nat.dvd_of_mod_eq_zero noRest)).symm

/-- The natural number that a number equals is its value. -/
theorem natural?_eq_some_iff (x : Float) (n : Nat) :
    natural? x = some n ↔ x.isFinite = true ∧ (Datum.ofFloat x).value = n := by
  rw [natural?_eq_some_iff_steps]
  refine and_congr_right fun _ => ?_
  cases below : (Datum.ofFloat x).isBelowZero with
  | false =>
    rw [Datum.value_of_not_below below, div_eq_natCast_iff Format.double.unit_pos]
    exact ⟨And.right, fun quotient => ⟨rfl, quotient⟩⟩
  | true =>
    constructor
    · rintro ⟨⟨⟩, _⟩
    · intro same
      have negative := Datum.value_lt_zero below
      rw [same] at negative
      exact absurd negative (not_lt_of_ge (Nat.cast_nonneg n))

end Number
end ParticleEffects
