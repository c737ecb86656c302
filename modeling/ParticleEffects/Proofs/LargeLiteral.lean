import ParticleEffects.Proofs.LiteralReading
import ParticleEffects.Proofs.ShortestDigits

namespace ParticleEffects
namespace Number

/-!
Literals with an exponent.

From `10 ^ 21` on a literal has the shortest digits of the number, a point behind the first
of them and an exponent.  The zeros that are left out at the end of the text are those of
the exponent: for all numbers from `10 ^ 30` up to below `10 ^ 31`, and for no others, the
exponent loses a zero and the literal denotes another number.
-/

open Format

/-! ## Bounds -/

/-- A whole number lies between a single and the next one, and so does its nearest double. -/
structure LiesAfter (n pattern : Nat) : Prop where
  lt_double : single.steps pattern * refinement <
    double.steps (double.nearest (n * double.unit) 1)
  double_lt : double.steps (double.nearest (n * double.unit) 1) <
    single.steps (pattern + 1) * refinement
  lt_number : single.steps pattern < n * single.unit
  number_le : n * single.unit <= single.steps (pattern + 1)

/-- Bounds that lie between singles compare with a single as with a number that is rounded
to it among the doubles. -/
theorem LiesAfter.le_iff {bound before pattern pattern' n : Nat}
    (between : LiesAfter bound before)
    (same : double.steps pattern' = single.steps pattern * refinement)
    (nearest : double.nearest (n * double.unit) 1 = pattern') :
    bound <= n ↔ bound * single.unit <= single.steps pattern := by
  constructor
  · intro less
    have placed : double.nearest (bound * double.unit) 1 <= pattern' :=
      nearest ▸ nearest_mono (by decide) (Nat.mul_le_mul_right _ less)
    have refined := between.lt_double.trans_le (steps_le_steps_iff.mpr placed)
    rw [same] at refined
    have more := steps_lt_steps_iff.mp (Nat.lt_of_mul_lt_mul_right refined)
    exact between.number_le.trans (steps_le_steps_iff.mpr more)
  · intro reached
    by_contra less
    have placed : pattern' <= double.nearest (bound * double.unit) 1 :=
      nearest ▸ nearest_mono (by decide) (Nat.mul_le_mul_right _ (Nat.not_le.mp less).le)
    have refined := (steps_le_steps_iff.mpr placed).trans_lt between.double_lt
    rw [same] at refined
    have fewer := steps_lt_steps_iff.mp (Nat.lt_of_mul_lt_mul_right refined)
    have small := single.steps_strictMono.monotone (Nat.le_of_lt_succ fewer)
    exact absurd reached (Nat.not_le.mpr (small.trans_lt between.lt_number))

theorem liesAfter_limit : LiesAfter (10 ^ 21) 1649989414 := by constructor <;> decide +kernel

theorem liesAfter_thirty : LiesAfter (10 ^ 30) 1900671689 := by constructor <;> decide +kernel

theorem liesAfter_thirtyOne : LiesAfter (10 ^ 31) 1929146236 := by constructor <;> decide +kernel

/-- Beyond the greatest single the exponents are thought to go on. -/
theorem liesAfter_beyond : LiesAfter (10 ^ 39) 2151420991 := by constructor <;> decide +kernel

/-! ## Digits without trailing zeros -/

theorem digitChar_ne_zero {digit : Nat} (small : digit < 10) (different : digit ≠ 0) :
    digit.digitChar ≠ '0' := by
  intro zero
  have value := congrArg Char.toNat zero
  rw [Nat.toNat_digitChar_of_lt_ten small] at value
  change 48 + digit = 48 at value
  omega

theorem dropTrailingZeros_toDigits {n : Nat} (last : n % 10 ≠ 0) :
    dropTrailingZeros (Nat.toDigits 10 n) = Nat.toDigits 10 n := by
  have kept (front : List Char) : dropTrailingZeros (front ++ [(n % 10).digitChar]) =
      front ++ [(n % 10).digitChar] :=
    dropTrailingZeros_append_cons front (digitChar_ne_zero (Nat.mod_lt n (by decide)) last) []
  rw [Nat.toDigits_eq_if (by decide)]
  split
  · rename_i small
    have single_digit := kept []
    rwa [Nat.mod_eq_of_lt small] at single_digit
  · exact kept _

/-- A whole number in scientific notation: its digits without the zeros at their end, and
the exponent of the first of them. -/
structure IsScientific (number : Scientific) (n exponent zeros : Nat) : Prop where
  nonempty : number.digits ≠ []
  plain : OfDigits number.digits
  spelled_mul : spelled number.digits * 10 ^ zeros = n
  length_add : number.digits.length + zeros = exponent + 1
  point : number.point = (exponent + 1 : Nat)
  pow_le : 10 ^ exponent <= n
  lt_pow : n < 10 ^ (exponent + 1)

namespace IsScientific

variable {number : Scientific} {n exponent zeros : Nat}

/-- The digits of a number and some zeros more. -/
theorem exists_of_digits {coefficient : Nat} (positive : 0 < coefficient) (more : Nat) :
    Exists fun exponent => Exists fun zeros => IsScientific {
      digits := dropTrailingZeros (Nat.toDigits 10 coefficient)
      point := more + (Nat.toDigits 10 coefficient).length }
      (coefficient * 10 ^ more) exponent zeros := by
  rcases exists_dropTrailingZeros (Nat.toDigits 10 coefficient) with ⟨zeros, same⟩
  have length_eq := congrArg List.length same
  have spelled_eq := congrArg spelled same
  rw [List.length_append, List.length_replicate] at length_eq
  rw [spelled_toDigits, spelled_append, spelled_replicate_zero, List.length_replicate,
    Nat.add_zero] at spelled_eq
  have count : digitCount coefficient = (Nat.toDigits 10 coefficient).length :=
    if_neg positive.ne'
  rcases Nat.exists_eq_add_one_of_ne_zero (Nat.length_toDigits_pos (b := 10)
    (n := coefficient)).ne' with ⟨rest, length_succ⟩
  refine ⟨rest + more, zeros + more, ?_, ?_, ?_, ?_, ?_, ?_, ?_⟩
  · intro empty
    dsimp only at empty
    rw [empty] at spelled_eq
    have none : spelled [] = 0 := rfl
    rw [none, Nat.zero_mul] at spelled_eq
    omega
  · exact (OfDigits.toDigits coefficient).dropTrailingZeros
  · rw [Nat.pow_add, ← Nat.mul_assoc, ← spelled_eq]
  · dsimp only
    omega
  · dsimp only
    omega
  · rw [Nat.pow_add]
    exact Nat.mul_le_mul_right _ (pow_le_of_lt_digitCount (by omega))
  · have less := lt_pow_digitCount coefficient
    rw [count, length_succ] at less
    rw [Nat.add_right_comm, Nat.pow_add]
    exact Nat.mul_lt_mul_of_pos_right less (Nat.pow_pos (by decide))

theorem digits_pos (scientific : IsScientific number n exponent zeros) :
    0 < number.digits.length :=
  List.length_pos_iff.mpr scientific.nonempty

end IsScientific

/-! ## Texts with an exponent -/

/-- Digits with a point behind the first of them, and an exponent. -/
def scientificSpelling (negative : Bool) (digits exponent : List Char) : Spelling where
  negative := negative
  whole := digits.take 1
  fraction? := if (digits.drop 1).isEmpty then none else some (digits.drop 1)
  exponent? := some (false, exponent)

theorem fractionDigits_scientificSpelling (negative : Bool) (digits exponent : List Char) :
    (scientificSpelling negative digits exponent).fractionDigits = digits.drop 1 := by
  unfold Spelling.fractionDigits scientificSpelling
  dsimp only
  split
  · rename_i empty
    exact (List.isEmpty_iff.mp empty).symm
  · rfl

theorem fractionText_scientificSpelling (negative : Bool) (digits exponent : List Char) :
    (scientificSpelling negative digits exponent).fractionText =
      if (digits.drop 1).isEmpty then [] else '.' :: digits.drop 1 := by
  unfold Spelling.fractionText scientificSpelling
  cases (digits.drop 1).isEmpty <;> rfl

theorem exponentText_natCast (exponent : Nat) :
    Scientific.exponentText exponent = 'e' :: '+' :: Nat.toDigits 10 exponent := by
  rw [Scientific.exponentText, if_neg (Int.not_lt.mpr (Int.natCast_nonneg exponent)),
    Int.natAbs_natCast]

theorem wellFormed_scientificSpelling (negative : Bool) {digits exponent : List Char}
    (nonempty : digits ≠ []) (plain : OfDigits digits) (exponent_nonempty : exponent ≠ [])
    (exponent_plain : OfDigits exponent) :
    (scientificSpelling negative digits exponent).WellFormed where
  whole_ne_nil := by
    change digits.take 1 ≠ []
    simpa using nonempty
  whole_digits := fun c member => plain c (List.mem_of_mem_take member)
  fraction_digits := by
    rw [fractionDigits_scientificSpelling]
    exact fun c member => plain c (List.mem_of_mem_drop member)
  exponent_digits := by
    rintro sign digits' found
    cases found
    exact ⟨exponent_nonempty, exponent_plain⟩

/-- Only the exponent can lose zeros at the end of the text. -/
theorem dropTrailingZeros_scientificSpelling (negative : Bool) (digits exponent : List Char) :
    dropTrailingZeros (scientificSpelling negative digits exponent).text =
      (scientificSpelling negative digits (dropTrailingZeros exponent)).text := by
  have cut (exponent : List Char) : (scientificSpelling negative digits exponent).text =
      (signText negative ++ (digits.take 1 ++
        (scientificSpelling negative digits []).fractionText ++ ['e'])) ++ '+' :: exponent := by
    simp [Spelling.text, Spelling.exponentText, Spelling.fractionText, scientificSpelling]
  rw [cut, cut, dropTrailingZeros_append_cons _ (by decide)]

theorem signText_append_text (negative : Bool) (digits exponent : List Char) :
    signText negative ++ (scientificSpelling false digits exponent).text =
      (scientificSpelling negative digits exponent).text := rfl

/-- From `10 ^ 21` on a number is written with its exponent. -/
theorem text_of_large {number : Scientific} {n exponent zeros : Nat}
    (scientific : IsScientific number n exponent zeros) (large : 21 <= exponent) :
    number.text plainRange =
      (scientificSpelling false number.digits (Nat.toDigits 10 exponent)).text := by
  have beyond : ¬ number.point <= plainRange.highest := by
    rw [scientific.point, plainRange]
    dsimp only
    omega
  have shown : number.point - 1 = exponent := by
    rw [scientific.point]
    omega
  rw [Scientific.text]
  dsimp only
  rw [if_neg (by simp [beyond]), shown, exponentText_natCast, Spelling.text,
    fractionText_scientificSpelling]
  rfl

theorem decimal_scientificSpelling (negative : Bool) (digits exponent : List Char) :
    (scientificSpelling negative digits exponent).decimal = {
      negative := negative
      coefficient := spelled digits
      exponent := (spelled exponent : Int) - (digits.length - 1 : Nat) } := by
  rw [Spelling.decimal, fractionDigits_scientificSpelling, List.length_drop]
  change Decimal.mk _ (spelled (digits.take 1 ++ digits.drop 1)) _ = _
  rw [List.take_append_drop]
  rfl

theorem powerFraction_pos (coefficient : Nat) (exponent : Int) :
    0 < (powerFraction coefficient exponent).2 := by
  unfold powerFraction
  split
  · exact Nat.one_pos
  · exact Nat.pow_pos (by decide)

theorem powerFraction_le {coefficient length limit : Nat} {exponent : Int}
    (few : coefficient < 10 ^ length) (place : (length : Int) + exponent = limit) :
    (powerFraction coefficient exponent).1 <= 10 ^ limit * (powerFraction coefficient exponent).2 := by
  unfold powerFraction
  split
  · have sum : limit = length + exponent.toNat := by omega
    rw [sum, Nat.mul_one, Nat.pow_add]
    exact Nat.mul_le_mul_right _ few.le
  · have sum : length = limit + (-exponent).toNat := by omega
    rw [sum, Nat.pow_add] at few
    exact few.le

/-- Ten thousand is a single. -/
theorem steps_tenThousand : single.steps 1176256512 = 10 ^ 4 * single.unit := by decide +kernel

/-- A decimal of at most ten thousand is rounded to no more than that. -/
theorem steps_nearest_le {decimal : Decimal} {length : Nat}
    (few : decimal.coefficient < 10 ^ length) (place : (length : Int) + decimal.exponent = 4) :
    (decimal.nearest .single).steps <= 10 ^ 4 * single.unit := by
  have most : (powerFraction decimal.coefficient decimal.exponent).1 <=
      10 ^ 4 * (powerFraction decimal.coefficient decimal.exponent).2 :=
    powerFraction_le few place
  have placed : single.nearest ((powerFraction decimal.coefficient decimal.exponent).1 * single.unit)
      (powerFraction decimal.coefficient decimal.exponent).2 <= 1176256512 := by
    rw [nearest_eq_min]
    refine (Nat.min_le_right _ _).trans (place_le (powerFraction_pos _ _) ?_)
    rw [steps_tenThousand, Nat.mul_right_comm]
    exact Nat.mul_le_mul_right _ most
  rw [← steps_tenThousand]
  exact steps_le_steps_iff.mpr placed

/-- With its own exponent a decimal is the whole number. -/
theorem nearest_of_scientific (format : Format) {number : Scientific} {n exponent zeros : Nat}
    (scientific : IsScientific number n exponent zeros) {decimal : Decimal}
    (same : decimal = {
      negative := decimal.negative
      coefficient := spelled number.digits
      exponent := (exponent : Int) - (number.digits.length - 1 : Nat) }) :
    decimal.nearest format = .ofSteps format decimal.negative (n * format.unit) 1 := by
  have length_add := scientific.length_add
  have some := scientific.digits_pos
  have zeros_eq : (exponent : Int) - (number.digits.length - 1 : Nat) = (zeros : Int) := by omega
  rw [same, Decimal.nearest]
  dsimp only
  rw [zeros_eq, powerFraction_natCast, scientific.spelled_mul]

end Number

namespace Wgsl

open Number

/-! ## Large literals -/

/-- A decimal floating-point literal of a shader, perhaps behind a minus sign: digits with a
point, with an exponent or with both.  A suffix for the type is never written. -/
def IsFloatLiteral (text : List Char) : Prop :=
  Exists fun spelling : Spelling => spelling.WellFormed ∧ text = spelling.text ∧
    (spelling.fraction?.isSome = true ∨ spelling.exponent?.isSome = true)

/-- The exponent as it is written behind the digits. -/
def writtenExponent (exponent : Nat) : List Char := dropTrailingZeros (Nat.toDigits 10 exponent)

theorem spelled_writtenExponent {exponent : Nat} (least : 21 <= exponent) (most : exponent < 39)
    (other : exponent ≠ 30) : spelled (writtenExponent exponent) = exponent := by
  rw [writtenExponent, dropTrailingZeros_toDigits (by omega), spelled_toDigits]

theorem writtenExponent_ne_nil {exponent : Nat} (some : 0 < exponent) :
    writtenExponent exponent ≠ [] := by
  intro empty
  rcases exists_dropTrailingZeros (Nat.toDigits 10 exponent) with ⟨zeros, same⟩
  have value := congrArg spelled same
  change dropTrailingZeros (Nat.toDigits 10 exponent) = [] at empty
  rw [empty, List.nil_append, spelled_toDigits, spelled_replicate_zero] at value
  omega

/-- What a large number is written with: a whole number that is rounded to it, in scientific
notation. -/
structure IsWrittenWith (x : Single) (number : Scientific) (n exponent zeros : Nat) : Prop where
  scientific : IsScientific number n exponent zeros
  nearest : .ofSteps .single x.isBelowZero (n * Format.single.unit) 1 = x
  least : 21 <= exponent
  most : exponent < 39
  eq_thirty_iff : exponent = 30 ↔
    10 ^ 30 * Format.single.unit <= x.steps ∧ x.steps < 10 ^ 31 * Format.single.unit
  literal_eq : literal x =
    (scientificSpelling x.isBelowZero number.digits (writtenExponent exponent)).text

/-- The digits of a magnitude from the limit on, with what tells their exponent. -/
theorem exists_scientific {pattern pattern' : Nat} (finite : pattern < Format.single.infinity)
    (finite' : pattern' < Format.double.infinity)
    (same : Format.double.steps pattern' = Format.single.steps pattern * Format.refinement)
    (large : fixedLimit * Format.single.unit <= Format.single.steps pattern) :
    Exists fun n => Exists fun exponent => Exists fun zeros =>
      IsScientific (shortest .double pattern') n exponent zeros ∧
      Format.double.nearest (n * Format.double.unit) 1 = pattern' ∧
      21 <= exponent ∧ exponent < 39 ∧
      (exponent = 30 ↔ 10 ^ 30 * Format.single.unit <= Format.single.steps pattern ∧
        Format.single.steps pattern < 10 ^ 31 * Format.single.unit) := by
  have enough : 10 ^ 16 * Format.double.unit <= Format.double.steps pattern' := by
    have fewer : 10 ^ 16 * Format.single.unit <= fixedLimit * Format.single.unit :=
      Nat.mul_le_mul_right _ (by decide)
    rw [same, Format.unit_double, ← Nat.mul_assoc]
    exact Nat.mul_le_mul_right _ (fewer.trans large)
  rcases exists_shortest finite' enough with ⟨coefficient, more, nearest, shortest_eq⟩
  have limit_le : 10 ^ 21 <= coefficient * 10 ^ more :=
    (liesAfter_limit.le_iff same nearest).mpr large
  have positive : 0 < coefficient := by
    rcases Nat.eq_zero_or_pos coefficient with rfl | positive
    · rw [Nat.zero_mul] at limit_le
      exact absurd limit_le (by decide)
    · exact positive
  rcases IsScientific.exists_of_digits positive more with ⟨exponent, zeros, scientific⟩
  refine ⟨_, exponent, zeros, shortest_eq ▸ scientific, nearest, ?_, ?_, ?_⟩
  · have less := (Nat.pow_lt_pow_iff_right (by decide)).mp
      (limit_le.trans_lt scientific.lt_pow)
    omega
  · have top : Format.single.steps Format.single.infinity <= 10 ^ 39 * Format.single.unit := by
      decide +kernel
    have less : coefficient * 10 ^ more < 10 ^ 39 := by
      by_contra beyond
      have reached := (liesAfter_beyond.le_iff same nearest).mp (Nat.not_lt.mp beyond)
      exact absurd (reached.trans_lt (Format.steps_lt_steps finite)) (Nat.not_lt.mpr top)
    exact (Nat.pow_lt_pow_iff_right (by decide)).mp (scientific.pow_le.trans_lt less)
  · rw [← liesAfter_thirty.le_iff same nearest, ← Nat.not_le,
      ← liesAfter_thirtyOne.le_iff same nearest, Nat.not_le]
    constructor
    · rintro rfl
      exact ⟨scientific.pow_le, scientific.lt_pow⟩
    · rintro ⟨from_thirty, below⟩
      have least := (Nat.pow_lt_pow_iff_right (by decide)).mp
        (from_thirty.trans_lt scientific.lt_pow)
      have most := (Nat.pow_lt_pow_iff_right (by decide)).mp (scientific.pow_le.trans_lt below)
      omega

theorem exists_isWrittenWith {x : Single} (finite : x.isFinite = true)
    (large : fixedLimit * Format.single.unit <= x.steps) :
    Exists fun number => Exists fun n => Exists fun exponent => Exists fun zeros =>
      IsWrittenWith x number n exponent zeros := by
  cases x with
  | nan => cases finite
  | signed negative pattern =>
    have below_infinity : pattern.val < Format.single.infinity := of_decide_eq_true finite
    rcases Datum.exists_convert_double negative below_infinity with
      ⟨pattern', finite', same, converted⟩
    rcases exists_scientific below_infinity finite' same large with
      ⟨n, exponent, zeros, scientific, nearest, least, most, thirty⟩
    have some : pattern.val ≠ 0 := by
      intro zero
      rw [Datum.steps, zero, Format.steps_zero] at large
      exact absurd large (by decide +kernel)
    have some' : pattern'.val ≠ 0 := by
      intro zero
      rw [zero, Format.steps_zero] at same
      have steps_pos := Format.single.steps_strictMono (Nat.pos_of_ne_zero some)
      rw [Format.steps_zero] at steps_pos
      exact absurd same (Nat.mul_pos steps_pos Format.refinement_pos).ne
    have sign : (Datum.signed negative pattern).isBelowZero = negative := by
      rw [Datum.isBelowZero, bne_iff_ne.mpr some, Bool.and_true]
    refine ⟨_, n, exponent, zeros, scientific, ?_, least, most, thirty, ?_⟩
    · rw [sign]
      exact congrArg (Datum.signed negative) (Fin.ext
        (nearest_single_of_nearest_double (by decide) below_infinity finite' same nearest))
    · have magnitude : literalMagnitude (.signed negative pattern) =
          (shortest .double pattern').text plainRange := by
        rw [literalMagnitude, if_neg (Nat.not_lt.mpr large), converted]
        change magnitudeText .double pattern'.val = _
        rw [magnitudeText, if_neg some', if_pos finite']
      rw [literal, magnitude, text_of_large scientific least,
        dropTrailingZeros_scientificSpelling]
      exact signText_append_text _ _ _

namespace IsWrittenWith

variable {x : Single} {number : Scientific} {n exponent zeros : Nat}

theorem wellFormed (written : IsWrittenWith x number n exponent zeros) :
    (scientificSpelling x.isBelowZero number.digits (writtenExponent exponent)).WellFormed :=
  wellFormed_scientificSpelling _ written.scientific.nonempty written.scientific.plain
    (writtenExponent_ne_nil (Nat.zero_lt_of_lt written.least)) (.dropTrailingZeros (.toDigits _))

/-- Where the exponent keeps its digits, the number is read back. -/
theorem nearest_decimal (written : IsWrittenWith x number n exponent zeros)
    (kept : exponent ≠ 30) :
    (scientificSpelling x.isBelowZero number.digits (writtenExponent exponent)).decimal.nearest
      .single = x := by
  rw [decimal_scientificSpelling, spelled_writtenExponent written.least written.most kept,
    nearest_of_scientific .single written.scientific rfl]
  exact written.nearest

/-- Where the exponent loses a zero, it is less by twenty-seven. -/
theorem nearest_shifted (written : IsWrittenWith x number n exponent zeros)
    (lost : exponent = 30) {decimal : Decimal}
    (same : decimal =
      (scientificSpelling x.isBelowZero number.digits (writtenExponent exponent)).decimal) :
    Decimal.nearest .single { decimal with exponent := decimal.exponent + 27 } = x := by
  have three : spelled (writtenExponent 30) = 3 := by decide
  subst lost
  rw [same, decimal_scientificSpelling, three]
  have shifted : ((3 : Nat) : Int) - (number.digits.length - 1 : Nat) + 27 =
      ((30 : Nat) : Int) - (number.digits.length - 1 : Nat) := by omega
  dsimp only
  rw [shifted, nearest_of_scientific .single written.scientific rfl]
  exact written.nearest

/-- Where the exponent loses a zero, at most ten thousand is read. -/
theorem nearest_decimal_ne (written : IsWrittenWith x number n exponent zeros)
    (lost : exponent = 30) :
    (scientificSpelling x.isBelowZero number.digits (writtenExponent exponent)).decimal.nearest
      .single ≠ x := by
  intro back
  have three : spelled (writtenExponent 30) = 3 := by decide
  have scientific := written.scientific
  have large := (written.eq_thirty_iff.mp lost).1
  have some := scientific.digits_pos
  have few : spelled number.digits < 10 ^ number.digits.length := by
    have bound := scientific.lt_pow
    rw [← scientific.spelled_mul, ← scientific.length_add, Nat.pow_add] at bound
    exact Nat.lt_of_mul_lt_mul_right bound
  rw [← back, lost, decimal_scientificSpelling, three] at large
  have small : (Decimal.nearest .single {
      negative := x.isBelowZero
      coefficient := spelled number.digits
      exponent := ((3 : Nat) : Int) - (number.digits.length - 1 : Nat) }).steps <=
        10 ^ 4 * Format.single.unit :=
    steps_nearest_le few (by dsimp only; omega)
  exact absurd (large.trans small) (by decide +kernel)

end IsWrittenWith

theorem limit_le_abs_value_iff (x : Single) :
    10 ^ 21 <= |x.value| ↔ fixedLimit * Format.single.unit <= x.steps := by
  rw [← Datum.le_abs_value_iff]
  norm_num [fixedLimit]

theorem thirty_le_abs_value_iff (x : Single) :
    10 ^ 30 <= |x.value| ∧ |x.value| < 10 ^ 31 ↔
      10 ^ 30 * Format.single.unit <= x.steps ∧ x.steps < 10 ^ 31 * Format.single.unit := by
  rw [← Datum.le_abs_value_iff, ← Datum.abs_value_lt_iff]
  norm_num

/-- The literal of a number from `10 ^ 21` on is one of a shader.  It is read back as the
number except from `10 ^ 30` up to below `10 ^ 31`, where the exponent is less by
twenty-seven than it should be. -/
theorem large_literalText_reads_back_iff (v : Float)
    (finite : (Single.ofFloat v).isFinite = true)
    (large : 10 ^ 21 <= |(Single.ofFloat v).value|) :
    IsFloatLiteral (literalText v).toList ∧
      Exists fun decimal => readDecimal? (literalText v).toList = some decimal ∧
        (decimal.nearest .single = Single.ofFloat v ↔
          ¬ (10 ^ 30 <= |(Single.ofFloat v).value| ∧ |(Single.ofFloat v).value| < 10 ^ 31)) ∧
        (10 ^ 30 <= |(Single.ofFloat v).value| -> |(Single.ofFloat v).value| < 10 ^ 31 ->
          Decimal.nearest .single { decimal with exponent := decimal.exponent + 27 } =
            Single.ofFloat v) := by
  rcases exists_isWrittenWith finite ((limit_le_abs_value_iff _).mp large) with
    ⟨number, n, exponent, zeros, written⟩
  have text : (literalText v).toList = _ :=
    (congrArg String.toList (congrArg String.ofList written.literal_eq)).trans
      (String.toList_ofList)
  have thirty : exponent = 30 ↔
      10 ^ 30 <= |(Single.ofFloat v).value| ∧ |(Single.ofFloat v).value| < 10 ^ 31 := by
    rw [written.eq_thirty_iff, thirty_le_abs_value_iff]
  rw [text]
  refine ⟨⟨_, written.wellFormed, rfl, .inr rfl⟩, _,
    Spelling.readDecimal?_text written.wellFormed, ?_, fun from_thirty below =>
      written.nearest_shifted (thirty.mpr ⟨from_thirty, below⟩) rfl⟩
  rw [← thirty]
  exact ⟨fun back lost => written.nearest_decimal_ne lost back, written.nearest_decimal⟩

/-- A number whose exponent has no zero to lose. -/
theorem tenSextillion_reads_back :
    (Single.ofFloat 1e22).isFinite = true ∧ 10 ^ 21 <= |(Single.ofFloat 1e22).value| ∧
      IsFloatLiteral (literalText 1e22).toList ∧
      Exists fun decimal => readDecimal? (literalText 1e22).toList = some decimal ∧
        decimal.nearest .single = Single.ofFloat 1e22 := by
  have finite : (Single.ofFloat 1e22).isFinite = true := by decide +kernel
  have large : 10 ^ 21 <= |(Single.ofFloat 1e22).value| :=
    (limit_le_abs_value_iff _).mpr (by decide +kernel)
  have outside : ¬ (10 ^ 30 <= |(Single.ofFloat 1e22).value| ∧
      |(Single.ofFloat 1e22).value| < 10 ^ 31) := by
    rw [thirty_le_abs_value_iff]
    decide +kernel
  rcases large_literalText_reads_back_iff 1e22 finite large with ⟨float, decimal, read, back, _⟩
  exact ⟨finite, large, float, decimal, read, back.mpr outside⟩

/-- A number whose exponent loses a zero: the literal denotes no more than some thousand. -/
theorem nonillion_is_not_read_back :
    (Single.ofFloat 1e30).isFinite = true ∧ 10 ^ 21 <= |(Single.ofFloat 1e30).value| ∧
      literalText 1e30 = "1.0000000150474662e+3" ∧
      Exists fun decimal => readDecimal? (literalText 1e30).toList = some decimal ∧
        decimal.nearest .single ≠ Single.ofFloat 1e30 := by
  have text : literalText 1e30 = "1.0000000150474662e+3" := by decide +kernel
  refine ⟨by decide +kernel, (limit_le_abs_value_iff _).mpr (by decide +kernel), text,
    { negative := false, coefficient := 10000000150474662, exponent := -13 }, ?_, ?_⟩
  · rw [text]
    decide +kernel
  · decide +kernel

end Wgsl
end ParticleEffects
