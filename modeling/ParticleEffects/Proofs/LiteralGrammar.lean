import Mathlib.Tactic.TFAE
import ParticleEffects.Proofs.LargeLiteral

namespace ParticleEffects
namespace Number

/-!
The numbers that have a literal.

A shader knows decimal literals with a point, with an exponent or with a suffix for their
type.  The text of a number is one of them exactly as long as the number is finite in single
precision, and that ends halfway between the greatest single and the power of two after it:
the half is rounded to infinity, whose pattern is the even one.  From there on the text is a
word.
-/

open Float.Model

/-! ## Overflow -/

namespace Format

/-- The least number that is rounded to infinity. -/
def overflow : Nat := 2 ^ 128 - 2 ^ 103

theorem steps_add_steps_infinity :
    single.steps (single.infinity - 1) + single.steps single.infinity =
      2 * (overflow * single.unit) := by decide +kernel

theorem nearest_overflow : single.nearest (overflow * single.unit) 1 = single.infinity := by
  decide +kernel

theorem nearest_lt_infinity_iff {numerator denominator : Nat} (positive : 0 < denominator) :
    single.nearest numerator denominator < single.infinity ↔
      numerator < denominator * (overflow * single.unit) := by
  constructor
  · intro finite
    by_contra reached
    have placed : single.nearest (denominator * (overflow * single.unit)) (denominator * 1) <=
        single.nearest numerator (denominator * 1) :=
      nearest_mono (by omega) (Nat.not_lt.mp reached)
    rw [nearest_mul_left positive, nearest_overflow, Nat.mul_one] at placed
    omega
  · intro below
    by_contra infinite
    have placed : single.infinity <= single.place numerator denominator := by
      rw [nearest_eq_min] at infinite
      omega
    rcases Nat.exists_eq_add_of_le placed with ⟨beyond, place_eq⟩
    have some : 0 < single.infinity := by decide
    have midpoint := midpoint_place_le positive
      (show single.place numerator denominator = single.infinity - 1 + beyond + 1 by omega)
    have first : single.steps (single.infinity - 1) <=
        single.steps (single.infinity - 1 + beyond) :=
      steps_le_steps_iff.mpr (by omega)
    have second : single.steps single.infinity <=
        single.steps (single.infinity - 1 + beyond + 1) :=
      steps_le_steps_iff.mpr (by omega)
    have wider := Nat.mul_le_mul_right denominator (Nat.add_le_add first second)
    rw [steps_add_steps_infinity, Nat.mul_comm, Nat.mul_left_comm] at wider
    omega

end Format

namespace Datum

variable {format : Format}

/-- What is not finite is infinite or not a number. -/
theorem eq_infinite_of_not_finite {negative : Bool} {pattern : Fin (format.infinity + 1)}
    (notFinite : (Datum.signed negative pattern).isFinite = false) :
    Datum.signed negative pattern = .infinite format negative := by
  have reached : ¬ pattern.val < format.infinity := of_decide_eq_false notFinite
  exact congrArg (Datum.signed negative) (Fin.ext (by dsimp only [Fin.last]; omega))

theorem isFinite_infinite (format : Format) (negative : Bool) :
    (Datum.infinite format negative).isFinite = false :=
  decide_eq_false (Nat.lt_irrefl _)

theorem convert_infinite (format target : Format) (negative : Bool) :
    (Datum.infinite format negative).convert target = .infinite target negative := by
  unfold convert infinite
  exact if_neg (Nat.lt_irrefl format.infinity)

theorem isFinite_ofSteps_single_iff {negative : Bool} {numerator denominator : Nat}
    (positive : 0 < denominator) :
    (ofSteps .single negative numerator denominator).isFinite = true ↔
      numerator < denominator * (Format.overflow * Format.single.unit) :=
  decide_eq_true_iff.trans (Format.nearest_lt_infinity_iff positive)

/-- A double is finite in single precision if it is one below the overflow. -/
theorem isFinite_convert_single (datum : Datum .double) :
    (datum.convert .single).isFinite = true ↔
      datum.isFinite = true ∧ datum.steps < Format.overflow * Format.double.unit := by
  cases datum with
  | nan => exact iff_of_false Bool.false_ne_true fun finite => Bool.false_ne_true finite.1
  | signed negative pattern =>
    cases finite : (Datum.signed negative pattern).isFinite with
    | false =>
      rw [eq_infinite_of_not_finite finite]
      refine iff_of_false ?_ fun both => Bool.false_ne_true both.1
      rw [convert_infinite, isFinite_infinite]
      exact Bool.false_ne_true
    | true =>
      have converted : (Datum.signed negative pattern).convert .single =
          .ofSteps .single negative (Format.double.steps pattern.val * Format.single.unit)
            Format.double.unit := if_pos (of_decide_eq_true finite)
      rw [converted, isFinite_ofSteps_single_iff Format.double.unit_pos, ← Nat.mul_assoc,
        Nat.mul_lt_mul_right Format.single.unit_pos, Nat.mul_comm]
      exact ⟨fun below => ⟨rfl, below⟩, And.right⟩

end Datum

theorem isNaN_unpackedMagnitude (sign : UnpackedFloat.Sign) (pattern : Nat) :
    (unpackedMagnitude sign pattern).isNaN = false := by
  unfold unpackedMagnitude
  split
  · rfl
  · split <;> rfl

theorem isNaN_iff (x : Float) : x.isNaN = true ↔ Datum.ofFloat x = .nan := by
  have unpacked : x.isNaN = (Datum.ofFloat x).unpacked.isNaN :=
    congrArg UnpackedFloat.isNaN (unpack_eq_unpacked x)
  rw [unpacked]
  cases Datum.ofFloat x with
  | nan => exact iff_of_true rfl rfl
  | signed negative pattern =>
    rw [Datum.unpacked, isNaN_unpackedMagnitude]
    refine iff_of_false Bool.false_ne_true fun same => ?_
    cases same

namespace Single

theorem isFinite_ofFloat_iff (v : Float) :
    (Single.ofFloat v).isFinite = true ↔
      v.isFinite = true ∧ |(Datum.ofFloat v).value| < 2 ^ 128 - 2 ^ 103 := by
  have bound : ((Format.overflow : Nat) : Rat) = 2 ^ 128 - 2 ^ 103 := by
    norm_num [Format.overflow]
  rw [Single.ofFloat, Datum.isFinite_convert_single, isFinite_eq, ← Datum.abs_value_lt_iff, bound]

/-- What is a number overflows to the infinity with its sign. -/
theorem ofFloat_eq_infinite {v : Float} (overflows : (Single.ofFloat v).isFinite = false)
    (number : v.isNaN = false) :
    Single.ofFloat v = .infinite .single (decide (v < 0)) := by
  have sign : decide (v < 0) = (Datum.ofFloat v).isBelowZero := by
    rw [Bool.eq_iff_iff, decide_eq_true_iff]
    exact lt_zero_iff v
  rw [sign]
  unfold Single.ofFloat at overflows ⊢
  cases same : Datum.ofFloat v with
  | nan => rw [(isNaN_iff v).mpr same] at number; cases number
  | signed negative pattern =>
    rw [same] at overflows
    have some : pattern.val ≠ 0 := by
      intro zero
      have small : ((Datum.signed negative pattern).convert .single).isFinite = true := by
        rw [Datum.isFinite_convert_single, Datum.steps, zero, Format.steps_zero]
        exact ⟨decide_eq_true (zero ▸ by decide +kernel), by decide +kernel⟩
      rw [small] at overflows
      cases overflows
    rw [Datum.isBelowZero, bne_iff_ne.mpr some, Bool.and_true]
    unfold Datum.convert at overflows ⊢
    dsimp only at overflows ⊢
    split at overflows
    · rename_i finite
      rw [if_pos finite]
      exact Datum.eq_infinite_of_not_finite overflows
    · rename_i infinite
      rw [if_neg infinite]

theorem isFinite_iff_not_infinite (v : Float) :
    (Single.ofFloat v).isFinite = true ↔
      v.isNaN = false ∧ forall negative, Single.ofFloat v ≠ .infinite .single negative := by
  constructor
  · intro finite
    refine ⟨isNaN_of_isFinite ((isFinite_ofFloat_iff v).mp finite).1, fun negative same => ?_⟩
    rw [same, Datum.isFinite_infinite] at finite
    cases finite
  · rintro ⟨number, notInfinite⟩
    by_contra overflows
    exact notInfinite _ (ofFloat_eq_infinite (Bool.not_eq_true _ ▸ overflows) number)

end Single

end Number

namespace Wgsl

open Number

/-! ## The grammar -/

/-- One or more digits. -/
structure IsDigits (text : List Char) : Prop where
  nonempty : text ≠ []
  plain : OfDigits text

/-- An exponent behind its mark, with or without a sign. -/
inductive IsExponent : List Char -> Prop
  | unsigned {mark : Char} {digits : List Char} (isMark : isExponentMark mark = true)
      (digits_some : IsDigits digits) : IsExponent (mark :: digits)
  | signed {mark sign : Char} {digits : List Char} (isMark : isExponentMark mark = true)
      (isSign : sign = '+' ∨ sign = '-') (digits_some : IsDigits digits) :
      IsExponent (mark :: sign :: digits)

/-- The marks of single and half precision, either of which may be missing. -/
def typeSuffixes : List (List Char) := [[], ['f'], ['h']]

/-- A decimal floating-point literal of a shader.  Digits alone are a whole number; they
take a suffix, a point or an exponent to be another one. -/
inductive IsDecimalFloat : List Char -> Prop
  | suffixed {whole suffix : List Char} (digits : IsWholeText whole)
      (typed : suffix ∈ typeSuffixes) (given : suffix ≠ []) : IsDecimalFloat (whole ++ suffix)
  | point {whole fraction exponent suffix : List Char} (whole_digits : OfDigits whole)
      (fraction_digits : OfDigits fraction) (digits_some : whole ≠ [] ∨ fraction ≠ [])
      (scaled : exponent = [] ∨ IsExponent exponent) (typed : suffix ∈ typeSuffixes) :
      IsDecimalFloat ((whole ++ '.' :: fraction) ++ (exponent ++ suffix))
  | exponent {whole exponent suffix : List Char} (digits : IsDigits whole)
      (scaled : IsExponent exponent) (typed : suffix ∈ typeSuffixes) :
      IsDecimalFloat (whole ++ (exponent ++ suffix))

/-- A literal with or without a minus sign in front. -/
def IsSignedFloat (text : List Char) : Prop :=
  Exists fun negative => Exists fun number =>
    IsDecimalFloat number ∧ text = signText negative ++ number

theorem exists_cons_of_digits {whole : List Char} (nonempty : whole ≠ []) (plain : OfDigits whole)
    (rest : List Char) : Exists fun first => Exists fun others =>
      whole ++ rest = first :: others ∧ first.isDigit = true := by
  cases whole with
  | nil => exact absurd rfl nonempty
  | cons first others => exact ⟨first, others ++ rest, rfl, plain first List.mem_cons_self⟩

/-- A literal begins with a digit or with its point. -/
theorem IsDecimalFloat.exists_cons {text : List Char} (float : IsDecimalFloat text) :
    Exists fun first => Exists fun others =>
      text = first :: others ∧ (first.isDigit = true ∨ first = '.') := by
  cases float with
  | suffixed digits =>
    rcases exists_cons_of_digits digits.nonempty digits.plain _ with ⟨first, others, same, digit⟩
    exact ⟨first, others, same, .inl digit⟩
  | @point whole _ _ _ whole_digits =>
    rcases eq_or_ne whole [] with rfl | nonempty
    · exact ⟨'.', _, rfl, .inr rfl⟩
    · rw [List.append_assoc]
      rcases exists_cons_of_digits nonempty whole_digits _ with ⟨first, others, same, digit⟩
      exact ⟨first, others, same, .inl digit⟩
  | exponent digits =>
    rcases exists_cons_of_digits digits.nonempty digits.plain _ with ⟨first, others, same, digit⟩
    exact ⟨first, others, same, .inl digit⟩

/-- What begins otherwise is no literal. -/
theorem not_isSignedFloat {negative : Bool} {first : Char} {others : List Char}
    (notDigit : first.isDigit = false) (notMark : first ∉ ['.', '-']) :
    ¬ IsSignedFloat (signText negative ++ first :: others) := by
  rintro ⟨negative', number, float, same⟩
  rcases float.exists_cons with ⟨first', others', rfl, digit⟩
  have notMinus : first' ≠ '-' := by
    rintro rfl
    exact digit.elim (fun minus => nomatch minus) (fun minus => nomatch minus)
  have equal : first = first' := by
    cases negative <;> cases negative'
    · exact (List.cons.inj same).1
    · exact absurd (List.cons.inj same).1 fun minus => notMark (minus ▸ List.mem_of_getLast? rfl)
    · exact absurd (List.cons.inj same).1.symm notMinus
    · exact (List.cons.inj (List.cons.inj same).2).1
  subst equal
  rcases digit with digit | rfl
  · rw [notDigit] at digit
    cases digit
  · exact notMark (by decide)

theorem isExponent_exponentText {spelling : Spelling} (wellFormed : spelling.WellFormed) :
    spelling.exponent? = none ∧ spelling.exponentText = [] ∨ IsExponent spelling.exponentText := by
  unfold Spelling.exponentText
  cases found : spelling.exponent? with
  | none => exact .inl ⟨rfl, rfl⟩
  | some exponent =>
    rcases exponent with ⟨negative, digits⟩
    have digits_some := wellFormed.exponent_digits negative digits found
    refine .inr (.signed (by decide) ?_ ⟨digits_some.1, digits_some.2⟩)
    cases negative
    · exact .inl rfl
    · exact .inr rfl

/-- What is spelled out with a point, an exponent or both is a literal. -/
theorem IsFloatLiteral.isSignedFloat {text : List Char} (literal : IsFloatLiteral text) :
    IsSignedFloat text := by
  rcases literal with ⟨spelling, wellFormed, rfl, marked⟩
  refine ⟨spelling.negative, _, ?_, rfl⟩
  have scaled := isExponent_exponentText wellFormed
  rw [← List.append_nil spelling.exponentText, Spelling.fractionText]
  cases fraction : spelling.fraction? with
  | some digits =>
    have plain := wellFormed.fraction_digits
    rw [Spelling.fractionDigits, fraction] at plain
    exact .point wellFormed.whole_digits plain (.inl wellFormed.whole_ne_nil)
      (scaled.imp_left And.right) (by decide)
  | none =>
    rw [fraction] at marked
    have given : IsExponent spelling.exponentText := by
      refine scaled.resolve_left fun missing => ?_
      rw [missing.1] at marked
      exact marked.elim Bool.false_ne_true Bool.false_ne_true
    dsimp only
    rw [List.append_nil spelling.whole]
    exact .exponent ⟨wellFormed.whole_ne_nil, wellFormed.whole_digits⟩ given (by decide)

/-! ## Literals and words -/

/-- A literal of a finite number. -/
theorem isFloatLiteral_literal {x : Single} (finite : x.isFinite = true) :
    IsFloatLiteral (literal x) := by
  rcases Nat.lt_or_ge x.steps (fixedLimit * Format.single.unit) with small | large
  · rw [literal_eq_fixedSpelling finite small]
    exact ⟨_, wellFormed_fixedSpelling _ _ _, rfl, .inl rfl⟩
  · rcases exists_isWrittenWith finite large with ⟨_, _, _, _, written⟩
    rw [written.literal_eq]
    exact ⟨_, written.wellFormed, rfl, .inr rfl⟩

theorem literal_infinite (negative : Bool) :
    literal (.infinite .single negative) = signText negative ++ "Infinity".toList := by
  cases negative <;> decide +kernel

def isWordStart (c : Char) : Bool := c.isAlpha || c == '_'

def isWordCharacter (c : Char) : Bool := c.isAlphanum || c == '_'

/-- The words that have a meaning of their own in a shader. -/
def keywords : List String :=
  ["alias", "break", "case", "const", "const_assert", "continue", "continuing", "default",
    "diagnostic", "discard", "else", "enable", "false", "fn", "for", "if", "let", "loop",
    "override", "requires", "return", "struct", "switch", "true", "var", "while"]

/-- Whether a text is a word that can name something; only the letters of the alphabet are
taken into account. -/
def isIdentifier (text : List Char) : Bool :=
  match text with
  | [] => false
  | first :: rest => isWordStart first && rest.all isWordCharacter &&
      !keywords.contains (String.ofList text) && text != ['_'] && text.take 2 != ['_', '_']

/-- The word for what is not finite. -/
def nonFiniteWord (v : Float) : String := if v.isNaN then "NaN" else "Infinity"

theorem isIdentifier_nonFiniteWord (v : Float) : isIdentifier (nonFiniteWord v).toList = true := by
  unfold nonFiniteWord
  split <;> decide +kernel

theorem not_isSignedFloat_nonFiniteWord (negative : Bool) (v : Float) :
    ¬ IsSignedFloat (signText negative ++ (nonFiniteWord v).toList) := by
  unfold nonFiniteWord
  split <;> exact not_isSignedFloat (by decide) (by decide)

theorem literalText_of_not_finite {v : Float} (overflows : (Single.ofFloat v).isFinite = false) :
    (literalText v).toList = signText (decide (v < 0)) ++ (nonFiniteWord v).toList := by
  rw [literalText, String.toList_ofList, nonFiniteWord]
  cases number : v.isNaN with
  | true =>
    have datum := (isNaN_iff v).mp number
    have notBelow : decide (v < 0) = false := by
      rw [decide_eq_false_iff_not, lt_zero_iff, datum]
      exact Bool.false_ne_true
    rw [notBelow, Single.ofFloat, datum]
    rfl
  | false =>
    rw [Single.ofFloat_eq_infinite overflows number, literal_infinite]
    rfl

/-- Only what is finite in single precision has a literal. -/
theorem isFinite_of_isSignedFloat {v : Float} (float : IsSignedFloat (literalText v).toList) :
    (Single.ofFloat v).isFinite = true := by
  by_contra overflows
  rw [literalText_of_not_finite (Bool.not_eq_true _ ▸ overflows)] at float
  exact not_isSignedFloat_nonFiniteWord _ v float

/-- Exactly the numbers below the overflow of single precision have a literal, and it is
never a whole number nor has it a suffix.  The others are written as a word, which a minus
sign stands before if they are negative. -/
theorem literalText_isSignedFloat_iff (v : Float) :
    [IsSignedFloat (literalText v).toList,
      IsFloatLiteral (literalText v).toList,
      v.isFinite = true ∧ |(Datum.ofFloat v).value| < 2 ^ 128 - 2 ^ 103,
      v.isNaN = false ∧ forall negative, Single.ofFloat v ≠ .infinite .single negative].TFAE ∧
    (¬ IsSignedFloat (literalText v).toList ->
      (literalText v).toList = signText (decide (v < 0)) ++ (nonFiniteWord v).toList ∧
        isIdentifier (nonFiniteWord v).toList = true) := by
  have literal_of_finite (finite : (Single.ofFloat v).isFinite = true) :
      IsFloatLiteral (literalText v).toList := by
    rw [literalText, String.toList_ofList]
    exact isFloatLiteral_literal finite
  refine ⟨?_, fun noLiteral => ⟨literalText_of_not_finite ?_, isIdentifier_nonFiniteWord v⟩⟩
  · tfae_have 1 → 3 := fun float =>
      (Single.isFinite_ofFloat_iff v).mp (isFinite_of_isSignedFloat float)
    tfae_have 3 → 2 := fun below => literal_of_finite ((Single.isFinite_ofFloat_iff v).mpr below)
    tfae_have 2 → 1 := IsFloatLiteral.isSignedFloat
    tfae_have 3 ↔ 4 := (Single.isFinite_ofFloat_iff v).symm.trans
      (Single.isFinite_iff_not_infinite v)
    tfae_finish
  · by_contra finite
    exact noLiteral (literal_of_finite (Bool.not_eq_false _ ▸ finite)).isSignedFloat

/-- The half between the greatest single and the power of two after it is written as a
word. -/
theorem overflow_is_written_as_word :
    ¬ IsSignedFloat (literalText (-3.4028235677973366e38)).toList ∧
      (literalText (-3.4028235677973366e38)).toList = "-Infinity".toList := by
  have infinite : Single.ofFloat (-3.4028235677973366e38) = .infinite .single true := by
    decide +kernel
  have float_iff : IsSignedFloat (literalText (-3.4028235677973366e38)).toList ↔
      (-3.4028235677973366e38 : Float).isNaN = false ∧ forall negative,
        Single.ofFloat (-3.4028235677973366e38) ≠ .infinite .single negative :=
    (literalText_isSignedFloat_iff (-3.4028235677973366e38)).1.out 0 3
  have noLiteral : ¬ IsSignedFloat (literalText (-3.4028235677973366e38)).toList :=
    fun float => (float_iff.mp float).2 true infinite
  refine ⟨noLiteral, ?_⟩
  rw [((literalText_isSignedFloat_iff (-3.4028235677973366e38)).2 noLiteral).1]
  decide +kernel

/-- The double before it still has a literal. -/
example : literalText 3.4028235677973362e38 = "3.4028234663852886e+38" := by decide +kernel

end Wgsl
end ParticleEffects
