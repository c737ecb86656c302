import ParticleEffects.Wgsl.Literal

namespace ParticleEffects
namespace Wgsl

/-!
The characters of a literal.

Whatever number is written, finite or not, its literal has only digits, letters, points
and signs.  None of them separates the parts of an expression, so that a literal can be
told from what follows it.
-/

open Number

/-- A character that literals are written with. -/
def isLiteralCharacter (character : Char) : Bool :=
  character.isAlphanum || character == '.' || character == '-' || character == '+'

/-- A text that is written with such characters only. -/
def OfLiteral (text : List Char) : Prop :=
  forall character, character ∈ text -> isLiteralCharacter character = true

namespace OfLiteral

theorem append {text rest : List Char} (first : OfLiteral text) (second : OfLiteral rest) :
    OfLiteral (text ++ rest) :=
  List.forall_mem_append.mpr ⟨first, second⟩

theorem cons {character : Char} {rest : List Char} (first : isLiteralCharacter character = true)
    (second : OfLiteral rest) : OfLiteral (character :: rest) :=
  List.forall_mem_cons.mpr ⟨first, second⟩

theorem nil : OfLiteral [] := fun _ member => absurd member List.not_mem_nil

/-- A word that is given can be looked through. -/
theorem word {text : List Char} (plain : text.all isLiteralCharacter = true) : OfLiteral text :=
  List.all_eq_true.mp plain

/-- Leaving out characters does no harm. -/
theorem sublist {text whole : List Char} (within : OfLiteral whole) (part : text.Sublist whole) :
    OfLiteral text :=
  fun character member => within character (part.subset member)

theorem replicate {character : Char} (plain : isLiteralCharacter character = true) (count : Nat) :
    OfLiteral (List.replicate count character) := by
  intro copied member
  rw [List.eq_of_mem_replicate member]
  exact plain

theorem toDigits (n : Nat) : OfLiteral (Nat.toDigits 10 n) := by
  intro character member
  have digit := Nat.isDigit_of_mem_toDigits (by decide) (Nat.le_refl 10) member
  simp [isLiteralCharacter, Char.isAlphanum, digit]

theorem dropTrailingZeros {text : List Char} (whole : OfLiteral text) :
    OfLiteral (Number.dropTrailingZeros text) := by
  refine whole.sublist ?_
  have part := (List.dropWhile_sublist (· == '0') (l := text.reverse)).reverse
  rwa [List.reverse_reverse] at part

theorem fixedPoint (places n : Nat) : OfLiteral (Wgsl.fixedPoint places n) := by
  refine (toDigits _).append (cons (by decide) ?_)
  rw [List.leftpad]
  exact (replicate (by decide) _).append (toDigits _)

end OfLiteral

/-! ## Large magnitudes -/

theorem ofLiteral_shortest (format : Format) (pattern : Nat) :
    OfLiteral (shortest format pattern).digits := by
  unfold shortest
  cases found : (List.range 17).findSome? fun (count : Nat) =>
      let exponent := leadingPoint (format.steps pattern) format.unit - (count + 1 : Nat)
      (coefficient? format pattern exponent).map fun coefficient =>
        let digits := Nat.toDigits 10 coefficient
        { digits := dropTrailingZeros digits
          point := exponent + digits.length : Scientific } with
  | none =>
    simp only [found, Option.getD_none]
    exact .nil
  | some number =>
    simp only [found, Option.getD_some]
    rcases List.exists_of_findSome?_eq_some found with ⟨count, _, read⟩
    rcases Option.map_eq_some_iff.mp read with ⟨coefficient, _, rfl⟩
    exact (OfLiteral.toDigits coefficient).dropTrailingZeros

theorem ofLiteral_exponentText (exponent : Int) :
    OfLiteral (Scientific.exponentText exponent) := by
  refine .cons (by decide) (.cons ?_ (.toDigits _))
  split <;> decide

/-- The digits after a point, with the point where there are any. -/
theorem ofLiteral_fraction {digits : List Char} (plain : OfLiteral digits) :
    OfLiteral (if digits.isEmpty then [] else '.' :: digits) := by
  split
  · exact .nil
  · exact .cons (by decide) plain

theorem ofLiteral_scientific {number : Scientific} (plain : OfLiteral number.digits)
    (range : PositionalRange) : OfLiteral (number.text range) := by
  have front (count : Nat) : OfLiteral (number.digits.take count) :=
    plain.sublist (List.take_sublist _ _)
  have back (count : Nat) : OfLiteral (number.digits.drop count) :=
    plain.sublist (List.drop_sublist _ _)
  unfold Scientific.text
  dsimp only
  split
  · split
    · exact .cons (by decide) (.cons (by decide) ((OfLiteral.replicate (by decide) _).append plain))
    · exact ((front _).append (.replicate (by decide) _)).append (ofLiteral_fraction (back _))
  · exact ((front _).append (ofLiteral_fraction (back _))).append (ofLiteral_exponentText _)

theorem ofLiteral_magnitudeText (format : Format) (pattern : Nat) :
    OfLiteral (magnitudeText format pattern) := by
  unfold magnitudeText
  split
  · exact .word (by decide)
  · split
    · exact ofLiteral_scientific (ofLiteral_shortest format pattern) _
    · exact .word (by decide)

/-! ## Literals -/

/-- The literal of a number that is a single already. -/
def singleText (x : Single) : String := String.ofList (literal x)

theorem ofLiteral_literalMagnitude (x : Single) : OfLiteral (literalMagnitude x) := by
  unfold literalMagnitude
  split
  · exact .fixedPoint _ _
  · split
    · exact .nil
    · exact ofLiteral_magnitudeText _ _

/-- Every number is written with the characters of literals. -/
theorem ofLiteral_literal (x : Single) : OfLiteral (literal x) := by
  cases x with
  | nan => exact .word (by decide)
  | signed negative pattern =>
    refine OfLiteral.append ?_ (ofLiteral_literalMagnitude _).dropTrailingZeros
    split
    · exact .word (by decide)
    · exact .nil

end Wgsl
end ParticleEffects
