import ParticleEffects.Number.Datum

namespace ParticleEffects
namespace Number

/-!
The order of floating-point numbers.

Numbers are compared by their sign, then by their exponent and then by their
mantissa, in reverse below zero.  What is not a number has no place in the order;
all others have one, so that they can be compared with each other.  The two zeros
have the same place, and numbers are equal if each of them is at most the other.
-/

open Float.Model

/-- The place of a number in the order. -/
structure Rank where
  /-- Negative, zero and positive numbers, with the infinities outermost. -/
  tier : Int
  exponent : Int
  mantissa : Int

namespace Rank

/-- The lexicographic order. -/
def AtMost (first second : Rank) : Prop :=
  first.tier < second.tier ∨ first.tier = second.tier ∧
    (first.exponent < second.exponent ∨ first.exponent = second.exponent ∧
      first.mantissa <= second.mantissa)

theorem AtMost.total (first second : Rank) : first.AtMost second ∨ second.AtMost first := by
  unfold AtMost
  omega

theorem AtMost.trans {first second third : Rank} (lower : first.AtMost second)
    (upper : second.AtMost third) : first.AtMost third := by
  unfold AtMost at *
  omega

/-- The rank of a number, unless it is none. -/
def of? : UnpackedFloat -> Option Rank
  | .notANumber => none
  | .infinity .positive => some { tier := 2, exponent := 0, mantissa := 0 }
  | .infinity .negative => some { tier := -2, exponent := 0, mantissa := 0 }
  | .zero _ => some { tier := 0, exponent := 0, mantissa := 0 }
  | .finite .positive mantissa exponent _ =>
    some { tier := 1, exponent := exponent, mantissa := mantissa }
  | .finite .negative mantissa exponent _ =>
    some { tier := -1, exponent := -exponent, mantissa := -mantissa }

theorem exists_of? {x : UnpackedFloat} (comparable : x.isNaN = false) :
    Exists fun rank => of? x = some rank := by
  cases x with
  | notANumber => cases comparable
  | zero sign => exact ⟨_, rfl⟩
  | infinity sign => cases sign <;> exact ⟨_, rfl⟩
  | finite sign mantissa exponent positive => cases sign <;> exact ⟨_, rfl⟩

private theorem isLE_lexicographic (exponent exponent' : Int) (mantissa mantissa' : Nat) :
    ((compare exponent exponent').then (compare mantissa mantissa')).isLE = true ↔
      exponent < exponent' ∨ exponent = exponent' ∧ mantissa <= mantissa' := by
  rw [Ordering.isLE_then_iff_or, Std.compare_eq_lt, Std.LawfulEqOrd.compare_eq_iff_eq,
    Nat.isLE_compare]

private theorem isGE_lexicographic (exponent exponent' : Int) (mantissa mantissa' : Nat) :
    ((compare exponent exponent').then (compare mantissa mantissa')).isGE = true ↔
      exponent' < exponent ∨ exponent = exponent' ∧ mantissa' <= mantissa := by
  rw [← Ordering.isLE_swap, Ordering.swap_then, ← Std.OrientedOrd.eq_swap,
    ← Std.OrientedOrd.eq_swap, isLE_lexicographic, eq_comm]

theorem le_iff (x y : UnpackedFloat) :
    x.le y = true ↔ Exists fun first => Exists fun second =>
      of? x = some first ∧ of? y = some second ∧ first.AtMost second := by
  rcases x with ⟨_ | _⟩ | _ | _ | ⟨_ | _, mantissa, exponent, _⟩ <;>
    rcases y with ⟨_ | _⟩ | _ | _ | ⟨_ | _, mantissa', exponent', _⟩ <;>
    dsimp only [UnpackedFloat.le, UnpackedFloat.compare, of?] <;>
    simp [AtMost, isLE_lexicographic, isGE_lexicographic] <;>
    rfl

end Rank

theorem le_iff_unpack (x y : Float) : x <= y ↔ x.toModel.unpack.le y.toModel.unpack = true :=
  decide_eq_true_iff (p := x.toModel <= y.toModel)

theorem lt_iff_unpack (x y : Float) : x < y ↔ x.toModel.unpack.lt y.toModel.unpack = true :=
  decide_eq_true_iff (p := x.toModel < y.toModel)

theorem beq_eq_compare (x y : Float) :
    (x == y) = (x.toModel.unpack.compare y.toModel.unpack == some .eq) := rfl

theorem le_iff (x y : Float) :
    x <= y ↔ Exists fun first => Exists fun second =>
      Rank.of? x.toModel.unpack = some first ∧ Rank.of? y.toModel.unpack = some second ∧
        first.AtMost second :=
  (le_iff_unpack x y).trans (Rank.le_iff _ _)

theorem compare_swap (x y : UnpackedFloat) :
    y.compare x = (x.compare y).map Ordering.swap := by
  rcases x with ⟨_ | _⟩ | _ | _ | ⟨_ | _, mantissa, exponent, _⟩ <;>
    rcases y with ⟨_ | _⟩ | _ | _ | ⟨_ | _, mantissa', exponent', _⟩ <;>
    dsimp only [UnpackedFloat.compare] <;>
    simp only [Option.map_some, Option.map_none, Ordering.swap_then, ← Std.OrientedOrd.eq_swap] <;>
    rfl

theorem beq_iff (x y : Float) : (x == y) = true ↔ x <= y ∧ y <= x := by
  rw [le_iff_unpack, le_iff_unpack, beq_eq_compare, UnpackedFloat.le, UnpackedFloat.le,
    compare_swap x.toModel.unpack y.toModel.unpack]
  cases x.toModel.unpack.compare y.toModel.unpack with
  | none => decide
  | some ordering => cases ordering <;> decide

theorem lt_iff (x y : Float) : x < y ↔ x <= y ∧ ¬ y <= x := by
  rw [le_iff_unpack, le_iff_unpack, lt_iff_unpack, UnpackedFloat.le, UnpackedFloat.le,
    UnpackedFloat.lt, compare_swap x.toModel.unpack y.toModel.unpack]
  cases x.toModel.unpack.compare y.toModel.unpack with
  | none => decide
  | some ordering => cases ordering <;> decide

instance lawfulOrderLT : Std.LawfulOrderLT Float := ⟨lt_iff⟩

theorem le_refl {x : Float} (comparable : x.isNaN = false) : x <= x := by
  rcases Rank.exists_of? comparable with ⟨rank, found⟩
  exact (le_iff x x).mpr ⟨rank, rank, found, found, (Rank.AtMost.total rank rank).elim id id⟩

/-- What is not a number is not compared. -/
theorem beq_self {x : Float} (number : x.isNaN = false) : (x == x) = true :=
  (beq_iff x x).mpr ⟨le_refl number, le_refl number⟩

theorem isNaN_of_le {x y : Float} (less : x <= y) : x.isNaN = false ∧ y.isNaN = false := by
  have comparable (z : Float) {rank : Rank} (found : Rank.of? z.toModel.unpack = some rank) :
      z.isNaN = false := by
    show z.toModel.unpack.isNaN = false
    cases shape : z.toModel.unpack with
    | notANumber =>
      rw [shape] at found
      cases found
    | _ => rfl
  rcases (le_iff x y).mp less with ⟨_, _, found, found', _⟩
  exact ⟨comparable x found, comparable y found'⟩

theorem le_total {x y : Float} (first : x.isNaN = false) (second : y.isNaN = false) :
    x <= y ∨ y <= x := by
  rcases Rank.exists_of? first with ⟨rank, found⟩
  rcases Rank.exists_of? second with ⟨rank', found'⟩
  rcases Rank.AtMost.total rank rank' with lower | upper
  · exact .inl ((le_iff x y).mpr ⟨rank, rank', found, found', lower⟩)
  · exact .inr ((le_iff y x).mpr ⟨rank', rank, found', found, upper⟩)

/-- Numbers can be compared, and nothing else can. -/
theorem not_le_and_not_le_iff (x y : Float) :
    ¬ x <= y ∧ ¬ y <= x ↔ x.isNaN = true ∨ y.isNaN = true := by
  constructor
  · rintro ⟨above, below⟩
    cases number : x.isNaN with
    | true => exact .inl rfl
    | false =>
      cases number' : y.isNaN with
      | true => exact .inr rfl
      | false => exact ((le_total number number').elim above below).elim
  · intro missing
    constructor
    · intro comparable
      rw [(isNaN_of_le comparable).1, (isNaN_of_le comparable).2] at missing
      exact missing.elim Bool.false_ne_true Bool.false_ne_true
    · intro comparable
      rw [(isNaN_of_le comparable).1, (isNaN_of_le comparable).2] at missing
      exact missing.elim Bool.false_ne_true Bool.false_ne_true

theorem le_trans {x y z : Float} (lower : x <= y) (upper : y <= z) : x <= z := by
  rcases (le_iff x y).mp lower with ⟨first, second, foundFirst, foundSecond, below⟩
  rcases (le_iff y z).mp upper with ⟨second', third, foundSecond', foundThird, above⟩
  obtain rfl : second = second' := Option.some.inj (foundSecond.symm.trans foundSecond')
  exact (le_iff x z).mpr ⟨first, third, foundFirst, foundThird, below.trans above⟩

end Number
end ParticleEffects
