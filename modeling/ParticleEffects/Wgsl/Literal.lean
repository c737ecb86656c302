import ParticleEffects.Number.Shortest

namespace ParticleEffects
namespace Wgsl

/-!
The literal of a single-precision number in shader source.

A literal is the decimal of six places nearest to the number, a half going away
from zero, without the zeros it ends in; the point always stays.  From `10 ^ 21`
on the digits are the shortest ones that identify the number, and what is not
finite is written by its name, which a shader reads as an identifier.
-/

open Number

/-- The decimal places a literal is rounded to. -/
def literalPlaces : Nat := 6

/-- The magnitude from which a literal is no longer written in fixed places. -/
def fixedLimit : Nat := Nat.pow 10 21

/-- The decimal `n / 10 ^ places` with all its places. -/
def fixedPoint (places n : Nat) : List Char :=
  Nat.toDigits 10 (n / Nat.pow 10 places)
    ++ '.' :: (Nat.toDigits 10 (n % Nat.pow 10 places)).leftpad places '0'

/-- The magnitude in units of the last literal place. -/
def roundedPlaces (x : Single) : Nat :=
  roundDiv (x.steps * Nat.pow 10 literalPlaces) Format.single.unit .up

def literalMagnitude (x : Single) : List Char :=
  if x.steps < fixedLimit * Format.single.unit then fixedPoint literalPlaces (roundedPlaces x)
  else
    match x.convert .double with
    | .nan => []
    | .signed _ pattern => magnitudeText .double pattern.val

/-- A negative number keeps its sign even where its digits are all zero, and
zero has none. -/
def literal (x : Single) : List Char :=
  match x with
  | .nan => "NaN".toList
  | .signed .. =>
    (if x.isBelowZero then ['-'] else []) ++ dropTrailingZeros (literalMagnitude x)

/-- The literal of a double, rounded to single precision first. -/
def literalText (x : Float) : String := String.ofList (literal (Single.ofFloat x))

end Wgsl
end ParticleEffects
