import ParticleEffects.Number.Format

namespace ParticleEffects
namespace Number

/-!
The data of a binary format and their conversion into another one.

A datum keeps the sign of zero and has one value for what is not a number.
Conversion is exact up to one rounding to nearest, ties to even; the
floating-point type of the language enters only through its bit pattern.
-/

/-- A datum: not a number, or a sign with the pattern of a magnitude. -/
inductive Datum (format : Format) where
  | nan
  | signed (negative : Bool) (pattern : Fin (format.infinity + 1))
  deriving DecidableEq

namespace Datum

variable {format : Format}

/-- The datum of a magnitude given in steps as a fraction. -/
def ofSteps (format : Format) (negative : Bool) (numerator denominator : Nat) : Datum format :=
  .signed negative ⟨format.nearest numerator denominator,
    Nat.lt_succ_of_le (format.nearest_le_infinity _ _)⟩

def infinite (format : Format) (negative : Bool) : Datum format :=
  .signed negative (Fin.last format.infinity)

/-- Patterns above infinity are not numbers. -/
def ofBits (format : Format) (bits : Nat) : Datum format :=
  let pattern := bits % format.half
  if h : pattern <= format.infinity then
    .signed (decide (format.half <= bits)) ⟨pattern, Nat.lt_succ_of_le h⟩
  else
    .nan

/-- What is not a number has one encoding: the quiet one without a sign. -/
def bits : Datum format -> Nat
  | .nan => format.infinity + format.span / 2
  | .signed negative pattern => (if negative then format.half else 0) + pattern.val

def isFinite : Datum format -> Bool
  | .nan => false
  | .signed _ pattern => pattern.val < format.infinity

/-- The magnitude in steps; zero for what is not a number. -/
def steps : Datum format -> Nat
  | .nan => 0
  | .signed _ pattern => format.steps pattern.val

/-- Whether the datum is less than zero; negative zero is not. -/
def isBelowZero : Datum format -> Bool
  | .nan => false
  | .signed negative pattern => negative && pattern.val != 0

/-- The nearest datum of another format. -/
def convert (target : Format) : Datum format -> Datum target
  | .nan => .nan
  | .signed negative pattern =>
    if pattern.val < format.infinity then
      ofSteps target negative (format.steps pattern.val * target.unit) format.unit
    else
      infinite target negative

/-- The natural number the datum equals, if there is one.  Both zeros equal
zero. -/
def natural? (datum : Datum format) : Option Nat :=
  if datum.isFinite && !datum.isBelowZero && datum.steps % format.unit == 0 then
    some (datum.steps / format.unit)
  else
    none

def ofFloat (x : Float) : Datum .double := ofBits .double x.toBits.toNat

def toFloat (datum : Datum .double) : Float := Float.ofBits (UInt64.ofNat datum.bits)

end Datum

/-- A single-precision number. -/
abbrev Single := Datum .single

namespace Single

def ofFloat (x : Float) : Single := (Datum.ofFloat x).convert .single

/-- Every single is also a double. -/
def toFloat (x : Single) : Float := (x.convert .double).toFloat

end Single

/-- The natural number that a double equals, if there is one. -/
def natural? (x : Float) : Option Nat := (Datum.ofFloat x).natural?

end Number
end ParticleEffects
