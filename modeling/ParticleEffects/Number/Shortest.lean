import ParticleEffects.Number.Datum

namespace ParticleEffects
namespace Number

/-!
The shortest decimal that reads back, and the text of a number built from it.

For one digit, two digits and so on, the two neighbours of the number on that
decimal grid are rounded back into the format; the first grid with a neighbour
that returns to the number gives the digits, and of two such neighbours the
nearer one wins.  Seventeen digits always suffice for doubles.
-/

/-- A positive decimal `0.digits * 10 ^ point`. -/
structure Scientific where
  digits : List Char
  point : Int

/-- A text without the zeros it ends in. -/
def dropTrailingZeros (text : List Char) : List Char :=
  (text.reverse.dropWhile (· == '0')).reverse

/-- The number of decimal digits, none for zero. -/
def digitCount (n : Nat) : Nat := if n = 0 then 0 else (Nat.toDigits 10 n).length

/-- The place of the leading digit of a positive fraction: the `point` with
`10 ^ (point - 1) <= numerator / denominator < 10 ^ point`. -/
def leadingPoint (numerator denominator : Nat) : Int :=
  if denominator <= numerator then
    digitCount (numerator / denominator)
  else
    1 - (digitCount ((denominator - 1) / numerator) : Int)

/-- A fraction that equals `coefficient * 10 ^ exponent`. -/
def powerFraction (coefficient : Nat) (exponent : Int) : Nat × Nat :=
  if 0 <= exponent then (coefficient * Nat.pow 10 exponent.toNat, 1)
  else (coefficient, Nat.pow 10 (-exponent).toNat)

/-- Whether `coefficient * 10 ^ exponent` rounds to the pattern. -/
def readsBack (format : Format) (pattern coefficient : Nat) (exponent : Int) : Bool :=
  let (numerator, denominator) := powerFraction coefficient exponent
  format.nearest (numerator * format.unit) denominator == pattern

/-- The two neighbours of a fraction among the natural numbers, the nearer one
first. -/
def neighbours (numerator denominator : Nat) : List Nat :=
  let below := numerator / denominator
  if roundDiv numerator denominator .toEven = below then [below, below + 1]
  else [below + 1, below]

/-- The neighbour of a pattern on the grid `10 ^ exponent` that reads back. -/
def coefficient? (format : Format) (pattern : Nat) (exponent : Int) : Option Nat :=
  let (scale, places) := powerFraction 1 exponent
  (neighbours (format.steps pattern * places) (format.unit * scale)).find?
    (readsBack format pattern · exponent)

def shortest (format : Format) (pattern : Nat) : Scientific :=
  let point := leadingPoint (format.steps pattern) format.unit
  let found := (List.range 17).findSome? fun (count : Nat) =>
    let exponent := point - (count + 1 : Nat)
    (coefficient? format pattern exponent).map fun coefficient =>
      let digits := Nat.toDigits 10 coefficient
      { digits := dropTrailingZeros digits, point := exponent + digits.length : Scientific }
  found.getD { digits := [], point := point }

/-- The places of the leading digit for which a number is written without an
exponent. -/
structure PositionalRange where
  lowest : Int
  highest : Int

namespace Scientific

def exponentText (exponent : Int) : List Char :=
  'e' :: (if exponent < 0 then '-' else '+') :: Nat.toDigits 10 exponent.natAbs

def text (range : PositionalRange) (number : Scientific) : List Char :=
  let point := number.point
  if range.lowest <= point && point <= range.highest then
    if point <= 0 then
      '0' :: '.' :: (List.replicate (-point).toNat '0' ++ number.digits)
    else
      let whole := number.digits.take point.toNat
      let fraction := number.digits.drop point.toNat
      let padding := List.replicate (point.toNat - number.digits.length) '0'
      whole ++ padding ++ (if fraction.isEmpty then [] else '.' :: fraction)
  else
    let fraction := number.digits.drop 1
    number.digits.take 1 ++ (if fraction.isEmpty then [] else '.' :: fraction)
      ++ exponentText (point - 1)

end Scientific

/-- Numbers are written without an exponent from a millionth up to below
`10 ^ 21`. -/
def plainRange : PositionalRange := { lowest := -5, highest := 21 }

/-- The text of a magnitude; zero has no leading digit of its own. -/
def magnitudeText (format : Format) (pattern : Nat) : List Char :=
  if pattern = 0 then ['0']
  else if pattern < format.infinity then (shortest format pattern).text plainRange
  else "Infinity".toList

def Datum.text {format : Format} : Datum format -> String
  | .nan => "NaN"
  | .signed negative pattern =>
    String.ofList ((if negative && pattern.val != 0 then ['-'] else [])
      ++ magnitudeText format pattern.val)

/-- The text of a double in messages. -/
def text (x : Float) : String := (Datum.ofFloat x).text

end Number
end ParticleEffects
