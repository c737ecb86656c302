import ParticleEffects.Number.Shortest

namespace ParticleEffects
namespace Number

/-!
The number that a text spells.

Blanks around a number do not count, and nothing but blanks spells zero.  A
number is a decimal whose sign, point and exponent may each be missing, or a
whole number in base sixteen, eight or two behind its mark.  A decimal is kept
exactly and rounded once, when a datum is asked for.
-/

/-- The number `coefficient * 10 ^ exponent`, with a sign. -/
structure Decimal where
  negative : Bool
  coefficient : Nat
  exponent : Int
  deriving DecidableEq

namespace Decimal

def ofNat (n : Nat) : Decimal := { negative := false, coefficient := n, exponent := 0 }

/-- A place of the leading digit beyond which, on either side of the point, every
decimal rounds to infinity or to zero. -/
def reach : Int := 400

/-- The double nearest to a decimal. -/
def datum (decimal : Decimal) : Datum .double :=
  let leading := digitCount decimal.coefficient + decimal.exponent
  if decimal.coefficient = 0 || leading < -reach then
    .ofSteps .double decimal.negative 0 1
  else if reach < leading then
    .infinite .double decimal.negative
  else
    let (numerator, denominator) := powerFraction decimal.coefficient decimal.exponent
    .ofSteps .double decimal.negative (numerator * Format.double.unit) denominator

end Decimal

/-- The characters that may stand around a number: blanks, line ends and the mark
of the byte order. -/
def isBlank (c : Char) : Bool :=
  let n := c.toNat
  (9 <= n && n <= 13) || n == 0x20 || n == 0xA0 || n == 0x1680 || (0x2000 <= n && n <= 0x200A)
    || n == 0x2028 || n == 0x2029 || n == 0x202F || n == 0x205F || n == 0x3000 || n == 0xFEFF

def dropBlanks (text : List Char) : List Char :=
  ((text.dropWhile isBlank).reverse.dropWhile isBlank).reverse

/-- The value of a digit; letters of either case follow the nine. -/
def digitValue? (base : Nat) (c : Char) : Option Nat :=
  let value? :=
    if c.isDigit then some (c.toNat - 48)
    else if 'a' <= c && c <= 'z' then some (c.toNat - 87)
    else if 'A' <= c && c <= 'Z' then some (c.toNat - 55)
    else none
  value?.filter (· < base)

/-- The natural number that one or more digits spell. -/
def readNatural? (base : Nat) (digits : List Char) : Option Nat :=
  if digits.isEmpty then none
  else digits.foldlM (fun n c => (digitValue? base c).map (n * base + ·)) 0

/-- Whether a text begins with a minus sign, and the text without its sign. -/
def splitSign : List Char -> Bool × List Char
  | '-' :: rest => (true, rest)
  | '+' :: rest => (false, rest)
  | text => (false, text)

def isExponentMark (c : Char) : Bool := c == 'e' || c == 'E'

/-- The exponent behind its mark; none at all is zero. -/
def readExponent? : List Char -> Option Int
  | [] => some 0
  | _ :: rest =>
    let (negative, digits) := splitSign rest
    (readNatural? 10 digits).map fun n => if negative then -(n : Int) else n

def readDecimal? (text : List Char) : Option Decimal := do
  let (negative, text) := splitSign text
  let mantissa := text.takeWhile (!isExponentMark ·)
  let whole := mantissa.takeWhile (· != '.')
  let fraction := (mantissa.dropWhile (· != '.')).drop 1
  let coefficient <- readNatural? 10 (whole ++ fraction)
  let exponent <- readExponent? (text.dropWhile (!isExponentMark ·))
  return { negative := negative, coefficient := coefficient, exponent := exponent - fraction.length }

/-- The number a text spells; a number in another base has no sign. -/
def readNumber? (text : List Char) : Option Decimal :=
  match dropBlanks text with
  | [] => some (.ofNat 0)
  | '0' :: 'x' :: digits | '0' :: 'X' :: digits => (readNatural? 16 digits).map .ofNat
  | '0' :: 'o' :: digits | '0' :: 'O' :: digits => (readNatural? 8 digits).map .ofNat
  | '0' :: 'b' :: digits | '0' :: 'B' :: digits => (readNatural? 2 digits).map .ofNat
  | number => readDecimal? number

end Number
end ParticleEffects
