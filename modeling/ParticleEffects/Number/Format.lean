namespace ParticleEffects
namespace Number

/-!
Binary floating-point formats, read as counting systems.

The magnitudes of a format are numbered in order by *patterns*: pattern `0` is
zero, pattern `1` the least positive magnitude, and the pattern after the
greatest finite magnitude stands for infinity.  Every finite magnitude is a
whole number of *steps* of the least positive one, so that rounding, comparison
and decimal output are arithmetic on natural numbers and nothing is lost on the
way.
-/

/-- Which neighbour an exact half goes to. -/
inductive Tie where
  | toEven
  | up
  deriving DecidableEq

/-- The natural number nearest to `numerator / denominator`. -/
def roundDiv (numerator denominator : Nat) (tie : Tie) : Nat :=
  let below := numerator / denominator
  match compare (2 * (numerator % denominator)) denominator with
  | .lt => below
  | .gt => below + 1
  | .eq =>
    match tie with
    | .toEven => below + below % 2
    | .up => below + 1

theorem roundDiv_one (n : Nat) (tie : Tie) : roundDiv n 1 tie = n := by
  simp [roundDiv, Nat.mod_one, Nat.compare_eq_lt.mpr]

theorem div_le_roundDiv (numerator denominator : Nat) (tie : Tie) :
    numerator / denominator <= roundDiv numerator denominator tie := by
  unfold roundDiv
  dsimp only
  split <;> (try split) <;> omega

theorem roundDiv_le_succ (numerator denominator : Nat) (tie : Tie) :
    roundDiv numerator denominator tie <= numerator / denominator + 1 := by
  unfold roundDiv
  dsimp only
  split <;> (try split) <;> omega

structure Format where
  /-- Bits of the fraction that are stored. -/
  fractionBits : Nat
  exponentBits : Nat
  deriving DecidableEq

namespace Format

/-- The format a shader computes in. -/
def single : Format := { fractionBits := 23, exponentBits := 8 }

/-- The format of the numbers an effect is described with. -/
def double : Format := { fractionBits := 52, exponentBits := 11 }

/-- The number of patterns that share one exponent. -/
def span (format : Format) : Nat := Nat.pow 2 format.fractionBits

def infinity (format : Format) : Nat := (Nat.pow 2 format.exponentBits - 1) * format.span

/-- The number of patterns in the sign's half of the encoding. -/
def half (format : Format) : Nat := Nat.pow 2 (format.exponentBits + format.fractionBits)

/-- The number of steps in one. -/
def unit (format : Format) : Nat :=
  Nat.pow 2 (Nat.pow 2 (format.exponentBits - 1) - 2 + format.fractionBits)

/-- The magnitude of a pattern, in steps.  At infinity this is the magnitude
that would come next if the exponents went on. -/
def steps (format : Format) (pattern : Nat) : Nat :=
  if pattern < format.span then pattern
  else (format.span + pattern % format.span) * Nat.pow 2 (pattern / format.span - 1)

/-- The pattern nearest to `numerator / denominator` steps; of two equally near
ones the even one, and infinity from half a gap above the greatest finite
magnitude on. -/
def nearest (format : Format) (numerator denominator : Nat) : Nat :=
  let exponent := (numerator / denominator).log2 - format.fractionBits
  min format.infinity
    (exponent * format.span + roundDiv numerator (denominator * Nat.pow 2 exponent) .toEven)

theorem span_pos (format : Format) : 0 < format.span := Nat.two_pow_pos _

theorem unit_pos (format : Format) : 0 < format.unit := Nat.two_pow_pos _

theorem nearest_le_infinity (format : Format) (numerator denominator : Nat) :
    format.nearest numerator denominator <= format.infinity := Nat.min_le_left _ _

@[simp]
theorem steps_zero (format : Format) : format.steps 0 = 0 := by
  simp [steps, format.span_pos]

end Format

end Number
end ParticleEffects
