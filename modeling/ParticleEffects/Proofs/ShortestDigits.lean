import ParticleEffects.Number.Shortest
import ParticleEffects.Proofs.NumberBits

namespace ParticleEffects
namespace Number

/-!
The shortest digits of large doubles.

Seventeen digits are enough to tell a double: on that grid a neighbour of the number is off
by less than half of the way to the next double.  So the search for the shortest digits
finds some that read back.  If the double is a single, they read back as the single too,
since halfway between two singles there is a double.
-/

open Format

/-! ## Rounding to a single through a double -/

/-- Halfway between two magnitudes there is one of a format with more digits. -/
theorem exists_midpoint_mul {format wider : Format} (spans : 2 * format.span <= wider.span)
    (pattern : Nat) {doublings : Nat} (some : 0 < doublings) : Exists fun pattern' =>
      2 * wider.steps pattern' =
        (format.steps pattern + format.steps (pattern + 1)) * 2 ^ doublings := by
  rcases Nat.exists_eq_add_one_of_ne_zero some.ne' with ⟨doublings, rfl⟩
  have fits := format.significand_lt pattern
  rcases wider.exists_steps_eq (format.doublings pattern + doublings)
    (show 2 * format.significand pattern + 1 <= 2 * wider.span by omega) with ⟨pattern', same⟩
  refine ⟨pattern', ?_⟩
  rw [same, steps_succ, steps_eq, Nat.pow_add, Nat.pow_succ]
  ring

/-- Halfway between two singles there is a double. -/
theorem exists_midpoint (pattern : Nat) : Exists fun pattern' =>
    2 * double.steps pattern' =
      (single.steps pattern + single.steps (pattern + 1)) * refinement := by
  have middle := exists_midpoint_mul (show 2 * single.span <= double.span by decide) pattern
    (show 0 < 925 by decide)
  rwa [← refinement] at middle

/-- A fraction that is nearest to a single among the doubles is nearest to it among the
singles. -/
theorem nearest_single_of_nearest_double {numerator denominator pattern pattern' : Nat}
    (positive : 0 < denominator) (finite : pattern < single.infinity)
    (finite' : pattern' < double.infinity)
    (same : double.steps pattern' = single.steps pattern * refinement)
    (nearest : double.nearest (numerator * double.unit) denominator = pattern') :
    single.nearest (numerator * single.unit) denominator = pattern := by
  have place_eq : double.place (numerator * double.unit) denominator = pattern' := by
    rw [nearest_eq_min] at nearest
    omega
  have refined : numerator * double.unit = numerator * single.unit * refinement := by
    rw [unit_double, Nat.mul_assoc]
  refine nearest_eq_of_between positive finite (fun before succ => ?_) ?_
  · subst succ
    by_contra most
    rcases exists_midpoint before with ⟨midpoint, middle⟩
    have placed : pattern' <= midpoint := by
      rw [← place_eq]
      refine place_le positive (Nat.le_of_mul_le_mul_left ?_ (show 0 < 2 by decide))
      rw [refined, ← Nat.mul_assoc 2 (double.steps midpoint), middle]
      have scaled := Nat.mul_le_mul_right refinement (Nat.not_lt.mp most)
      linarith
    have less := Nat.mul_lt_mul_of_pos_right
      (Nat.add_lt_add_right (single.steps_strictMono (Nat.lt_add_one before))
        (single.steps (before + 1))) refinement_pos
    have bounded := double.steps_strictMono.monotone placed
    rw [same] at bounded
    linarith
  · by_contra least
    rcases exists_midpoint pattern with ⟨midpoint, middle⟩
    have placed : midpoint <= pattern' := by
      rw [← place_eq]
      refine le_place positive (Nat.le_of_mul_le_mul_left ?_ (show 0 < 2 by decide))
      rw [refined, ← Nat.mul_assoc 2 (double.steps midpoint), middle]
      have scaled := Nat.mul_le_mul_right refinement (Nat.not_lt.mp least)
      linarith
    have less := Nat.mul_lt_mul_of_pos_right
      (Nat.add_lt_add_left (single.steps_strictMono (Nat.lt_add_one pattern))
        (single.steps pattern)) refinement_pos
    have bounded := double.steps_strictMono.monotone placed
    rw [same] at bounded
    linarith

/-! ## Seventeen digits -/

theorem lt_pow_digitCount (n : Nat) : n < 10 ^ digitCount n := by
  unfold digitCount
  split
  · rename_i zero
    rw [zero]
    decide
  · exact (Nat.length_toDigits_le_iff (by decide) Nat.length_toDigits_pos).mp (Nat.le_refl _)

theorem lt_digitCount_of_pow_le {n places : Nat} (large : 10 ^ places <= n) :
    places < digitCount n :=
  (Nat.pow_lt_pow_iff_right (by decide)).mp (large.trans_lt (lt_pow_digitCount n))

theorem pow_le_of_lt_digitCount {n places : Nat} (long : places < digitCount n) :
    10 ^ places <= n := by
  unfold digitCount at long
  split at long
  · exact absurd long (Nat.not_lt_zero _)
  · rename_i different
    rcases Nat.eq_zero_or_pos places with rfl | some
    · exact Nat.one_le_iff_ne_zero.mpr different
    · by_contra small
      have short := (Nat.length_toDigits_le_iff (by decide) some).mpr (Nat.not_le.mp small)
      omega

theorem powerFraction_natCast (coefficient exponent : Nat) :
    powerFraction coefficient (exponent : Int) = (coefficient * 10 ^ exponent, 1) :=
  if_pos (Int.natCast_nonneg exponent)

theorem roundDiv_mem_neighbours (numerator denominator : Nat) :
    roundDiv numerator denominator .toEven ∈ neighbours numerator denominator := by
  unfold neighbours
  dsimp only
  split
  · rename_i down
    rw [down]
    exact List.mem_cons_self
  · rename_i up
    rcases roundDiv_eq_or numerator denominator .toEven with ⟨down, _⟩ | ⟨same, _⟩
    · exact absurd down up
    · rw [same]
      exact List.mem_cons_self

/-- A step of sixteen decimal places less than a double is smaller than the gap before it. -/
theorem lt_gap_of_fine {step pattern : Nat}
    (fine : step * 10 ^ 16 <= double.steps (pattern + 1)) : step < 2 ^ double.doublings pattern := by
  have most := double.steps_succ_le pattern
  have digits : 2 * double.span < 10 ^ 16 := by decide
  have bound := Nat.mul_lt_mul_of_pos_right digits (Nat.two_pow_pos (double.doublings pattern))
  have scaled : step * 10 ^ 16 < 2 ^ double.doublings pattern * 10 ^ 16 := by
    rw [Nat.mul_comm (2 ^ _)]
    exact (fine.trans most).trans_lt bound
  exact Nat.lt_of_mul_lt_mul_right scaled

/-- Of a grid that is fine enough, the nearest number reads back. -/
theorem nearest_roundDiv_of_fine {step pattern : Nat} (positive : 0 < step)
    (finite : pattern < double.infinity) (fine : step * 10 ^ 16 <= double.steps pattern) :
    double.nearest (roundDiv (double.steps pattern) step .toEven * step) 1 = pattern := by
  have most := two_mul_roundDiv_le (double.steps pattern) step .toEven
  have least := two_mul_le_roundDiv (double.steps pattern) positive .toEven
  refine nearest_eq_of_between (by decide) finite (fun before succ => ?_) ?_
  · subst succ
    have gap := lt_gap_of_fine fine
    have next := double.steps_succ before
    omega
  · have next := double.steps_succ pattern
    have gap := lt_gap_of_fine (fine.trans (steps_lt_steps (Nat.lt_add_one pattern)).le)
    omega

/-- The grid of seventeen digits is fine enough. -/
theorem exists_leadingPoint {pattern : Nat}
    (large : 10 ^ 16 * double.unit <= double.steps pattern) : Exists fun rest : Nat =>
    leadingPoint (double.steps pattern) double.unit = (rest + 17 : Nat) ∧
      double.unit * 10 ^ rest * 10 ^ 16 <= double.steps pattern := by
  have unit_pos := double.unit_pos
  have whole : 10 ^ 16 <= double.steps pattern / double.unit :=
    (Nat.le_div_iff_mul_le unit_pos).mpr large
  have long := lt_digitCount_of_pow_le whole
  rcases Nat.exists_eq_add_of_le (Nat.succ_le_of_lt long) with ⟨rest, count⟩
  refine ⟨rest, ?_, ?_⟩
  · have one : double.unit <= double.steps pattern :=
      (Nat.le_mul_of_pos_left _ (by decide)).trans large
    rw [leadingPoint, if_pos one, count]
    push_cast
    ring
  · have leading : 10 ^ (rest + 16) <= double.steps pattern / double.unit :=
      pow_le_of_lt_digitCount (by omega)
    have scaled := (Nat.le_div_iff_mul_le unit_pos).mp leading
    rw [Nat.pow_add] at scaled
    linarith

/-- Seventeen digits are enough. -/
theorem coefficient?_isSome {pattern rest : Nat} (finite : pattern < double.infinity)
    (fine : double.unit * 10 ^ rest * 10 ^ 16 <= double.steps pattern) :
    (coefficient? .double pattern rest).isSome = true := by
  have step_pos : 0 < double.unit * 10 ^ rest :=
    Nat.mul_pos double.unit_pos (Nat.pow_pos (by decide))
  have nearest := nearest_roundDiv_of_fine step_pos finite fine
  have member := roundDiv_mem_neighbours (double.steps pattern) (double.unit * 10 ^ rest)
  unfold coefficient?
  rw [powerFraction_natCast]
  simp only [Nat.mul_one, Nat.one_mul]
  refine List.find?_isSome.mpr ⟨_, member, ?_⟩
  rw [readsBack, powerFraction_natCast]
  refine beq_iff_eq.mpr ?_
  rw [Nat.mul_assoc, Nat.mul_comm (10 ^ rest)]
  exact nearest

/-- The shortest digits of a large double are those of a whole number that reads back. -/
theorem exists_shortest {pattern : Nat} (finite : pattern < double.infinity)
    (large : 10 ^ 16 * double.unit <= double.steps pattern) :
    Exists fun coefficient => Exists fun exponent : Nat =>
    double.nearest (coefficient * 10 ^ exponent * double.unit) 1 = pattern ∧
      shortest .double pattern = {
        digits := dropTrailingZeros (Nat.toDigits 10 coefficient)
        point := exponent + (Nat.toDigits 10 coefficient).length } := by
  rcases exists_leadingPoint large with ⟨rest, point, fine⟩
  unfold shortest
  dsimp only
  rw [point]
  cases found : (List.range 17).findSome? fun (count : Nat) =>
      (coefficient? .double pattern ((rest + 17 : Nat) - (count + 1 : Nat))).map fun coefficient =>
        ({ digits := dropTrailingZeros (Nat.toDigits 10 coefficient)
           point := ((rest + 17 : Nat) - (count + 1 : Nat) : Int) +
             (Nat.toDigits 10 coefficient).length } : Scientific) with
  | none =>
    have last := List.findSome?_eq_none_iff.mp found 16 (by decide)
    have exponent : ((rest + 17 : Nat) : Int) - (16 + 1 : Nat) = rest := by omega
    have some := coefficient?_isSome finite fine
    rw [exponent, Option.map_eq_none_iff] at last
    rw [last] at some
    cases some
  | some number =>
    rcases List.exists_of_findSome?_eq_some found with ⟨count, within, read⟩
    rcases Option.map_eq_some_iff.mp read with ⟨coefficient, some, rfl⟩
    have few := List.mem_range.mp within
    have exponent : ((rest + 17 : Nat) : Int) - (count + 1 : Nat) = (rest + 16 - count : Nat) := by
      omega
    have back := List.find?_some some
    rw [exponent, readsBack, powerFraction_natCast] at back
    exact ⟨coefficient, _, beq_iff_eq.mp back, by rw [exponent]; rfl⟩

end Number
end ParticleEffects
