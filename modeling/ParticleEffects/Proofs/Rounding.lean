import ParticleEffects.Proofs.Magnitudes

namespace ParticleEffects
namespace Number

/-!
Rounding to the nearest whole number and to the nearest magnitude.

A fraction is rounded to a whole number that is no more than a half away.  The nearest
magnitude is found by rounding the digits of the fraction, and the fraction lies between
the midpoints of that magnitude and its neighbours.  So every magnitude is nearest to
itself and to all fractions between those midpoints.
-/

/-! ## Rounding to a whole number -/

section

variable {numerator denominator : Nat} {tie : Tie}

/-- A fraction is rounded down to half of the way up, and up from there on. -/
theorem roundDiv_eq_or (numerator denominator : Nat) (tie : Tie) :
    roundDiv numerator denominator tie = numerator / denominator ∧
        2 * (numerator % denominator) <= denominator ∨
      roundDiv numerator denominator tie = numerator / denominator + 1 ∧
        denominator <= 2 * (numerator % denominator) := by
  unfold roundDiv
  dsimp only
  split
  case h_1 below => exact .inl ⟨rfl, Nat.le_of_lt (Nat.compare_eq_lt.mp below)⟩
  case h_2 beyond => exact .inr ⟨rfl, Nat.le_of_lt (Nat.compare_eq_gt.mp beyond)⟩
  case h_3 half =>
    have same := Nat.compare_eq_eq.mp half
    cases tie with
    | toEven =>
      rcases Nat.mod_two_eq_zero_or_one (numerator / denominator) with even | odd
      · exact .inl ⟨by rw [even, Nat.add_zero], Nat.le_of_eq same⟩
      · exact .inr ⟨by rw [odd], Nat.le_of_eq same.symm⟩
    | up => exact .inr ⟨rfl, Nat.le_of_eq same.symm⟩

/-- Where a half goes up, less than half of the way is rounded down. -/
theorem lt_of_roundDiv_up (same : roundDiv numerator denominator .up = numerator / denominator) :
    2 * (numerator % denominator) < denominator := by
  unfold roundDiv at same
  dsimp only at same
  split at same
  case h_1 below => exact Nat.compare_eq_lt.mp below
  all_goals exact absurd same (Nat.succ_ne_self _)

/-- What is rounded up is at least half of the way there. -/
theorem two_mul_roundDiv_le (numerator denominator : Nat) (tie : Tie) :
    2 * (roundDiv numerator denominator tie * denominator) <= 2 * numerator + denominator := by
  have whole := Nat.div_add_mod' numerator denominator
  rcases roundDiv_eq_or numerator denominator tie with ⟨same, _⟩ | ⟨same, _⟩
  · rw [same]
    omega
  · rw [same, Nat.add_one_mul (numerator / denominator)]
    omega

/-- What is rounded down is at most half of the way up. -/
theorem two_mul_le_roundDiv (numerator : Nat) (positive : 0 < denominator) (tie : Tie) :
    2 * numerator <= 2 * (roundDiv numerator denominator tie * denominator) + denominator := by
  have whole := Nat.div_add_mod' numerator denominator
  have rest := Nat.mod_lt numerator positive
  rcases roundDiv_eq_or numerator denominator tie with ⟨same, _⟩ | ⟨same, _⟩
  · rw [same]
    omega
  · rw [same, Nat.add_one_mul (numerator / denominator)]
    omega

theorem two_mul_lt_roundDiv_up (numerator : Nat) (positive : 0 < denominator) :
    2 * numerator < 2 * (roundDiv numerator denominator .up * denominator) + denominator := by
  have whole := Nat.div_add_mod' numerator denominator
  have rest := Nat.mod_lt numerator positive
  rcases roundDiv_eq_or numerator denominator .up with ⟨same, _⟩ | ⟨same, _⟩
  · have less := lt_of_roundDiv_up same
    rw [same]
    omega
  · rw [same, Nat.add_one_mul (numerator / denominator)]
    omega

/-- Where a half goes up, a fraction is rounded to one number only. -/
theorem roundDiv_up_eq {n : Nat} (positive : 0 < denominator)
    (below : 2 * (n * denominator) <= 2 * numerator + denominator)
    (above : 2 * numerator < 2 * (n * denominator) + denominator) :
    roundDiv numerator denominator .up = n := by
  have below' := two_mul_roundDiv_le numerator denominator .up
  have above' := two_mul_lt_roundDiv_up numerator positive
  apply Nat.le_antisymm
  · by_contra more
    have := Nat.mul_le_mul_right denominator (Nat.succ_le_of_lt (Nat.not_le.mp more))
    rw [Nat.succ_mul] at this
    omega
  · by_contra less
    have := Nat.mul_le_mul_right denominator (Nat.succ_le_of_lt (Nat.not_le.mp less))
    rw [Nat.succ_mul] at this
    omega

theorem roundDiv_mul_left {factor : Nat} (positive : 0 < factor) :
    roundDiv (factor * numerator) (factor * denominator) tie =
      roundDiv numerator denominator tie := by
  have same : compare (2 * (factor * (numerator % denominator))) (factor * denominator) =
      compare (2 * (numerator % denominator)) denominator := by
    rw [Nat.mul_left_comm]
    simp only [Nat.compare_eq_ite_lt, Nat.mul_lt_mul_left positive]
  simp only [roundDiv, Nat.mul_div_mul_left _ _ positive, Nat.mul_mod_mul_left, same]

/-- A multiple is divided without rounding. -/
theorem roundDiv_mul_self (n : Nat) (positive : 0 < denominator) :
    roundDiv (n * denominator) denominator tie = n := by
  have scaled : roundDiv (denominator * n) (denominator * 1) tie = roundDiv n 1 tie :=
    roundDiv_mul_left positive
  rwa [Nat.mul_one, Nat.mul_comm denominator, roundDiv_one] at scaled

end

/-! ## Rounding to a magnitude -/

namespace Format

/-- How often the least step is doubled for the digits of a fraction. -/
def scale (format : Format) (numerator denominator : Nat) : Nat :=
  (numerator / denominator).log2 - format.fractionBits

/-- The digits of a fraction, rounded. -/
def digits (format : Format) (numerator denominator : Nat) : Nat :=
  roundDiv numerator (denominator * 2 ^ format.scale numerator denominator) .toEven

/-- The pattern nearest to a fraction, if the exponents went on. -/
def place (format : Format) (numerator denominator : Nat) : Nat :=
  format.scale numerator denominator * format.span + format.digits numerator denominator

theorem nearest_eq_min (format : Format) (numerator denominator : Nat) :
    format.nearest numerator denominator =
      min format.infinity (format.place numerator denominator) := rfl

section

variable {format : Format} {numerator denominator : Nat}

theorem scaled_pos (positive : 0 < denominator) (scale : Nat) : 0 < denominator * 2 ^ scale :=
  Nat.mul_pos positive (Nat.two_pow_pos _)

/-- A fraction that has to be scaled has all digits. -/
theorem span_mul_le (scaled : 0 < format.scale numerator denominator) :
    format.span * (denominator * 2 ^ format.scale numerator denominator) <= numerator := by
  have log_eq : (numerator / denominator).log2 =
      format.scale numerator denominator + format.fractionBits := by
    unfold scale at scaled ⊢
    omega
  have nonzero : numerator / denominator ≠ 0 := by
    intro zero
    rw [zero, Nat.log2_zero] at log_eq
    omega
  have large := Nat.log2_self_le nonzero
  rw [log_eq, Nat.pow_add] at large
  calc
    format.span * (denominator * 2 ^ format.scale numerator denominator)
        = 2 ^ format.scale numerator denominator * 2 ^ format.fractionBits * denominator := by
      rw [span_eq_two_pow]
      ring
    _ <= numerator / denominator * denominator := Nat.mul_le_mul_right _ large
    _ <= numerator := Nat.div_mul_le_self _ _

theorem digits_le (format : Format) (numerator denominator : Nat) :
    format.digits numerator denominator <= 2 * format.span := by
  have small : numerator / denominator < 2 ^ (format.scale numerator denominator +
      (format.fractionBits + 1)) :=
    Nat.lt_of_lt_of_le Nat.lt_log2_self
      (Nat.pow_le_pow_right (by decide) (by unfold scale; omega))
  have quotient : numerator / (denominator * 2 ^ format.scale numerator denominator) <
      2 * format.span := by
    rw [← Nat.div_div_eq_div_mul, Nat.div_lt_iff_lt_mul (Nat.two_pow_pos _), span_eq_two_pow]
    calc
      numerator / denominator
          < 2 ^ (format.scale numerator denominator + (format.fractionBits + 1)) := small
      _ = 2 * 2 ^ format.fractionBits * 2 ^ format.scale numerator denominator := by
        rw [Nat.pow_add, Nat.pow_succ]
        ring
  exact Nat.le_trans (roundDiv_le_succ _ _ _) quotient

section

variable (format : Format) (numerator : Nat) (positive : 0 < denominator)
include positive

theorem span_le_digits (scaled : 0 < format.scale numerator denominator) :
    format.span <= format.digits numerator denominator :=
  calc
    format.span
        <= numerator / (denominator * 2 ^ format.scale numerator denominator) :=
      (Nat.le_div_iff_mul_le (scaled_pos positive _)).mpr (span_mul_le scaled)
    _ <= format.digits numerator denominator := div_le_roundDiv _ _ _

theorem scale_eq_zero_or : format.scale numerator denominator = 0 ∨
    format.span <= format.digits numerator denominator :=
  (Nat.eq_zero_or_pos _).imp_right (span_le_digits format numerator positive)

theorem steps_place : format.steps (format.place numerator denominator) =
    format.digits numerator denominator * 2 ^ format.scale numerator denominator :=
  format.steps_mul_span_add (digits_le ..) (scale_eq_zero_or format numerator positive)

/-- The error of rounding is at most half a step of the scale. -/
theorem steps_place_error :
    2 * (format.steps (format.place numerator denominator) * denominator) <=
        2 * numerator + denominator * 2 ^ format.scale numerator denominator ∧
      2 * numerator <= 2 * (format.steps (format.place numerator denominator) * denominator) +
        denominator * 2 ^ format.scale numerator denominator := by
  have same : format.steps (format.place numerator denominator) * denominator =
      format.digits numerator denominator *
        (denominator * 2 ^ format.scale numerator denominator) := by
    rw [steps_place format numerator positive]
    ring
  rw [same]
  exact ⟨two_mul_roundDiv_le _ _ _, two_mul_le_roundDiv _ (scaled_pos positive _) _⟩

/-- A fraction is at most half of the way from its place to the next one. -/
theorem le_midpoint_place :
    2 * numerator <= (format.steps (format.place numerator denominator) +
      format.steps (format.place numerator denominator + 1)) * denominator := by
  have scale_le : 2 ^ format.scale numerator denominator <=
      2 ^ format.doublings (format.place numerator denominator) := by
    refine Nat.pow_le_pow_right (by decide) ?_
    rcases scale_eq_zero_or format numerator positive with none | whole
    · rw [none]
      exact Nat.zero_le _
    · have enough : format.scale numerator denominator + 1 <=
          format.place numerator denominator / format.span := by
        rw [Nat.le_div_iff_mul_le format.span_pos, Nat.succ_mul, place]
        omega
      unfold doublings
      omega
  have step := Nat.mul_le_mul_right denominator scale_le
  have error := (steps_place_error format numerator positive).2
  rw [steps_succ, Nat.add_mul, Nat.add_mul]
  rw [Nat.mul_comm denominator] at error
  omega

end

section

variable (positive : 0 < denominator)
include positive

/-- A fraction is at least half of the way from the place before its own. -/
theorem midpoint_place_le {before : Nat}
    (succ : format.place numerator denominator = before + 1) :
    (format.steps before + format.steps (before + 1)) * denominator <= 2 * numerator := by
  have steps_eq := steps_place format numerator positive
  rw [succ] at steps_eq
  by_cases inside : format.scale numerator denominator = 0 ∨
      format.span < format.digits numerator denominator
  · have some_digits : 0 < format.digits numerator denominator := by
      rcases inside with none | more
      · rw [place, none] at succ
        omega
      · omega
    rcases Nat.exists_eq_add_one_of_ne_zero (Nat.ne_of_gt some_digits) with ⟨fewer, digits_eq⟩
    have before_eq : before = format.scale numerator denominator * format.span + fewer := by
      rw [place, digits_eq] at succ
      omega
    have steps_before : format.steps before =
        fewer * 2 ^ format.scale numerator denominator := by
      have fits := digits_le format numerator denominator
      rw [before_eq]
      exact format.steps_mul_span_add (by omega) (inside.imp_right fun more => by omega)
    have rounded := two_mul_roundDiv_le numerator
      (denominator * 2 ^ format.scale numerator denominator) .toEven
    have same : roundDiv numerator (denominator * 2 ^ format.scale numerator denominator) .toEven =
        fewer + 1 := digits_eq
    have midpoint : (format.steps before + format.steps (before + 1)) * denominator +
        denominator * 2 ^ format.scale numerator denominator =
          2 * ((fewer + 1) * (denominator * 2 ^ format.scale numerator denominator)) := by
      rw [steps_eq, steps_before, digits_eq]
      ring
    rw [same] at rounded
    omega
  · -- The digits are the fewest of their scale, and nothing was rounded up to them.
    rcases not_or.mp inside with ⟨scaled, few⟩
    have least := span_mul_le (Nat.pos_of_ne_zero scaled)
    have whole := span_le_digits format numerator positive (Nat.pos_of_ne_zero scaled)
    have digits_eq : format.digits numerator denominator = format.span := by omega
    have reached : format.steps (before + 1) * denominator <= numerator := by
      rw [steps_eq, digits_eq, Nat.mul_assoc, Nat.mul_comm (2 ^ _)]
      exact least
    have smaller : format.steps before <= format.steps (before + 1) :=
      steps_le_steps_iff.mpr (Nat.le_succ before)
    have less := Nat.mul_le_mul_right denominator smaller
    rw [Nat.add_mul]
    omega

/-- What is at most a magnitude is not placed beyond it. -/
theorem place_le {pattern : Nat} (most : numerator <= format.steps pattern * denominator) :
    format.place numerator denominator <= pattern := by
  by_contra more
  rcases Nat.exists_eq_add_of_lt (Nat.not_le.mp more) with ⟨between, succ⟩
  have midpoint := midpoint_place_le positive succ
  have first : format.steps pattern <= format.steps (pattern + between) :=
    steps_le_steps_iff.mpr (Nat.le_add_right _ _)
  have second : format.steps pattern < format.steps (pattern + between + 1) :=
    steps_lt_steps (by omega)
  have wider := Nat.mul_lt_mul_of_pos_right (Nat.add_lt_add_of_le_of_lt first second) positive
  rw [Nat.add_mul] at wider
  omega

/-- What is at least a magnitude is not placed before it. -/
theorem le_place {pattern : Nat} (least : format.steps pattern * denominator <= numerator) :
    pattern <= format.place numerator denominator := by
  by_contra less
  rcases Nat.exists_eq_add_of_lt (Nat.not_le.mp less) with ⟨between, succ⟩
  have midpoint := le_midpoint_place format numerator positive
  have first : format.steps (format.place numerator denominator) < format.steps pattern :=
    steps_lt_steps (by omega)
  have second : format.steps (format.place numerator denominator + 1) <= format.steps pattern :=
    steps_le_steps_iff.mpr (by omega)
  have wider := Nat.mul_lt_mul_of_pos_right (Nat.add_lt_add_of_lt_of_le first second) positive
  rw [Nat.add_mul _ (format.steps pattern)] at wider
  omega

/-- Greater fractions are not placed before lesser ones. -/
theorem place_mono {numerator' : Nat} (less : numerator <= numerator') :
    format.place numerator denominator <= format.place numerator' denominator := by
  rcases Nat.lt_or_eq_of_le less with strict | rfl
  · by_contra reversed
    rcases Nat.exists_eq_add_of_lt (Nat.not_le.mp reversed) with ⟨between, succ⟩
    have lower := midpoint_place_le positive succ
    have upper := le_midpoint_place format numerator' positive
    have first : format.steps (format.place numerator' denominator) <=
        format.steps (format.place numerator' denominator + between) :=
      steps_le_steps_iff.mpr (by omega)
    have second : format.steps (format.place numerator' denominator + 1) <=
        format.steps (format.place numerator' denominator + between + 1) :=
      steps_le_steps_iff.mpr (by omega)
    have wider := Nat.mul_le_mul_right denominator (Nat.add_le_add first second)
    omega
  · exact Nat.le_refl _

theorem nearest_mono {numerator' : Nat} (less : numerator <= numerator') :
    format.nearest numerator denominator <= format.nearest numerator' denominator := by
  rw [nearest_eq_min, nearest_eq_min]
  exact min_le_min_left _ (place_mono positive less)

/-- A magnitude is nearest to itself. -/
theorem nearest_steps {pattern : Nat} (finite : pattern < format.infinity) :
    format.nearest (format.steps pattern * denominator) denominator = pattern := by
  have place_eq : format.place (format.steps pattern * denominator) denominator = pattern :=
    Nat.le_antisymm (place_le positive (Nat.le_refl _)) (le_place positive (Nat.le_refl _))
  rw [nearest_eq_min, place_eq, Nat.min_eq_right (Nat.le_of_lt finite)]

/-- A magnitude is nearest to what lies between the midpoints of its neighbours. -/
theorem nearest_eq_of_between {pattern : Nat} (finite : pattern < format.infinity)
    (above : forall before, pattern = before + 1 ->
      (format.steps before + format.steps pattern) * denominator < 2 * numerator)
    (below : 2 * numerator < (format.steps pattern + format.steps (pattern + 1)) * denominator) :
    format.nearest numerator denominator = pattern := by
  have place_eq : format.place numerator denominator = pattern := by
    apply Nat.le_antisymm
    · by_contra more
      rcases Nat.exists_eq_add_of_lt (Nat.not_le.mp more) with ⟨between, succ⟩
      have midpoint := midpoint_place_le positive succ
      have first : format.steps pattern <= format.steps (pattern + between) :=
        steps_le_steps_iff.mpr (Nat.le_add_right _ _)
      have second : format.steps (pattern + 1) <= format.steps (pattern + between + 1) :=
        steps_le_steps_iff.mpr (by omega)
      have wider := Nat.mul_le_mul_right denominator (Nat.add_le_add first second)
      omega
    · by_contra less
      rcases Nat.exists_eq_add_of_lt (Nat.not_le.mp less) with ⟨between, succ⟩
      have midpoint := le_midpoint_place format numerator positive
      have strict := above _ succ
      have first : format.steps (format.place numerator denominator) <=
          format.steps (format.place numerator denominator + between) :=
        steps_le_steps_iff.mpr (Nat.le_add_right _ _)
      have second : format.steps (format.place numerator denominator + 1) <=
          format.steps pattern :=
        steps_le_steps_iff.mpr (by omega)
      have wider := Nat.mul_le_mul_right denominator (Nat.add_le_add first second)
      omega
  rw [nearest_eq_min, place_eq, Nat.min_eq_right (Nat.le_of_lt finite)]

end

/-- Only the value of a fraction matters. -/
theorem nearest_mul_left {factor : Nat} (some : 0 < factor) :
    format.nearest (factor * numerator) (factor * denominator) =
      format.nearest numerator denominator := by
  have scale_eq : format.scale (factor * numerator) (factor * denominator) =
      format.scale numerator denominator := by
    rw [scale, scale, Nat.mul_div_mul_left _ _ some]
  have place_eq : format.place (factor * numerator) (factor * denominator) =
      format.place numerator denominator := by
    rw [place, place, digits, digits, scale_eq, Nat.mul_assoc, roundDiv_mul_left some]
  rw [nearest_eq_min, nearest_eq_min, place_eq]

/-- What is less than some power of two is scaled by no more than that takes. -/
theorem scale_le {exponent : Nat}
    (less : numerator / denominator < 2 ^ (format.fractionBits + exponent + 1)) :
    format.scale numerator denominator <= exponent := by
  have log_lt : (numerator / denominator).log2 < format.fractionBits + exponent + 1 := by
    rcases Nat.eq_zero_or_pos (numerator / denominator) with zero | some
    · rw [zero, Nat.log2_zero]
      omega
    · exact (Nat.log2_lt (Nat.ne_of_gt some)).mpr less
  unfold scale
  omega

end

end Format

end Number
end ParticleEffects
