import ParticleEffects.Proofs.NumberPatterns

namespace ParticleEffects
namespace Number
namespace Format

/-!
The magnitudes of a format.

Magnitudes grow with their patterns, from one to the next by the step of their own size.
A whole number of steps is a magnitude if it has no more digits than the format.
-/

section

variable (format : Format)

theorem span_eq_two_pow : format.span = 2 ^ format.fractionBits := rfl

/-! ## Patterns taken apart -/

theorem significand_lt (pattern : Nat) : format.significand pattern < 2 * format.span := by
  have span_pos := format.span_pos
  have rest := Nat.mod_lt pattern span_pos
  unfold significand
  split <;> omega

/-- A magnitude that is doubled has all digits. -/
theorem doublings_eq_zero_or (pattern : Nat) :
    format.doublings pattern = 0 ∨ format.span <= format.significand pattern := by
  unfold doublings significand
  split
  · rename_i small
    exact .inl (by rw [Nat.div_eq_of_lt small])
  · exact .inr (Nat.le_add_right _ _)

theorem doublings_mul_span_add (pattern : Nat) :
    format.doublings pattern * format.span + format.significand pattern = pattern := by
  unfold doublings significand
  split
  · rename_i small
    rw [Nat.div_eq_of_lt small, Nat.zero_sub, Nat.zero_mul, Nat.zero_add]
  · rename_i large
    have one_le : 1 <= pattern / format.span :=
      (Nat.one_le_div_iff format.span_pos).mpr (Nat.not_lt.mp large)
    calc
      (pattern / format.span - 1) * format.span + (format.span + pattern % format.span)
          = (pattern / format.span - 1 + 1) * format.span + pattern % format.span := by ring
      _ = format.span * (pattern / format.span) + pattern % format.span := by
        rw [Nat.sub_add_cancel one_le, Nat.mul_comm]
      _ = pattern := Nat.div_add_mod pattern format.span

/-- The magnitude of some digits that are doubled so often.  Twice as many digits as there
are belong to the next doubling already. -/
theorem steps_mul_span_add {doublings significand : Nat}
    (fits : significand <= 2 * format.span)
    (whole : doublings = 0 ∨ format.span <= significand) :
    format.steps (doublings * format.span + significand) = significand * 2 ^ doublings := by
  have span_pos := format.span_pos
  rcases Nat.lt_or_ge significand format.span with small | large
  · have none : doublings = 0 := whole.resolve_right (Nat.not_le.mpr small)
    rw [none, Nat.zero_mul, Nat.zero_add, steps, if_pos small, Nat.pow_zero, Nat.mul_one]
  · rcases Nat.exists_eq_add_of_le large with ⟨rest, rfl⟩
    have pattern_eq : doublings * format.span + (format.span + rest) =
        rest + format.span * (doublings + 1) := by ring
    rw [pattern_eq, steps, if_neg (by rw [Nat.mul_succ]; omega), Nat.add_mul_mod_self_left,
      Nat.add_mul_div_left _ _ span_pos]
    rcases Nat.lt_or_ge rest format.span with less | full
    · rw [Nat.mod_eq_of_lt less, Nat.div_eq_of_lt less, Nat.zero_add, Nat.add_sub_cancel]
      rfl
    · have rest_eq : rest = format.span := by omega
      rw [rest_eq, Nat.mod_self, Nat.div_self span_pos, Nat.add_zero, Nat.add_sub_cancel_left,
        ← Nat.two_mul, Nat.mul_comm 2, Nat.mul_assoc, ← Nat.pow_succ']
      rfl

/-! ## Order -/

/-- From a magnitude to the next one it is one step of its own size. -/
theorem steps_succ (pattern : Nat) :
    format.steps (pattern + 1) = format.steps pattern + 2 ^ format.doublings pattern := by
  have fits := format.significand_lt pattern
  have whole := format.doublings_eq_zero_or pattern
  calc
    format.steps (pattern + 1)
        = format.steps (format.doublings pattern * format.span +
            (format.significand pattern + 1)) := by
      rw [← Nat.add_assoc, format.doublings_mul_span_add]
    _ = (format.significand pattern + 1) * 2 ^ format.doublings pattern :=
      format.steps_mul_span_add fits (whole.imp_right Nat.le_succ_of_le)
    _ = format.steps pattern + 2 ^ format.doublings pattern := by
      rw [Nat.succ_mul, ← steps_eq]

/-- Up to the next magnitude there are at most as many steps as the digits allow. -/
theorem steps_succ_le (pattern : Nat) :
    format.steps (pattern + 1) <= 2 * format.span * 2 ^ format.doublings pattern := by
  have fits := format.significand_lt pattern
  rw [steps_succ, steps_eq, ← Nat.succ_mul]
  exact Nat.mul_le_mul_right _ fits

theorem steps_strictMono : StrictMono format.steps :=
  strictMono_nat_of_lt_succ fun pattern => by
    rw [steps_succ]
    exact Nat.lt_add_of_pos_right (Nat.two_pow_pos _)

/-- A whole number of steps is a magnitude if some doublings leave it few digits. -/
theorem exists_steps_eq (doublings : Nat) :
    forall {significand : Nat}, significand <= 2 * format.span ->
      Exists fun pattern => format.steps pattern = significand * 2 ^ doublings := by
  induction doublings with
  | zero =>
    intro significand fits
    exact ⟨_, format.steps_mul_span_add fits (.inl rfl)⟩
  | succ doublings inductionHypothesis =>
    intro significand fits
    rcases Nat.lt_or_ge significand format.span with small | large
    · rcases inductionHypothesis (show 2 * significand <= 2 * format.span by omega) with
        ⟨pattern, same⟩
      exact ⟨pattern, by rw [same, Nat.pow_succ', Nat.mul_comm 2 significand, Nat.mul_assoc]⟩
    · exact ⟨_, format.steps_mul_span_add fits (.inr large)⟩

end

/-- Greater magnitudes have more steps. -/
theorem steps_lt_steps {format : Format} {first second : Nat} (less : first < second) :
    format.steps first < format.steps second :=
  format.steps_strictMono less

theorem steps_le_steps_iff {format : Format} {first second : Nat} :
    format.steps first <= format.steps second ↔ first <= second :=
  format.steps_strictMono.le_iff_le

theorem steps_lt_steps_iff {format : Format} {first second : Nat} :
    format.steps first < format.steps second ↔ first < second :=
  format.steps_strictMono.lt_iff_lt

end Format

end Number
end ParticleEffects
