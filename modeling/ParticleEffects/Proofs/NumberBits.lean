import ParticleEffects.Proofs.Rounding

namespace ParticleEffects
namespace Number

/-!
Numbers and their bits.

The bits of a double are put together again from its sign, its exponent and its
mantissa, so that every datum is the datum of some double.  Every single is a double, and
as a double it is rounded to itself.
-/

open Float.Model

/-! ## Bits of a double -/

theorem toNat_packComponents (sign : UnpackedFloat.Sign) (exponent : BitVec 11)
    (mantissa : BitVec 52) :
    (UnpackedFloat.packComponents .binary64 sign exponent mantissa).toNat =
      sign.toBitVec.toNat * 2 ^ 63 + (exponent.toNat * 2 ^ 52 + mantissa.toNat) := by
  rw [UnpackedFloat.packComponents, BitVec.toNat_append, BitVec.toNat_append,
    ← Nat.shiftLeft_add_eq_or_of_lt mantissa.isLt, ← Nat.shiftLeft_add_eq_or_of_lt exponent.isLt,
    Nat.shiftLeft_eq, Nat.shiftLeft_eq]
  ring

theorem toNat_signOf (negative : Bool) :
    (signOf negative).toBitVec.toNat * 2 ^ 63 = if negative then Format.double.half else 0 := by
  cases negative <;> rfl

theorem log2_add_one_eq_iff {mantissa : Nat} (fits : mantissa < 2 ^ 53) :
    mantissa.log2 + 1 = Float.Model.Format.mantissaBits .binary64 ↔ 2 ^ 52 <= mantissa := by
  have bits : Float.Model.Format.mantissaBits .binary64 = 53 := rfl
  rw [bits]
  rcases Nat.eq_zero_or_pos mantissa with rfl | positive
  · simp
  · have log_eq := Nat.log2_eq_iff (Nat.ne_of_gt positive) (k := 52)
    omega

/-- The fields of a finite number that is not zero, put together. -/
theorem toNat_pack_finite (sign : UnpackedFloat.Sign) {mantissa : Nat} (positive : 0 < mantissa)
    {doublings : Nat} (few : doublings < 2046) (fits : mantissa < 2 ^ 53)
    (whole : doublings = 0 ∨ 2 ^ 52 <= mantissa) :
    (UnpackedFloat.pack .binary64
      (.finite sign mantissa ((doublings : Int) - 1074) positive)).toNat =
        sign.toBitVec.toNat * 2 ^ 63 + (doublings * 2 ^ 52 + mantissa) := by
  have biased : ((doublings : Int) - 1074 + (Float.Model.Format.exponentBias .binary64 : Nat) +
      (52 : Nat)).toNat = doublings + 1 := by
    have bias : Float.Model.Format.exponentBias .binary64 = 1023 := rfl
    rw [bias]
    omega
  have inRange : ¬ 2 ^ 11 <= doublings + 1 + 1 := by omega
  simp only [UnpackedFloat.pack, biased, inRange, if_false, log2_add_one_eq_iff fits]
  split
  · rename_i full
    rw [toNat_packComponents, BitVec.toNat_ofNat, BitVec.toNat_ofNat]
    omega
  · rw [toNat_packComponents, BitVec.toNat_ofNat, BitVec.toNat_ofNat]
    omega

/-- A magnitude with a sign is put together from its fields. -/
theorem toNat_pack_unpackedMagnitude (negative : Bool) {pattern : Nat}
    (bounded : pattern <= Format.double.infinity) :
    (UnpackedFloat.pack .binary64 (unpackedMagnitude (signOf negative) pattern)).toNat =
      (if negative then Format.double.half else 0) + pattern := by
  rcases Nat.lt_or_eq_of_le bounded with finite | rfl
  · rcases Nat.eq_zero_or_pos pattern with rfl | positive
    · rw [unpackedMagnitude_zero, UnpackedFloat.pack, UnpackedFloat.packedZero,
        toNat_packComponents, toNat_signOf]
      rfl
    · have parts := Format.double.doublings_mul_span_add pattern
      have fits := Format.double.significand_lt pattern
      have whole := Format.double.doublings_eq_zero_or pattern
      rw [Format.infinity_double] at finite
      rw [Format.span_double] at parts fits whole
      rw [unpackedMagnitude_finite _ positive finite,
        toNat_pack_finite _ _ (by omega) (by omega) whole, parts, toNat_signOf]
  · rw [unpackedMagnitude_infinity, UnpackedFloat.pack, UnpackedFloat.packedInfinity,
      toNat_packComponents, toNat_signOf]
    rfl

namespace Datum

theorem val_le (pattern : Fin (Format.double.infinity + 1)) : pattern.val <= 2047 * 2 ^ 52 :=
  Nat.le_of_lt_succ pattern.isLt

theorem bits_mod_half (negative : Bool) (pattern : Fin (Format.double.infinity + 1)) :
    (signed negative pattern).bits % Format.double.half = pattern.val := by
  have bounded := val_le pattern
  rw [bits, Format.half_double]
  split <;> omega

/-- Bits tell a datum. -/
theorem ofBits_bits (negative : Bool) (pattern : Fin (Format.double.infinity + 1)) :
    ofBits .double (signed negative pattern).bits = signed negative pattern := by
  have bounded := val_le pattern
  have low := bits_mod_half negative pattern
  have sign : decide (Format.double.half <= (signed negative pattern).bits) = negative := by
    rw [bits, Format.half_double]
    cases negative
    · simp
      omega
    · simp
  rw [ofBits_of_le (low.le.trans bounded), sign]
  congr 1
  exact Fin.ext low

theorem bits_lt (negative : Bool) (pattern : Fin (Format.double.infinity + 1)) :
    (signed negative pattern).bits < 2 ^ 64 := by
  have bounded := val_le pattern
  rw [bits, Format.half_double]
  split <;> omega

/-- The bits of a number are those of some double. -/
theorem valid_bits (negative : Bool) (pattern : Fin (Format.double.infinity + 1)) :
    Float.Model.Format.Valid .binary64
      (UInt64.ofNat (signed negative pattern).bits).toBitVec := by
  have same : (UInt64.ofNat (signed negative pattern).bits).toBitVec.toNat =
      (signed negative pattern).bits :=
    UInt64.toNat_ofNat_of_lt' (bits_lt negative pattern)
  have low := bits_mod_half negative pattern
  have bounded := val_le pattern
  rw [Format.half_double] at low
  constructor
  intro allOnes someMantissa
  have exponent := congrArg BitVec.toNat allOnes
  rw [toNat_unpackExponent, same] at exponent
  change _ = 2047 at exponent
  refine absurd (BitVec.eq_of_toNat_eq ?_) someMantissa
  rw [toNat_unpackMantissa, same]
  change _ = 0
  omega

/-- Every datum is the datum of a double. -/
theorem ofFloat_toFloat (datum : Datum .double) : ofFloat datum.toFloat = datum := by
  cases datum with
  | nan => decide +kernel
  | signed negative pattern =>
    have same : (UInt64.ofNat (signed negative pattern).bits).toNat =
        (signed negative pattern).bits :=
      UInt64.toNat_ofNat_of_lt' (bits_lt negative pattern)
    have unpacked := unpack_eq_unpacked
      ⟨⟨UInt64.ofNat (signed negative pattern).bits, valid_bits negative pattern⟩⟩
    change UnpackedFloat.unpack .binary64
        (UInt64.ofNat (signed negative pattern).bits).toBitVec =
      (ofBits .double (UInt64.ofNat (signed negative pattern).bits).toNat).unpacked at unpacked
    rw [same, ofBits_bits] at unpacked
    have packed : (signed negative pattern).toFloat.toBits.toNat =
        (signed negative pattern).bits := by
      change (UnpackedFloat.pack .binary64 (UnpackedFloat.unpack .binary64
        (UInt64.ofNat (signed negative pattern).bits).toBitVec)).toNat = _
      rw [unpacked]
      exact toNat_pack_unpackedMagnitude negative (Nat.le_of_lt_succ pattern.isLt)
    rw [ofFloat, packed, ofBits_bits]

end Datum

/-! ## Singles among the doubles -/

namespace Format

/-- The steps of a double in the least step of a single. -/
def refinement : Nat := 2 ^ 925

theorem unit_double : double.unit = single.unit * refinement := by decide +kernel

theorem refinement_pos : 0 < refinement := by decide +kernel

/-- Magnitudes can be doubled within a format that has as many digits. -/
theorem exists_steps_eq_mul {format wider : Format} (spans : format.span <= wider.span)
    (pattern doublings : Nat) :
    Exists fun pattern' => wider.steps pattern' = format.steps pattern * 2 ^ doublings := by
  have fits := format.significand_lt pattern
  rcases wider.exists_steps_eq (format.doublings pattern + doublings)
    (show format.significand pattern <= 2 * wider.span by omega) with ⟨pattern', same⟩
  exact ⟨pattern', by rw [same, steps_eq, Nat.pow_add, Nat.mul_assoc]⟩

/-- Every finite magnitude of a single is one of a double. -/
theorem exists_double_steps_eq {pattern : Nat} (finite : pattern < single.infinity) :
    Exists fun pattern' => pattern' < double.infinity ∧
      double.steps pattern' = single.steps pattern * refinement := by
  rcases exists_steps_eq_mul (show single.span <= double.span by decide) pattern 925 with
    ⟨pattern', exact⟩
  rw [← refinement] at exact
  have top : single.steps single.infinity * refinement < double.steps double.infinity := by
    decide +kernel
  have less : double.steps pattern' < double.steps double.infinity := by
    rw [exact]
    exact (Nat.mul_lt_mul_of_pos_right (steps_lt_steps finite) refinement_pos).trans top
  exact ⟨pattern', steps_lt_steps_iff.mp less, exact⟩

end Format

/-- A finite single has the same sign and magnitude as a double. -/
theorem Datum.exists_convert_double (negative : Bool) {pattern : Fin (Format.single.infinity + 1)}
    (finite : pattern.val < Format.single.infinity) :
    Exists fun pattern' => pattern'.val < Format.double.infinity ∧
      Format.double.steps pattern'.val = Format.single.steps pattern.val * Format.refinement ∧
      (signed negative pattern).convert .double = signed negative pattern' := by
  rcases Format.exists_double_steps_eq finite with ⟨pattern', finite', same⟩
  refine ⟨⟨pattern', Nat.lt_succ_of_lt finite'⟩, finite', same, ?_⟩
  have nearest_eq : Format.double.nearest (Format.single.steps pattern.val * Format.double.unit)
      Format.single.unit = pattern' := by
    have exact : Format.single.steps pattern.val * Format.double.unit =
        Format.double.steps pattern' * Format.single.unit := by
      rw [same, Format.unit_double]
      ring
    rw [exact]
    exact Format.nearest_steps Format.single.unit_pos finite'
  rw [convert, if_pos finite, ofSteps]
  exact congrArg (signed negative) (Fin.ext nearest_eq)

/-- A single that was made a double is rounded to itself. -/
theorem Single.convert_convert (x : Single) : (x.convert .double).convert .single = x := by
  cases x with
  | nan => rfl
  | signed negative pattern =>
    rcases Nat.lt_or_eq_of_le (Nat.le_of_lt_succ pattern.isLt) with finite | infinite
    · rcases Datum.exists_convert_double negative finite with ⟨pattern', finite', same, converted⟩
      have nearest_eq : Format.single.nearest
          (Format.double.steps pattern'.val * Format.single.unit) Format.double.unit =
            pattern.val := by
        have exact : Format.double.steps pattern'.val * Format.single.unit =
            Format.single.steps pattern.val * Format.double.unit := by
          rw [same, Format.unit_double]
          ring
        rw [exact]
        exact Format.nearest_steps Format.double.unit_pos finite
      rw [converted, Datum.convert, if_pos finite', Datum.ofSteps]
      exact congrArg (Datum.signed negative) (Fin.ext nearest_eq)
    · have last : pattern = Fin.last Format.single.infinity := Fin.ext infinite
      rw [last, Datum.convert, if_neg (by simp), Datum.infinite, Datum.convert, if_neg (by simp)]
      rfl

/-- Every single is read back from the double it is written as. -/
theorem Single.ofFloat_toFloat (x : Single) : ofFloat x.toFloat = x := by
  rw [ofFloat, toFloat, Datum.ofFloat_toFloat, convert_convert]

end Number
end ParticleEffects
