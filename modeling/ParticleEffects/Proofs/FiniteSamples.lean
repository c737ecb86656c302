import ParticleEffects.Proofs.HardSteps
import ParticleEffects.Proofs.NumberOperations

namespace ParticleEffects

/-!
Samples that are finite.

Between finite keys a sample is computed through differences, which may leave the range of
the numbers where the sample would not.  The ratio has to be a finite distance away from
the key before it, and the values have to differ by something finite.  Then a share below
one takes the sum no further than the second value, or no further than rounding forgives.
Only where the share is rounded up to one may the sum leave the range on its own.
-/

open Spatial

namespace Number

/-! ## Magnitudes -/

theorem steps_span : Format.double.steps Format.double.span = 2 ^ 52 := by decide +kernel

/-- The pattern of one. -/
def onePattern : Nat := 1023 * 2 ^ 52

theorem place_one : (Datum.ofFloat 1).place? = some (onePattern : Int) := by decide +kernel

theorem steps_onePattern : Format.double.steps onePattern = Format.double.unit := by
  decide +kernel

theorem onePattern_finite : onePattern < Format.double.infinity := by decide +kernel

/-- What is less than one is less by a step of its size. -/
theorem scaled_lt_one {pattern : Nat} (less : Format.double.steps pattern < Format.double.unit) :
    2 ^ 53 * Format.double.steps pattern <= (2 ^ 53 - 1) * Format.double.unit := by
  have before : 2 ^ 53 * Format.double.steps (onePattern - 1) =
      (2 ^ 53 - 1) * Format.double.unit := by
    decide +kernel
  rw [← steps_onePattern, Format.steps_lt_steps_iff] at less
  rw [← before]
  exact Nat.mul_le_mul_left _ (Format.steps_le_steps_iff.mpr (Nat.le_sub_one_of_lt less))

/-- Magnitudes with all digits have at least as many steps of their own size. -/
theorem whole_le_steps {pattern : Nat} (whole : Format.double.span <= pattern) :
    2 ^ 52 * 2 ^ Format.double.doublings pattern <= Format.double.steps pattern := by
  rw [Format.steps_eq]
  refine Nat.mul_le_mul_right _ ?_
  rw [Format.significand, if_neg (Nat.not_lt.mpr whole)]
  exact Nat.le_add_right _ _

/-- A share below one of a magnitude with all digits is rounded to a lesser magnitude. -/
theorem place_share_lt {before share : Nat} (whole : Format.double.span <= before)
    (less : 2 ^ 53 * share <= (2 ^ 53 - 1) * Format.double.unit) :
    Format.double.place (Format.double.steps (before + 1) * share) Format.double.unit <=
      before := by
  have unit_pos := Format.double.unit_pos
  have most : Format.double.place (Format.double.steps (before + 1) * share)
      Format.double.unit <= before + 1 :=
    Format.place_le unit_pos (Nat.mul_le_mul_left _ (by omega))
  by_contra more
  have reached := Format.midpoint_place_le unit_pos
    (Nat.le_antisymm most (Nat.succ_le_of_lt (Nat.not_le.mp more)))
  have gap := Format.double.steps_succ before
  have large := whole_le_steps whole
  have gap_pos := Nat.two_pow_pos (Format.double.doublings before)
  generalize 2 ^ Format.double.doublings before = step at gap large gap_pos
  have bound : 2 ^ 53 * (Format.double.steps before + Format.double.steps (before + 1)) *
      Format.double.unit <= 2 * (2 ^ 53 - 1) * Format.double.steps (before + 1) *
        Format.double.unit := by
    calc
      2 ^ 53 * (Format.double.steps before + Format.double.steps (before + 1)) * Format.double.unit
          <= 2 ^ 53 * (2 * (Format.double.steps (before + 1) * share)) := by
        rw [Nat.mul_assoc]
        exact Nat.mul_le_mul_left _ reached
      _ = 2 * Format.double.steps (before + 1) * (2 ^ 53 * share) := by ring
      _ <= 2 * Format.double.steps (before + 1) * ((2 ^ 53 - 1) * Format.double.unit) :=
        Nat.mul_le_mul_left _ less
      _ = 2 * (2 ^ 53 - 1) * Format.double.steps (before + 1) * Format.double.unit := by ring
  have shorter := Nat.le_of_mul_le_mul_right bound unit_pos
  omega

/-- A share below one of a rounded difference is no more than the difference, unless both
are so small that it does not matter. -/
theorem steps_nearest_share_le {difference share : Nat}
    (finite : Format.double.nearest difference 1 < Format.double.infinity)
    (less : 2 ^ 53 * share <= (2 ^ 53 - 1) * Format.double.unit) :
    Format.double.steps (Format.double.nearest
        (Format.double.steps (Format.double.nearest difference 1) * share) Format.double.unit) <=
      max difference (2 ^ 52) := by
  have rounded : Format.double.nearest difference 1 = Format.double.place difference 1 := by
    rw [Format.nearest_eq_min] at finite ⊢
    exact Nat.min_eq_right (by omega)
  rw [rounded]
  generalize pattern_eq : Format.double.place difference 1 = pattern
  have steps_le {bound : Nat} (most : Format.double.place
      (Format.double.steps pattern * share) Format.double.unit <= bound) :
      Format.double.steps (Format.double.nearest (Format.double.steps pattern * share)
        Format.double.unit) <= Format.double.steps bound :=
    Format.steps_le_steps_iff.mpr (Nat.le_trans (Nat.min_le_right _ _) most)
  rcases Nat.lt_or_ge Format.double.span pattern with large | small
  · rcases Nat.exists_eq_add_one_of_ne_zero (Nat.ne_of_gt (Nat.zero_lt_of_lt large)) with
      ⟨before, rfl⟩
    have midpoint := Format.midpoint_place_le Nat.one_pos pattern_eq
    have lower := steps_le (place_share_lt (Nat.le_of_lt_succ large) less)
    have lesser : Format.double.steps before <= Format.double.steps (before + 1) :=
      Format.steps_le_steps_iff.mpr (Nat.le_succ before)
    omega
  · have most : Format.double.place (Format.double.steps pattern * share)
        Format.double.unit <= pattern :=
      Format.place_le Format.double.unit_pos (Nat.mul_le_mul_left _ (by omega))
    have lower := steps_le (Nat.le_trans most small)
    rw [steps_span] at lower
    exact Nat.le_trans lower (Nat.le_max_right _ _)

/-! ## Steps of numbers -/

theorem stepsOf_lt_of_lt {x y : Float} (less : x < y) : stepsOf x < stepsOf y := by
  rcases (lt_iff_place x y).mp less with ⟨_, _, found, found', placed⟩
  exact Datum.signedSteps_lt_of_place_lt found found' placed

theorem stepsOf_le_of_le {x y : Float} (less : x <= y) : stepsOf x <= stepsOf y := by
  rcases (le_iff_place x y).mp less with ⟨_, _, found, found', placed⟩
  rcases Int.lt_or_eq_of_le placed with strict | rfl
  · exact Int.le_of_lt (Datum.signedSteps_lt_of_place_lt found found' strict)
  · rw [stepsOf_of_place found, stepsOf_of_place found']

/-- The steps of the greatest finite number. -/
def greatest : Nat := Format.double.steps (Format.double.infinity - 1)

theorem natAbs_stepsOf_le {x : Float} (finite : x.isFinite = true) :
    (stepsOf x).natAbs <= greatest := by
  rcases exists_place_of_finite finite with ⟨place, found⟩
  have bounded := (isFinite_iff_of_place found).mp finite
  rw [stepsOf_of_place found, natAbs_placeSteps]
  exact Format.steps_le_steps_iff.mpr (by omega)

/-- A sum that leaves the range by a little is rounded back to it. -/
theorem isFinite_add {x y : Float} (finite : x.isFinite = true) (finite' : y.isFinite = true)
    (most : (stepsOf x + stepsOf y).natAbs <= greatest + 2 ^ 52) : (x + y).isFinite = true := by
  have bound : Format.double.nearest (greatest + 2 ^ 52) 1 < Format.double.infinity := by
    decide +kernel
  have nearest_le : Format.double.nearest (stepsOf x + stepsOf y).natAbs 1 <=
      Format.double.nearest (greatest + 2 ^ 52) 1 := Format.nearest_mono Nat.one_pos most
  rw [isFinite_iff_of_place (place?_add finite finite'), natAbs_nearestPlace _ Nat.one_pos]
  exact Nat.lt_of_le_of_lt nearest_le bound

/-! ## A share of a difference -/

/-- A share of a whole. -/
structure IsShare (share : Float) : Prop where
  finite : share.isFinite = true
  nonnegative : 0 <= stepsOf share
  most : stepsOf share <= Format.double.unit

/-- The steps of a share of a difference. -/
def shareSteps (difference : Int) (share : Nat) : Int :=
  placeSteps (nearestPlace (placeSteps (nearestPlace difference 1) * share) Format.double.unit)

theorem shareSteps_neg (difference : Int) (share : Nat) :
    shareSteps (-difference) share = -shareSteps difference share := by
  rw [shareSteps, nearestPlace_neg, placeSteps_neg, Int.neg_mul, nearestPlace_neg, placeSteps_neg,
    shareSteps]

theorem shareSteps_natCast (difference share : Nat) :
    shareSteps difference share = Format.double.steps (Format.double.nearest
      (Format.double.steps (Format.double.nearest difference 1) * share) Format.double.unit) := by
  rw [shareSteps, nearestPlace_natCast _ Nat.one_pos, placeSteps_natCast, ← Int.natCast_mul,
    nearestPlace_natCast _ Format.double.unit_pos, placeSteps_natCast]

section

variable {a b share : Float}

theorem stepsOf_sub_mul (finite : a.isFinite = true) (finite' : b.isFinite = true)
    (finiteDifference : (b - a).isFinite = true) (shared : IsShare share) :
    stepsOf ((b - a) * share) =
      shareSteps (stepsOf b - stepsOf a) (stepsOf share).toNat := by
  rw [stepsOf_of_place (place?_mul finiteDifference shared.finite),
    stepsOf_of_place (place?_sub finite' finite), shareSteps,
    Int.toNat_of_nonneg shared.nonnegative]

/-- A share of something finite is finite. -/
theorem IsShare.isFinite_mul (shared : IsShare share) (finite : a.isFinite = true) :
    (a * share).isFinite = true := by
  rcases exists_place_of_finite finite with ⟨place, found⟩
  have bounded := (isFinite_iff_of_place found).mp finite
  have nonnegative := shared.nonnegative
  have most := shared.most
  have product := place?_mul finite shared.finite
  rw [stepsOf_of_place found] at product
  have less : (placeSteps place * stepsOf share).natAbs <=
      Format.double.steps place.natAbs * Format.double.unit := by
    rw [Int.natAbs_mul, natAbs_placeSteps]
    exact Nat.mul_le_mul_left _ (by omega)
  have nearest_le : Format.double.nearest (placeSteps place * stepsOf share).natAbs
      Format.double.unit <= Format.double.nearest
        (Format.double.steps place.natAbs * Format.double.unit) Format.double.unit :=
    Format.nearest_mono Format.double.unit_pos less
  rw [Format.nearest_steps Format.double.unit_pos bounded] at nearest_le
  rw [isFinite_iff_of_place product, natAbs_nearestPlace _ Format.double.unit_pos]
  exact Nat.lt_of_le_of_lt nearest_le bounded

/-- A share below one of the difference of two numbers does not lead beyond them. -/
theorem IsShare.isFinite_of_lt (shared : IsShare share) (less : stepsOf share < Format.double.unit)
    (finite : a.isFinite = true) (finite' : b.isFinite = true)
    (finiteDifference : (b - a).isFinite = true) : (a + (b - a) * share).isFinite = true := by
  have nonnegative := shared.nonnegative
  have lower := natAbs_stepsOf_le finite
  have upper := natAbs_stepsOf_le finite'
  have bounded : Format.double.nearest (stepsOf b - stepsOf a).natAbs 1 <
      Format.double.infinity := by
    rwa [isFinite_iff_of_place (place?_sub finite' finite), natAbs_nearestPlace _ Nat.one_pos]
      at finiteDifference
  have scaled : 2 ^ 53 * (stepsOf share).toNat <= (2 ^ 53 - 1) * Format.double.unit := by
    rcases exists_place_of_finite shared.finite with ⟨place, found⟩
    have pattern_eq : (stepsOf share).toNat = Format.double.steps place.natAbs := by
      rw [← natAbs_placeSteps, ← stepsOf_of_place found]
      omega
    rw [pattern_eq]
    exact scaled_lt_one (by omega)
  have most := steps_nearest_share_le bounded scaled
  refine isFinite_add finite (shared.isFinite_mul finiteDifference) ?_
  rw [stepsOf_sub_mul finite finite' finiteDifference shared]
  generalize (stepsOf share).toNat = count at most ⊢
  rcases Int.natAbs_eq (stepsOf b - stepsOf a) with rises | falls
  · rw [rises, shareSteps_natCast]
    omega
  · rw [falls, shareSteps_neg, shareSteps_natCast]
    omega

/-- All of something is the thing itself. -/
theorem stepsOf_mul_one (finite : a.isFinite = true) (finiteShare : share.isFinite = true)
    (whole : stepsOf share = Format.double.unit) : stepsOf (a * share) = stepsOf a := by
  rcases exists_place_of_finite finite with ⟨place, found⟩
  have product := place?_mul finite finiteShare
  rw [stepsOf_of_place found, whole, nearestPlace_placeSteps
    ((isFinite_iff_of_place found).mp finite) Format.double.unit_pos] at product
  rw [stepsOf_of_place product, stepsOf_of_place found]

/-- Only the steps of what is added matter. -/
theorem isFinite_add_congr {change : Float} (finite : a.isFinite = true)
    (finiteShare : share.isFinite = true) (finiteChange : change.isFinite = true)
    (same : stepsOf share = stepsOf change) :
    (a + share).isFinite = true ↔ (a + change).isFinite = true := by
  rw [isFinite_iff_of_place (place?_add finite finiteShare),
    isFinite_iff_of_place (place?_add finite finiteChange), same]

end

/-- The share of a distance in a length that is no less is at most one. -/
theorem nearest_share_le {distance length : Nat} (shorter : distance <= length)
    (some_length : 0 < Format.double.steps (Format.double.nearest length 1)) :
    Format.double.nearest
      (Format.double.steps (Format.double.nearest distance 1) * Format.double.unit)
      (Format.double.steps (Format.double.nearest length 1)) <= onePattern := by
  have steps_le : Format.double.steps (Format.double.nearest distance 1) <=
      Format.double.steps (Format.double.nearest length 1) :=
    Format.steps_le_steps_iff.mpr (Format.nearest_mono Nat.one_pos shorter)
  refine Nat.le_trans (Nat.min_le_right _ _) (Format.place_le some_length ?_)
  rw [steps_onePattern, Nat.mul_comm]
  exact Nat.mul_le_mul_left _ steps_le

theorem exists_steps_sub {x y : Float} (finite : x.isFinite = true) (finite' : y.isFinite = true)
    (less : x <= y) : Exists fun count : Nat => stepsOf y - stepsOf x = count ∧
      stepsOf (y - x) = Format.double.steps (Format.double.nearest count 1) := by
  rcases Int.eq_ofNat_of_zero_le (Int.sub_nonneg_of_le (stepsOf_le_of_le less)) with
    ⟨count, count_eq⟩
  refine ⟨count, count_eq, ?_⟩
  rw [stepsOf_of_place (place?_sub finite' finite), count_eq,
    nearestPlace_natCast _ Nat.one_pos, placeSteps_natCast]

section

variable {a b ratio start stop : Float}

/-- The distance of a ratio from the first of two others, as a share of their distance. -/
theorem isShare_div (finiteRatio : ratio.isFinite = true) (finiteStart : start.isFinite = true)
    (finiteStop : stop.isFinite = true) (reached : start <= ratio) (below : ratio < stop)
    (apart : start < stop) (finiteDistance : (ratio - start).isFinite = true)
    (finiteLength : (stop - start).isFinite = true) :
    IsShare ((ratio - start) / (stop - start)) := by
  rcases exists_steps_sub finiteStart finiteRatio reached with ⟨distance, distance_eq, steps_eq⟩
  rcases exists_steps_sub finiteStart finiteStop ((lt_iff _ _).mp apart).1 with
    ⟨length, length_eq, steps_eq'⟩
  have shorter := stepsOf_lt_of_lt below
  have positive : 0 < stepsOf (stop - start) := by
    have above := stepsOf_lt_of_lt (sub_pos_of_lt apart)
    rwa [stepsOf_of_place place_zero] at above
  have quotient := place?_div finiteDistance finiteLength positive
  rw [steps_eq'] at positive
  have some_length := Int.natCast_pos.mp positive
  have most := nearest_share_le (show distance <= length by omega) some_length
  rw [steps_eq, steps_eq', ← Int.natCast_mul, Int.toNat_natCast,
    nearestPlace_natCast _ some_length] at quotient
  have share_eq := stepsOf_of_place quotient
  rw [placeSteps_natCast] at share_eq
  refine ⟨?_, ?_, ?_⟩
  · rw [isFinite_iff_of_place quotient, Int.natAbs_natCast]
    exact Nat.lt_of_le_of_lt most onePattern_finite
  · rw [share_eq]
    exact Int.natCast_nonneg _
  · have steps_le : Format.double.steps (Format.double.nearest
        (Format.double.steps (Format.double.nearest distance 1) * Format.double.unit)
        (Format.double.steps (Format.double.nearest length 1))) <=
          Format.double.steps onePattern :=
      Format.steps_le_steps_iff.mpr most
    rw [steps_onePattern] at steps_le
    rw [share_eq]
    exact Int.ofNat_le.mpr steps_le

theorem stepsOf_eq_of_beq {x y : Float} (same : (x == y) = true) : stepsOf x = stepsOf y := by
  rcases (beq_iff_place x y).mp same with ⟨place, found, found'⟩
  rw [stepsOf_of_place found, stepsOf_of_place found']

theorem beq_one_iff {share : Float} (finite : share.isFinite = true) :
    (share == 1) = true ↔ stepsOf share = Format.double.unit := by
  have one : stepsOf 1 = Format.double.unit := by
    rw [stepsOf_of_place place_one, placeSteps_natCast, steps_onePattern]
  rw [← one]
  refine ⟨stepsOf_eq_of_beq, fun same => ?_⟩
  rcases exists_place_of_finite finite with ⟨place, found⟩
  have place_eq := Datum.place_eq_of_signedSteps found place_one same
  exact (beq_iff_place _ _).mpr ⟨place, found, place_eq ▸ place_one⟩

theorem isFinite_of_beq {x y : Float} (same : (x == y) = true) (finite : y.isFinite = true) :
    x.isFinite = true := by
  rcases (beq_iff_place x y).mp same with ⟨place, found, found'⟩
  rw [isFinite_iff_of_place found, ← isFinite_iff_of_place found']
  exact finite

/-- The sum that is sampled between two keys is finite if the distance of the ratio and the
difference of the values are, and if all of the difference may be added where the share is
one. -/
theorem isFinite_interpolate_iff (finite : a.isFinite = true) (finite' : b.isFinite = true)
    (finiteRatio : ratio.isFinite = true) (finiteStart : start.isFinite = true)
    (finiteStop : stop.isFinite = true) (reached : start <= ratio) (below : ratio < stop)
    (apart : start < stop) :
    (a + (b - a) * ((ratio - start) / (stop - start))).isFinite = true ↔
      (ratio - start).isFinite = true ∧ (b - a).isFinite = true ∧
        (((ratio - start) / (stop - start) == 1) = true -> (a + (b - a)).isFinite = true) := by
  have whole (finiteDifference : (b - a).isFinite = true)
      (finiteShare : ((ratio - start) / (stop - start)).isFinite = true)
      (finiteProduct : ((b - a) * ((ratio - start) / (stop - start))).isFinite = true)
      (one : ((ratio - start) / (stop - start) == 1) = true) :
      (a + (b - a) * ((ratio - start) / (stop - start))).isFinite = true ↔
        (a + (b - a)).isFinite = true :=
    isFinite_add_congr finite finiteProduct finiteDifference
      (stepsOf_mul_one finiteDifference finiteShare ((beq_one_iff finiteShare).mp one))
  constructor
  · intro finiteSum
    have finiteProduct := (isFinite_of_add finiteSum).2
    have finiteFactors := isFinite_of_mul finiteProduct
    exact ⟨isFinite_of_div finiteFactors.2, finiteFactors.1, fun one =>
      (whole finiteFactors.1 finiteFactors.2 finiteProduct one).mp finiteSum⟩
  · rintro ⟨finiteDistance, finiteDifference, all⟩
    by_cases finiteLength : (stop - start).isFinite = true
    · have shared := isShare_div finiteRatio finiteStart finiteStop reached below apart
        finiteDistance finiteLength
      by_cases one : ((ratio - start) / (stop - start) == 1) = true
      · exact (whole finiteDifference shared.finite (shared.isFinite_mul finiteDifference) one).mpr
          (all one)
      · have less := lt_of_le_of_ne shared.most fun same => one ((beq_one_iff shared.finite).mpr same)
        exact shared.isFinite_of_lt less finite finite' finiteDifference
    · -- In an infinite length there is no share of a finite distance.
      have none := div_beq_zero_of_infinite finiteDistance (sub_pos_of_lt apart) finiteLength
      exact isFinite_of_beq (add_beq_self finite (mul_beq_zero finiteDifference none)) finite

end

end Number

namespace Gradient

variable {n : Nat}

def FiniteRatios (keys : List (GradientKey Float (Vector Component n))) : Prop :=
  forall key, key ∈ keys -> key.ratio.isFinite = true

instance (keys : List (GradientKey Float (Vector Component n))) : Decidable (FiniteRatios keys) :=
  inferInstanceAs (Decidable (forall key, key ∈ keys -> key.ratio.isFinite = true))

/-- What stays in the range of the numbers between two keys: the distance of the ratio from
the first, the difference of the values, and all of that difference added to the first
value, if the share of it is rounded up to one. -/
structure StaysFinite (ratio : Float) (start stop : GradientKey Float (Vector Component n))
    (place : Fin n) : Prop where
  distance : (ratio - start.ratio).isFinite = true
  difference : (stop.value.get place - start.value.get place).toFloat.isFinite = true
  sum : ((ratio - start.ratio) / (stop.ratio - start.ratio) == 1) = true ->
    (start.value.get place + (stop.value.get place - start.value.get place)).toFloat.isFinite = true

theorem Brackets.isFinite_interpolate_iff
    {keys front back : List (GradientKey Float (Vector Component n))}
    {start stop : GradientKey Float (Vector Component n)} {ratio : Float}
    (brackets : Brackets keys ratio front start stop back) (finiteRatios : FiniteRatios keys)
    (finiteValues : FiniteValues keys) (finiteRatio : ratio.isFinite = true) (place : Fin n) :
    ((interpolate ratio start stop).get place).toFloat.isFinite = true ↔
      StaysFinite ratio start stop place := by
  have between := Number.isFinite_interpolate_iff (finiteValues start brackets.start_mem place)
    (finiteValues stop brackets.stop_mem place) finiteRatio
    (finiteRatios start brackets.start_mem) (finiteRatios stop brackets.stop_mem)
    brackets.start_le brackets.lt_stop brackets.start_lt_stop
  rw [get_interpolate]
  exact between.trans ⟨fun ⟨distance, difference, sum⟩ => ⟨distance, difference, sum⟩,
    fun ⟨distance, difference, sum⟩ => ⟨distance, difference, sum⟩⟩

/-- A component of a sample is finite if the ratio lies before or behind all keys, or if the
numbers that it is computed with between two keys are. -/
theorem isFinite_sample_iff {insertions : List (GradientKey Float (Vector Component n))}
    {ratio : Float} (nonempty : insertions ≠ []) (finiteRatios : FiniteRatios insertions)
    (finiteValues : FiniteValues insertions) (finiteRatio : ratio.isFinite = true) :
    let keys := (ofKeys insertions).toList
    Exists fun value => (ofKeys insertions).sample ratio = .ok value ∧
      forall place : Fin n, (value.get place).toFloat.isFinite = true ↔
        (forall key, key ∈ keys -> ratio <= key.ratio) ∨
        (forall key, key ∈ keys -> key.ratio <= ratio) ∨
        Exists fun start => Exists fun stop => lastUpTo? ratio keys = some start ∧
          firstBeyond? ratio keys = some stop ∧ StaysFinite ratio start stop place := by
  intro keys
  have numeric : NumberKeys insertions := fun key present =>
    Number.isNaN_of_isFinite (finiteRatios key present)
  have kept := (stableSort_ofKeys numeric).perm
  have finiteRatios' : FiniteRatios keys := fun key present =>
    finiteRatios key (kept.mem_iff.mp present)
  have finiteValues' : FiniteValues keys := fun key present =>
    finiteValues key (kept.mem_iff.mp present)
  rcases exists_located_ofKeys nonempty numeric (Number.isNaN_of_isFinite finiteRatio) with
    ⟨value, sampled, located⟩
  refine ⟨value, sampled, fun place => ?_⟩
  cases located with
  | @first key below starts =>
    exact iff_of_true (finiteValues' key (List.mem_of_head? starts) place) (.inl below)
  | @last key inside above ends =>
    exact iff_of_true (finiteValues' key (List.mem_of_getLast? ends) place) (.inr (.inl above))
  | @between front back start stop inside brackets =>
    have short : ¬ forall key, key ∈ keys -> key.ratio <= ratio := fun above =>
      Std.not_le_of_gt brackets.lt_stop (above stop brackets.stop_mem)
    rw [brackets.isFinite_interpolate_iff finiteRatios' finiteValues' finiteRatio place]
    constructor
    · exact fun stays =>
        .inr (.inr ⟨start, stop, brackets.lastUpTo?_eq, brackets.firstBeyond?_eq, stays⟩)
    · rintro (below | above | ⟨_, _, found, found', stays⟩)
      · exact absurd below inside
      · exact absurd above short
      · cases brackets.lastUpTo?_eq.symm.trans found
        cases brackets.firstBeyond?_eq.symm.trans found'
        exact stays

/-- Just before the second key the share is rounded up to one, and the first sum leaves the
range although the difference does not. -/
theorem share_rounded_to_one_sampled :
    let start : GradientKey Float (Vector Component 2) :=
      { ratio := -1, value := #v[.number 2.9937604643020797e292, .number 0] }
    let stop : GradientKey Float (Vector Component 2) :=
      { ratio := 1e-300, value := #v[.number 1.7976931348623157e308, .number 1] }
    let insertions := [stop, start]
    let keys := (ofKeys insertions).toList
    insertions ≠ [] ∧ FiniteRatios insertions ∧ FiniteValues insertions ∧
      Float.isFinite 0 = true ∧ Exists fun value =>
        (ofKeys insertions).sample 0 = .ok value ∧
        (forall place : Fin 2, (value.get place).toFloat.isFinite = true ↔
          (forall key, key ∈ keys -> 0 <= key.ratio) ∨
          (forall key, key ∈ keys -> key.ratio <= 0) ∨
          Exists fun start => Exists fun stop => lastUpTo? 0 keys = some start ∧
            firstBeyond? 0 keys = some stop ∧ StaysFinite 0 start stop place) ∧
        (value.get 0).toFloat.isFinite = false ∧ (value.get 1).toFloat.isFinite = true := by
  intro start stop insertions keys
  have finiteRatios : FiniteRatios insertions := by decide +kernel
  have finiteValues : FiniteValues insertions := by decide +kernel
  have finiteRatio : Float.isFinite 0 = true := by decide +kernel
  have result : (ofKeys insertions).sample 0 = .ok #v[.number (1 / 0), .number 1] := by
    decide +kernel
  rcases isFinite_sample_iff (by decide) finiteRatios finiteValues finiteRatio with
    ⟨value, sampled, finite_iff⟩
  refine ⟨by decide, finiteRatios, finiteValues, finiteRatio, value, sampled, finite_iff, ?_⟩
  obtain rfl := Except.ok.inj (sampled.symm.trans result)
  decide +kernel

/-- Between keys whose values are too far apart a sample is not finite. -/
theorem wide_sample_is_infinite :
    let insertions : List (GradientKey Float (Vector Component 2)) :=
      [{ ratio := 0, value := #v[.number (-1e308), .number (-1e308)] },
        { ratio := 1, value := #v[.number 1e308, .number 1e308] }]
    insertions ≠ [] ∧ FiniteRatios insertions ∧ FiniteValues insertions ∧
      Float.isFinite 0.5 = true ∧
      ¬ Exists fun value => (ofKeys insertions).sample 0.5 = .ok value ∧
        forall place : Fin 2, (value.get place).toFloat.isFinite = true := by
  intro insertions
  have result : (ofKeys insertions).sample 0.5 = .ok #v[.number (1 / 0), .number (1 / 0)] := by
    decide +kernel
  refine ⟨by decide, by decide +kernel, by decide +kernel, by decide +kernel, ?_⟩
  rintro ⟨value, sampled, finite⟩
  obtain rfl := Except.ok.inj (sampled.symm.trans result)
  exact absurd (finite 0) (by decide +kernel)

end Gradient
end ParticleEffects
