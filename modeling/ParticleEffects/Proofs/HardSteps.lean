import Mathlib.Data.List.Chain
import ParticleEffects.Proofs.PiecewiseLinear

namespace ParticleEffects

/-!
Hard steps.

Keys that share a ratio make a step there.  Sampled at that ratio, the interpolation
starts at the last of them and goes no further, and behind the other keys the last
of them holds as well.  Only before all other keys it is the first of them that
holds, so that a step at the least ratio is taken late.
-/

open Spatial

namespace Number

/-- Between equal numbers there is nothing to add. -/
theorem interpolate_start {a b ratio start stop : Float} (finite : a.isFinite = true)
    (finiteStep : (b - a).isFinite = true) (finiteRatio : ratio.isFinite = true)
    (reached : start <= ratio) (least : ratio <= start) (apart : start < stop) :
    (a + (b - a) * ((ratio - start) / (stop - start)) == a) = true := by
  have none : (ratio - start == 0) = true :=
    sub_beq_zero finiteRatio ((beq_iff _ _).mpr ⟨least, reached⟩)
  have share : ((ratio - start) / (stop - start) == 0) = true :=
    div_beq_zero none (sub_pos_of_lt apart)
  exact add_beq_self finite (mul_beq_zero finiteStep share)

end Number

namespace Gradient

variable {n : Nat}

/-- Values are the same numbers.  Zeros of either sign are one number. -/
def SameNumbers (first second : Vector Component n) : Prop :=
  forall place : Fin n, ((first.get place).toFloat == (second.get place).toFloat) = true

instance (first second : Vector Component n) : Decidable (SameNumbers first second) :=
  inferInstanceAs (Decidable
    (forall place : Fin n, ((first.get place).toFloat == (second.get place).toFloat) = true))

def FiniteValues (keys : List (GradientKey Float (Vector Component n))) : Prop :=
  forall key, key ∈ keys -> forall place : Fin n, (key.value.get place).toFloat.isFinite = true

instance (keys : List (GradientKey Float (Vector Component n))) : Decidable (FiniteValues keys) :=
  inferInstanceAs (Decidable
    (forall key, key ∈ keys -> forall place : Fin n, (key.value.get place).toFloat.isFinite = true))

/-- The values of neighbours have finite differences. -/
def FiniteSteps (keys : List (GradientKey Float (Vector Component n))) : Prop :=
  keys.IsChain fun start stop =>
    forall place : Fin n, (stop.value.get place - start.value.get place).toFloat.isFinite = true

instance (keys : List (GradientKey Float (Vector Component n))) : Decidable (FiniteSteps keys) :=
  inferInstanceAs (Decidable (keys.IsChain fun start stop =>
    forall place : Fin n, (stop.value.get place - start.value.get place).toFloat.isFinite = true))

section

variable {keys front back : List (GradientKey Float (Vector Component n))}
  {start stop : GradientKey Float (Vector Component n)} {ratio : Float}

theorem FiniteValues.sameNumbers (finite : FiniteValues keys)
    {key : GradientKey Float (Vector Component n)} (present : key ∈ keys) :
    SameNumbers key.value key.value :=
  fun place => Number.beq_self (Number.isNaN_of_isFinite (finite key present place))

/-- The first key of the least ratio is the first of all keys. -/
theorem head?_keysAt_of_head? {first : GradientKey Float (Vector Component n)}
    (starts : keys.head? = some first) (same : (first.ratio == ratio) = true) :
    (keysAt ratio keys).head? = some first := by
  rcases List.head?_eq_some_iff.mp starts with ⟨rest, rfl⟩
  rw [keysAt_cons_of_eq same, List.head?_cons]

/-- The last key of the greatest ratio is the last of all keys. -/
theorem getLast?_keysAt_concat (same : (start.ratio == ratio) = true) :
    (keysAt ratio (front ++ [start])).getLast? = some start := by
  rw [keysAt_append, keysAt_cons_of_eq same]
  exact List.getLast?_concat

/-- The last key of a ratio is the one from which is interpolated there. -/
theorem Brackets.getLast?_keysAt (brackets : Brackets keys ratio front start stop back)
    (same : (start.ratio == ratio) = true) : (keysAt ratio keys).getLast? = some start := by
  have nothing : keysAt ratio (stop :: back) = [] :=
    List.filter_eq_nil_iff.mpr fun key present equal =>
      Std.not_le_of_gt (brackets.beyond key present) ((Number.beq_iff _ _).mp equal).1
  rw [brackets.halves, keysAt_append, nothing, List.append_nil, getLast?_keysAt_concat same]

/-- A ratio that does not lie before all keys lies beyond one of them. -/
theorem exists_ratio_lt (numbers : NumberKeys keys) (number : ratio.isNaN = false)
    (inside : ¬ forall key, key ∈ keys -> ratio <= key.ratio) :
    Exists fun key => key ∈ keys ∧ key.ratio < ratio := by
  rw [not_forall] at inside
  rcases inside with ⟨key, passed⟩
  rcases Classical.not_imp.mp passed with ⟨present, above⟩
  exact ⟨key, present, (Number.lt_iff _ _).mpr
    ⟨(Number.le_total number (numbers key present)).resolve_left above, above⟩⟩

end

/-! ## The ratio of a key -/

section Corner

variable {keys : List (GradientKey Float (Vector Component n))} {ratio : Float}
  {value : Vector Component n} {corner : GradientKey Float (Vector Component n)}
  (ordered : keys.Pairwise fun first second => first.ratio <= second.ratio)
  (present : corner ∈ keys) (same : (corner.ratio == ratio) = true)
include ordered present same

/-- If a key has the ratio, so has the one from which is interpolated. -/
theorem Brackets.start_beq {front back : List (GradientKey Float (Vector Component n))}
    {start stop : GradientKey Float (Vector Component n)}
    (brackets : Brackets keys ratio front start stop back) : (start.ratio == ratio) = true := by
  have reached := (Number.beq_iff _ _).mp same
  refine (Number.beq_iff _ _).mpr ⟨brackets.start_le, ?_⟩
  rw [brackets.halves] at ordered present
  rcases List.mem_append.mp present with early | late
  · rcases eq_or_rel_of_getLast? (List.pairwise_append.mp ordered).1 List.getLast?_concat early with
      rfl | below
    · exact reached.2
    · exact Number.le_trans reached.2 below
  · exact absurd reached.1 (Std.not_le_of_gt (brackets.beyond corner late))

/-- Behind a lesser ratio the last key of the ratio holds. -/
theorem Located.sameNumbers_getLast? (finite : FiniteValues keys) (finiteSteps : FiniteSteps keys)
    (located : Located ratio keys value) (less : Exists fun key => key ∈ keys ∧ key.ratio < ratio) :
    Exists fun last => (keysAt ratio keys).getLast? = some last ∧ SameNumbers value last.value := by
  rcases less with ⟨lesser, member, less⟩
  cases located with
  | first below => exact absurd (below lesser member) (Std.not_le_of_gt less)
  | @last key inside above ends =>
    rcases List.getLast?_eq_some_iff.mp ends with ⟨front, rfl⟩
    have last_same : (key.ratio == ratio) = true := by
      refine (Number.beq_iff _ _).mpr ⟨above key List.mem_concat_self, ?_⟩
      rcases eq_or_rel_of_getLast? ordered ends present with rfl | below
      · exact ((Number.beq_iff _ _).mp same).2
      · exact Number.le_trans ((Number.beq_iff _ _).mp same).2 below
    exact ⟨key, getLast?_keysAt_concat last_same, finite.sameNumbers List.mem_concat_self⟩
  | @between front back start stop inside brackets =>
    have start_same := brackets.start_beq ordered present same
    refine ⟨start, brackets.getLast?_keysAt start_same, fun place => ?_⟩
    rw [brackets.split] at finiteSteps
    have finiteStep := (List.isChain_append_cons_cons.mp finiteSteps).2.1 place
    have finiteRatio := Number.isFinite_of_lt_of_lt less brackets.lt_stop
    -- The ratio is that of the start, and finite since it lies between two others.
    rw [get_interpolate]
    exact Number.interpolate_start (finite start brackets.start_mem place) finiteStep
      finiteRatio brackets.start_le ((Number.beq_iff _ _).mp start_same).2 brackets.start_lt_stop

/-- At the least ratio the first key of the ratio holds. -/
theorem Located.eq_head? (numbers : NumberKeys keys) (located : Located ratio keys value)
    (least : forall key, key ∈ keys -> ¬ key.ratio < ratio) :
    Exists fun first => (keysAt ratio keys).head? = some first ∧ value = first.value := by
  have reached := (Number.beq_iff _ _).mp same
  have number : ratio.isNaN = false := (Number.isNaN_of_le reached.1).2
  have below : forall key, key ∈ keys -> ratio <= key.ratio := by
    by_contra inside
    rcases exists_ratio_lt numbers number inside with ⟨key, member, less⟩
    exact least key member less
  cases located with
  | @first key _ starts =>
    refine ⟨key, head?_keysAt_of_head? starts ?_, rfl⟩
    rcases List.head?_eq_some_iff.mp starts with ⟨rest, rfl⟩
    exact (Number.beq_iff _ _).mpr
      ⟨Number.le_trans (head_ratio_le ordered numbers.head present) reached.1,
        below key List.mem_cons_self⟩
  | last inside => exact absurd below inside
  | between inside => exact absurd below inside

end Corner

/-- At the ratio of a key, sampling gives the value of the key of that ratio that was
inserted last, unless it is the least ratio; there it gives the value of the one that was
inserted first. -/
theorem sample_at_step {insertions : List (GradientKey Float (Vector Component n))} {ratio : Float}
    (numeric : NumberKeys insertions) (finite : FiniteValues insertions)
    (finiteSteps : FiniteSteps (ofKeys insertions).toList)
    (present : Exists fun key => key ∈ insertions ∧ (key.ratio == ratio) = true) :
    Exists fun value => (ofKeys insertions).sample ratio = .ok value ∧
      ((Exists fun key => key ∈ insertions ∧ key.ratio < ratio) -> Exists fun last =>
        (keysAt ratio insertions).getLast? = some last ∧ SameNumbers value last.value) ∧
      ((forall key, key ∈ insertions -> ¬ key.ratio < ratio) -> Exists fun first =>
        (keysAt ratio insertions).head? = some first ∧ value = first.value) := by
  have sorted := stableSort_ofKeys numeric
  rcases present with ⟨corner, present, same⟩
  have number : ratio.isNaN = false := (Number.isNaN_of_le ((Number.beq_iff _ _).mp same).1).2
  rcases exists_located_ofKeys (List.ne_nil_of_mem present) numeric number with
    ⟨value, sampled, located⟩
  have finiteValues : FiniteValues (ofKeys insertions).toList :=
    fun key kept => finite key (sorted.perm.mem_iff.mp kept)
  refine ⟨value, sampled, ?_⟩
  rw [← sorted.stable ratio]
  simp only [← sorted.perm.mem_iff] at present ⊢
  exact ⟨located.sameNumbers_getLast? sorted.ordered present same finiteValues finiteSteps,
    located.eq_head? sorted.ordered present same (sorted.numberKeys numeric)⟩

/-- A step halfway is taken at once. -/
theorem step_halfway_sampled :
    let insertions : List (GradientKey Float (Vector Component 2)) :=
      [{ ratio := 1, value := #v[.number 4, .number 8] },
        { ratio := 0, value := #v[.number 0, .number 0] },
        { ratio := 0.5, value := #v[.number 1, .number 1] },
        { ratio := 0.5, value := #v[.number 2, .number 4] }]
    NumberKeys insertions ∧ FiniteValues insertions ∧ FiniteSteps (ofKeys insertions).toList ∧
      (Exists fun key => key ∈ insertions ∧ (key.ratio == 0.5) = true) ∧
      (Exists fun key => key ∈ insertions ∧ key.ratio < 0.5) ∧
      Exists fun value => (ofKeys insertions).sample 0.5 = .ok value ∧ Exists fun last =>
        (keysAt 0.5 insertions).getLast? = some last ∧ SameNumbers value last.value := by
  intro insertions
  have numeric : NumberKeys insertions := by decide +kernel
  have finite : FiniteValues insertions := by decide +kernel
  have finiteSteps : FiniteSteps (ofKeys insertions).toList := by decide +kernel
  have present : Exists fun key => key ∈ insertions ∧ (key.ratio == 0.5) = true := by
    decide +kernel
  have less : Exists fun key => key ∈ insertions ∧ key.ratio < 0.5 := by decide +kernel
  rcases sample_at_step numeric finite finiteSteps present with ⟨value, sampled, last, _⟩
  exact ⟨numeric, finite, finiteSteps, present, less, value, sampled, last less⟩

/-- A step at the least ratio is not taken there. -/
theorem step_at_start_is_not_taken :
    let insertions : List (GradientKey Float (Vector Component 2)) :=
      [{ ratio := 0, value := #v[.number 1, .number 1] },
        { ratio := 0, value := #v[.number 2, .number 2] },
        { ratio := 1, value := #v[.number 3, .number 3] }]
    NumberKeys insertions ∧ FiniteValues insertions ∧ FiniteSteps (ofKeys insertions).toList ∧
      (Exists fun key => key ∈ insertions ∧ (key.ratio == 0) = true) ∧
      ¬ Exists fun value => (ofKeys insertions).sample 0 = .ok value ∧ Exists fun last =>
        (keysAt 0 insertions).getLast? = some last ∧ SameNumbers value last.value := by
  intro insertions
  refine ⟨by decide +kernel, by decide +kernel, by decide +kernel, by decide +kernel, ?_⟩
  rintro ⟨value, sampled, last, added, same⟩
  have first : (ofKeys insertions).sample 0 = .ok #v[.number 1, .number 1] := by decide +kernel
  have second : (keysAt 0 insertions).getLast? =
      some { ratio := 0, value := #v[.number 2, .number 2] } := by decide +kernel
  cases first.symm.trans sampled
  cases second.symm.trans added
  exact absurd same (by decide +kernel)

end Gradient
end ParticleEffects
