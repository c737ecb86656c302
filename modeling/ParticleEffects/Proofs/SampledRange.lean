import Mathlib.Algebra.Order.Field.Rat
import Mathlib.Data.Set.Finite.Lemmas
import Mathlib.Tactic.Ring
import ParticleEffects.Proofs.PiecewiseLinear

namespace ParticleEffects
namespace Gradient

/-!
The range of sampled values, and their order.

Computed with rational numbers, a sampled component never leaves the components of the
keys, nor, between two neighbours, theirs.  If a component does not fall from key to key,
it does not fall as the ratio grows either: a ratio between the same neighbours takes a
greater share of the same rise, and all ratios beyond them lie behind its end.
-/

variable {n : Nat}

section Shares

variable {a b bound share share' : Rat}

theorem le_mix (nonneg : 0 <= share) (le_one : share <= 1) (below : bound <= a)
    (below' : bound <= b) : bound <= a + (b - a) * share :=
  calc bound = bound * (1 - share) + bound * share := by ring
    _ <= a * (1 - share) + b * share :=
      add_le_add (mul_le_mul_of_nonneg_right below (sub_nonneg.mpr le_one))
        (mul_le_mul_of_nonneg_right below' nonneg)
    _ = a + (b - a) * share := by ring

theorem mix_le (nonneg : 0 <= share) (le_one : share <= 1) (above : a <= bound)
    (above' : b <= bound) : a + (b - a) * share <= bound :=
  calc a + (b - a) * share = a * (1 - share) + b * share := by ring
    _ <= bound * (1 - share) + bound * share :=
      add_le_add (mul_le_mul_of_nonneg_right above (sub_nonneg.mpr le_one))
        (mul_le_mul_of_nonneg_right above' nonneg)
    _ = bound := by ring

theorem mix_mono (rises : a <= b) (less : share <= share') :
    a + (b - a) * share <= a + (b - a) * share' :=
  add_le_add_right (mul_le_mul_of_nonneg_left less (sub_nonneg.mpr rises)) a

end Shares

variable {keys front back front' back' : List (GradientKey Rat (Vector Rat n))}
  {start stop start' stop' : GradientKey Rat (Vector Rat n)} {ratio ratio' : Rat}
  {value value' : Vector Rat n} {bound : Rat} {place : Fin n}

/-- A component does not fall from key to key. -/
def Rises (keys : List (GradientKey Rat (Vector Rat n))) (place : Fin n) : Prop :=
  keys.Pairwise fun first second => first.value.get place <= second.value.get place

instance (keys : List (GradientKey Rat (Vector Rat n))) (place : Fin n) :
    Decidable (Rises keys place) :=
  inferInstanceAs
    (Decidable (keys.Pairwise fun first second => first.value.get place <= second.value.get place))

theorem Rises.first_le (rises : Rises keys place) {first : GradientKey Rat (Vector Rat n)}
    (starts : keys.head? = some first) {key : GradientKey Rat (Vector Rat n)}
    (present : key ∈ keys) : first.value.get place <= key.value.get place := by
  rcases List.head?_eq_some_iff.mp starts with ⟨rest, rfl⟩
  rcases List.mem_cons.mp present with rfl | later
  · exact le_rfl
  · exact (List.pairwise_cons.mp rises).1 key later

theorem Rises.le_last (rises : Rises keys place) {last : GradientKey Rat (Vector Rat n)}
    (ends : keys.getLast? = some last) {key : GradientKey Rat (Vector Rat n)}
    (present : key ∈ keys) : key.value.get place <= last.value.get place := by
  rcases eq_or_rel_of_getLast? rises ends present with rfl | below
  · exact le_rfl
  · exact below

/-- A number lies between the least and the greatest value of a component among keys. -/
structure InRange (keys : List (GradientKey Rat (Vector Rat n))) (place : Fin n) (x : Rat) :
    Prop where
  least : Exists fun low => low ∈ keys ∧ low.value.get place <= x ∧
    forall key, key ∈ keys -> low.value.get place <= key.value.get place
  greatest : Exists fun high => high ∈ keys ∧ x <= high.value.get place ∧
    forall key, key ∈ keys -> key.value.get place <= high.value.get place

/-! ## Between neighbours -/

namespace Brackets

variable (brackets : Brackets keys ratio front start stop back)
include brackets

theorem share_nonneg : 0 <= (ratio - start.ratio) / (stop.ratio - start.ratio) :=
  div_nonneg (sub_nonneg.mpr brackets.start_le) (sub_nonneg.mpr brackets.start_lt_stop.le)

theorem share_le_one : (ratio - start.ratio) / (stop.ratio - start.ratio) <= 1 :=
  (div_le_one (sub_pos.mpr brackets.start_lt_stop)).mpr
    (sub_le_sub_right brackets.lt_stop.le start.ratio)

theorem le_interpolate (below : bound <= start.value.get place)
    (below' : bound <= stop.value.get place) :
    bound <= (interpolate ratio start stop).get place := by
  rw [get_interpolate]
  exact le_mix brackets.share_nonneg brackets.share_le_one below below'

theorem interpolate_le (above : start.value.get place <= bound)
    (above' : stop.value.get place <= bound) :
    (interpolate ratio start stop).get place <= bound := by
  rw [get_interpolate]
  exact mix_le brackets.share_nonneg brackets.share_le_one above above'

theorem interpolate_mono (rises : start.value.get place <= stop.value.get place)
    (less : ratio <= ratio') :
    (interpolate ratio start stop).get place <= (interpolate ratio' start stop).get place := by
  rw [get_interpolate, get_interpolate]
  exact mix_mono rises (div_le_div_of_nonneg_right (sub_le_sub_right less start.ratio)
    (sub_nonneg.mpr brackets.start_lt_stop.le))

theorem rise (rises : Rises keys place) : start.value.get place <= stop.value.get place := by
  rw [brackets.split] at rises
  exact (List.pairwise_cons.mp (List.pairwise_append.mp rises).2.1).1 stop List.mem_cons_self

/-- A ratio has one pair of neighbours. -/
theorem unique (others : Brackets keys ratio front' start' stop' back') :
    start = start' ∧ stop = stop' :=
  ⟨Option.some.inj (brackets.lastUpTo?_eq.symm.trans others.lastUpTo?_eq),
    Option.some.inj (brackets.firstBeyond?_eq.symm.trans others.firstBeyond?_eq)⟩

/-- Up to the next key, a greater ratio has the same neighbours. -/
theorem of_le (ordered : keys.Pairwise fun first second => first.ratio <= second.ratio)
    (less : ratio <= ratio') (short : ratio' < stop.ratio) :
    Brackets keys ratio' front start stop back := by
  refine ⟨brackets.split, fun key present => (brackets.reached key present).trans less,
    fun key present => short.trans_le ?_⟩
  rw [brackets.halves] at ordered
  rcases List.mem_cons.mp present with rfl | later
  · exact le_rfl
  · exact (List.pairwise_cons.mp (List.pairwise_append.mp ordered).2.1).1 key later

/-- Beyond the next key, the neighbours of a ratio lie behind it. -/
theorem stop_le_start (rises : Rises keys place)
    (others : Brackets keys ratio' front' start' stop' back') (passed : stop.ratio <= ratio') :
    stop.value.get place <= start'.value.get place := by
  have present := brackets.stop_mem
  rw [others.halves] at present rises
  rcases List.mem_append.mp present with early | late
  · have front_rises : Rises (front' ++ [start']) place := (List.pairwise_append.mp rises).1
    exact front_rises.le_last List.getLast?_concat early
  · exact absurd passed (others.beyond stop late).not_ge

end Brackets

/-! ## At any place -/

namespace Located

variable (located : Located ratio keys value)
include located

theorem le_value (below : forall key, key ∈ keys -> bound <= key.value.get place) :
    bound <= value.get place := by
  cases located with
  | first _ starts => exact below _ (List.mem_of_mem_head? starts)
  | last _ _ ends => exact below _ (List.mem_of_getLast? ends)
  | between _ brackets =>
    exact brackets.le_interpolate (below _ brackets.start_mem) (below _ brackets.stop_mem)

theorem value_le (above : forall key, key ∈ keys -> key.value.get place <= bound) :
    value.get place <= bound := by
  cases located with
  | first _ starts => exact above _ (List.mem_of_mem_head? starts)
  | last _ _ ends => exact above _ (List.mem_of_getLast? ends)
  | between _ brackets =>
    exact brackets.interpolate_le (above _ brackets.start_mem) (above _ brackets.stop_mem)

theorem inRange (place : Fin n) : InRange keys place (value.get place) := by
  have nonempty : Set.Nonempty {key | key ∈ keys} := by
    cases located with
    | first _ starts => exact ⟨_, List.mem_of_mem_head? starts⟩
    | last _ _ ends => exact ⟨_, List.mem_of_getLast? ends⟩
    | between _ brackets => exact ⟨_, brackets.start_mem⟩
  let component (key : GradientKey Rat (Vector Rat n)) : Rat := key.value.get place
  constructor
  · rcases Set.exists_min_image _ component keys.finite_toSet nonempty with ⟨low, present, least⟩
    exact ⟨low, present, located.le_value least, least⟩
  · rcases Set.exists_max_image _ component keys.finite_toSet nonempty with
      ⟨high, present, greatest⟩
    exact ⟨high, present, located.value_le greatest, greatest⟩

/-- Between neighbours a value stays between theirs.  At the least ratio this holds only
if its neighbours start at the first key. -/
theorem mem_segment (brackets : Brackets keys ratio front start stop back)
    (inside : front = [] ∨ Exists fun key => key ∈ keys ∧ key.ratio < ratio) (place : Fin n) :
    min (start.value.get place) (stop.value.get place) <= value.get place ∧
      value.get place <= max (start.value.get place) (stop.value.get place) := by
  cases located with
  | @first key below starts =>
    rcases inside with rfl | ⟨lesser, present, less⟩
    · rw [brackets.split] at starts
      cases starts
      exact ⟨min_le_left _ _, le_max_left _ _⟩
    · exact absurd (below lesser present) less.not_ge
  | last _ above => exact absurd (above stop brackets.stop_mem) brackets.lt_stop.not_ge
  | between _ others =>
    rcases brackets.unique others with ⟨rfl, rfl⟩
    exact ⟨others.le_interpolate (min_le_left _ _) (min_le_right _ _),
      others.interpolate_le (le_max_left _ _) (le_max_right _ _)⟩

/-- What does not fall from key to key does not fall as the ratio grows. -/
theorem value_mono (located' : Located ratio' keys value')
    (ordered : keys.Pairwise fun first second => first.ratio <= second.ratio)
    (rises : Rises keys place) (less : ratio <= ratio') : value.get place <= value'.get place := by
  cases located' with
  | last _ _ ends => exact located.value_le fun key present => rises.le_last ends present
  | first below' starts' =>
    cases located with
    | first _ starts =>
      cases starts.symm.trans starts'
      exact le_rfl
    | last inside => exact absurd (fun key present => less.trans (below' key present)) inside
    | between inside => exact absurd (fun key present => less.trans (below' key present)) inside
  | @between front' back' start' stop' _ brackets' =>
    cases located with
    | first _ starts =>
      exact brackets'.le_interpolate (rises.first_le starts brackets'.start_mem)
        (rises.first_le starts brackets'.stop_mem)
    | last _ above =>
      exact absurd ((above stop' brackets'.stop_mem).trans less) brackets'.lt_stop.not_ge
    | @between front back start stop _ brackets =>
      -- Both ratios lie in one segment, or the greater one lies behind the end of the first.
      rcases lt_or_ge ratio' stop.ratio with short | passed
      · rcases (brackets.of_le ordered less short).unique brackets' with ⟨rfl, rfl⟩
        exact brackets.interpolate_mono (brackets.rise rises) less
      · calc (interpolate ratio start stop).get place
            <= stop.value.get place := brackets.interpolate_le (brackets.rise rises) le_rfl
          _ <= start'.value.get place := brackets.stop_le_start rises brackets' passed
          _ <= (interpolate ratio' start' stop').get place :=
            brackets'.le_interpolate le_rfl (brackets'.rise rises)

end Located

/-! ## Gradients of rational numbers -/

theorem InRange.of_perm {others : List (GradientKey Rat (Vector Rat n))} {x : Rat}
    (inRange : InRange keys place x) (perm : keys.Perm others) : InRange others place x := by
  rcases inRange with ⟨⟨low, present, least⟩, ⟨high, present', greatest⟩⟩
  simp only [perm.mem_iff] at present present' least greatest
  exact ⟨⟨low, present, least⟩, ⟨high, present', greatest⟩⟩

theorem exists_located_ofKeys_rat {insertions : List (GradientKey Rat (Vector Rat n))}
    (nonempty : insertions ≠ []) (ratio : Rat) :
    Exists fun value => (ofKeys insertions).sample ratio = .ok value ∧
      Located ratio (ofKeys insertions).toList value :=
  exists_located (pairwise_ofKeys insertions) (fun key _ => le_total ratio key.ratio) fun none =>
    nonempty (List.perm_nil.mp (none ▸ perm_ofKeys insertions).symm)

/-- A gradient with a key can be sampled at any ratio.  Each component lies in the range
of the inserted ones, between neighbours in theirs, and it does not fall from a ratio to a
greater one if it does not fall from key to key. -/
theorem sample_inRange_and_mono {insertions : List (GradientKey Rat (Vector Rat n))}
    (nonempty : insertions ≠ []) :
    let keys := (ofKeys insertions).toList
    (forall ratio, Exists fun value => (ofKeys insertions).sample ratio = .ok value ∧
      forall place : Fin n, InRange insertions place (value.get place) ∧
        forall front start stop back, Brackets keys ratio front start stop back ->
          (front = [] ∨ Exists fun key => key ∈ keys ∧ key.ratio < ratio) ->
          min (start.value.get place) (stop.value.get place) <= value.get place ∧
            value.get place <= max (start.value.get place) (stop.value.get place)) ∧
      forall place : Fin n, Rises keys place -> forall ratio ratio', ratio <= ratio' ->
        Exists fun value => Exists fun value' => (ofKeys insertions).sample ratio = .ok value ∧
          (ofKeys insertions).sample ratio' = .ok value' ∧ value.get place <= value'.get place := by
  intro keys
  refine ⟨fun ratio => ?_, fun place rises ratio ratio' less => ?_⟩
  · rcases exists_located_ofKeys_rat nonempty ratio with ⟨value, sampled, located⟩
    exact ⟨value, sampled, fun place => ⟨(located.inRange place).of_perm (perm_ofKeys insertions),
      fun _ _ _ _ brackets inside => located.mem_segment brackets inside place⟩⟩
  · rcases exists_located_ofKeys_rat nonempty ratio with ⟨value, sampled, located⟩
    rcases exists_located_ofKeys_rat nonempty ratio' with ⟨value', sampled', located'⟩
    exact ⟨value, value', sampled, sampled',
      located.value_mono located' (pairwise_ofKeys insertions) rises less⟩

/-- One component rises over a step, the other one does not. -/
theorem step_inRange_and_mono :
    let insertions : List (GradientKey Rat (Vector Rat 2)) :=
      [{ ratio := 1, value := #v[4, 0] }, { ratio := 0, value := #v[0, 3] },
        { ratio := 1 / 2, value := #v[1, 1] }, { ratio := 1 / 2, value := #v[2, 5] }]
    let keys := (ofKeys insertions).toList
    insertions ≠ [] ∧ Rises keys 0 ∧ ¬ Rises keys 1 ∧
      (forall ratio, Exists fun value => (ofKeys insertions).sample ratio = .ok value ∧
        forall place : Fin 2, InRange insertions place (value.get place)) ∧
      forall ratio ratio', ratio <= ratio' ->
        Exists fun value => Exists fun value' => (ofKeys insertions).sample ratio = .ok value ∧
          (ofKeys insertions).sample ratio' = .ok value' ∧
            value.get 0 <= value'.get 0 := by
  intro insertions keys
  have nonempty : insertions ≠ [] := by decide
  have rises : Rises keys 0 := by decide +kernel
  have falls : ¬ Rises keys 1 := by decide +kernel
  have sampled := sample_inRange_and_mono nonempty
  refine ⟨nonempty, rises, falls, fun ratio => ?_, sampled.2 0 rises⟩
  rcases sampled.1 ratio with ⟨value, found, inside⟩
  exact ⟨value, found, fun place => (inside place).1⟩

end Gradient
end ParticleEffects
