import ParticleEffects.Proofs.NumberArithmetic
import ParticleEffects.Proofs.Sampling
import ParticleEffects.Proofs.StableKeys

namespace ParticleEffects
namespace Gradient

/-!
Gradients as piecewise linear functions.

Keys in order are the corners of a function of the ratio.  It is constant up to the
first key and from the last one on.  In between it is linear between two neighbours,
the last key that the ratio reaches and the first one beyond it.  Where keys share a
ratio it steps from the value of the first of them to that of the last.
-/

open Spatial

theorem get_interpolate {ρ α : Type} {n : Nat} [Sub ρ] [Div ρ] [Add α] [Sub α] [HMul α ρ α]
    (ratio : ρ) (start stop : GradientKey ρ (Vector α n)) (place : Fin n) :
    (interpolate ratio start stop).get place = start.value.get place +
      (stop.value.get place - start.value.get place) *
        ((ratio - start.ratio) / (stop.ratio - start.ratio)) :=
  Vector.getElem_zipWith ..

section Reference

variable {ρ Value : Type} [LE ρ] [LT ρ] [DecidableLE ρ] [DecidableLT ρ]

/-- The last key that a ratio reaches. -/
def lastUpTo? (ratio : ρ) (keys : List (GradientKey ρ Value)) : Option (GradientKey ρ Value) :=
  (keys.filter fun key => key.ratio <= ratio).getLast?

/-- The first key beyond a ratio. -/
def firstBeyond? (ratio : ρ) (keys : List (GradientKey ρ Value)) : Option (GradientKey ρ Value) :=
  keys.find? fun key => ratio < key.ratio

variable {α : Type} {n : Nat} [Sub ρ] [Div ρ] [Add α] [Sub α] [HMul α ρ α]

/-- The value of the piecewise linear function through keys. -/
def piecewiseLinear? (keys : List (GradientKey ρ (Vector α n))) (ratio : ρ) :
    Option (Vector α n) :=
  if forall key, key ∈ keys -> ratio <= key.ratio then keys.head?.map GradientKey.value
  else if forall key, key ∈ keys -> key.ratio <= ratio then keys.getLast?.map GradientKey.value
  else do
    let start <- lastUpTo? ratio keys
    let stop <- firstBeyond? ratio keys
    let share := (ratio - start.ratio) / (stop.ratio - start.ratio)
    return .ofFn fun place =>
      start.value.get place + (stop.value.get place - start.value.get place) * share

end Reference

/-! ## Where a ratio lies -/

/-- Neighbours between which a ratio lies. -/
structure Brackets {ρ Value : Type} [LE ρ] [LT ρ] (keys : List (GradientKey ρ Value)) (ratio : ρ)
    (front : List (GradientKey ρ Value)) (start stop : GradientKey ρ Value)
    (back : List (GradientKey ρ Value)) : Prop where
  split : keys = front ++ start :: stop :: back
  reached : forall key, key ∈ front ++ [start] -> key.ratio <= ratio
  beyond : forall key, key ∈ stop :: back -> ratio < key.ratio

namespace Brackets

section

variable {ρ Value : Type} [LE ρ] [LT ρ] {keys front back : List (GradientKey ρ Value)}
  {start stop : GradientKey ρ Value} {ratio : ρ}
  (brackets : Brackets keys ratio front start stop back)
include brackets

theorem halves : keys = (front ++ [start]) ++ (stop :: back) := by
  rw [brackets.split, List.append_assoc, List.singleton_append]

theorem start_mem : start ∈ keys := by
  rw [brackets.split]
  exact List.mem_append_right _ List.mem_cons_self

theorem stop_mem : stop ∈ keys := by
  rw [brackets.halves]
  exact List.mem_append_right _ List.mem_cons_self

theorem start_le : start.ratio <= ratio := brackets.reached start List.mem_concat_self

theorem lt_stop : ratio < stop.ratio := brackets.beyond stop List.mem_cons_self

variable [Std.LawfulOrderLT ρ]

theorem start_lt_stop [IsTrans ρ (· <= ·)] : start.ratio < stop.ratio := by
  have below : start.ratio <= stop.ratio :=
    IsTrans.trans _ _ _ brackets.start_le (Std.le_of_lt brackets.lt_stop)
  refine Std.lt_iff_le_and_not_ge.mpr ⟨below, fun above => ?_⟩
  exact Std.not_le_of_gt brackets.lt_stop (IsTrans.trans _ _ _ above brackets.start_le)

theorem lastUpTo?_eq [DecidableLE ρ] : lastUpTo? ratio keys = some start := by
  have kept : (front ++ [start]).filter (fun key => decide (key.ratio <= ratio)) =
      front ++ [start] :=
    List.filter_eq_self.mpr fun key present => decide_eq_true (brackets.reached key present)
  have dropped : (stop :: back).filter (fun key => decide (key.ratio <= ratio)) = [] :=
    List.filter_eq_nil_iff.mpr fun key present reached =>
      Std.not_le_of_gt (brackets.beyond key present) (of_decide_eq_true reached)
  rw [lastUpTo?, brackets.halves, List.filter_append, kept, dropped, List.append_nil,
    List.getLast?_concat]

theorem firstBeyond?_eq [DecidableLT ρ] : firstBeyond? ratio keys = some stop := by
  have missed : (front ++ [start]).find? (fun key => decide (ratio < key.ratio)) = none :=
    List.find?_eq_none.mpr fun key present beyond =>
      Std.not_le_of_gt (of_decide_eq_true beyond) (brackets.reached key present)
  rw [firstBeyond?, brackets.halves, List.find?_append, missed, Option.none_or]
  exact List.find?_cons_of_pos (decide_eq_true (brackets.beyond stop List.mem_cons_self))

end

end Brackets

theorem eq_or_rel_of_getLast? {Entry : Type} {rel : Entry -> Entry -> Prop} {entries : List Entry}
    {last entry : Entry} (ordered : entries.Pairwise rel) (ends : entries.getLast? = some last)
    (present : entry ∈ entries) : entry = last ∨ rel entry last := by
  rcases List.getLast?_eq_some_iff.mp ends with ⟨front, rfl⟩
  rcases List.mem_append.mp present with earlier | same
  · exact .inr ((List.pairwise_append.mp ordered).2.2 entry earlier last List.mem_cons_self)
  · exact .inl (List.mem_singleton.mp same)

/-- In order, a ratio lies before all keys behind the one that it does not reach. -/
theorem brackets_of_stops {ρ Value : Type} [LE ρ] [LT ρ] [Std.LawfulOrderLT ρ]
    [IsTrans ρ (· <= ·)] {keys front back : List (GradientKey ρ Value)}
    {start stop : GradientKey ρ Value} {ratio : ρ}
    (ordered : keys.Pairwise fun first second => first.ratio <= second.ratio)
    (comparable : forall key, key ∈ keys -> ratio <= key.ratio ∨ key.ratio <= ratio)
    (split : keys = front ++ start :: stop :: back)
    (reached : forall key, key ∈ front ++ [start] -> key.ratio <= ratio)
    (stops : ¬ stop.ratio <= ratio) : Brackets keys ratio front start stop back := by
  refine ⟨split, reached, fun key present => ?_⟩
  have member : key ∈ keys := by
    rw [split]
    exact List.mem_append_right _ (List.mem_cons_of_mem _ present)
  have stopped : ¬ key.ratio <= ratio := by
    rw [split] at ordered
    have behind := (List.pairwise_cons.mp (List.pairwise_append.mp ordered).2.1).2
    rcases List.mem_cons.mp present with rfl | later
    · exact stops
    · exact fun passed => stops
        (IsTrans.trans _ _ _ ((List.pairwise_cons.mp behind).1 key later) passed)
  exact Std.lt_iff_le_and_not_ge.mpr ⟨(comparable key member).resolve_right stopped, stopped⟩

section Located

variable {ρ α : Type} {n : Nat} [LE ρ] [LT ρ] [Sub ρ] [Div ρ] [Add α] [Sub α] [HMul α ρ α]

/-- The value at a ratio, by the place of the ratio among the keys. -/
inductive Located (ratio : ρ) (keys : List (GradientKey ρ (Vector α n))) : Vector α n -> Prop
  | first {key : GradientKey ρ (Vector α n)}
      (below : forall other, other ∈ keys -> ratio <= other.ratio)
      (starts : keys.head? = some key) : Located ratio keys key.value
  | last {key : GradientKey ρ (Vector α n)}
      (inside : ¬ forall other, other ∈ keys -> ratio <= other.ratio)
      (above : forall other, other ∈ keys -> other.ratio <= ratio)
      (ends : keys.getLast? = some key) : Located ratio keys key.value
  | between {front back : List (GradientKey ρ (Vector α n))}
      {start stop : GradientKey ρ (Vector α n)}
      (inside : ¬ forall other, other ∈ keys -> ratio <= other.ratio)
      (brackets : Brackets keys ratio front start stop back) :
      Located ratio keys (interpolate ratio start stop)

variable [DecidableLE ρ] [Std.LawfulOrderLT ρ]

/-- Sampling keys in order gives the value at the place of the ratio. -/
theorem exists_located [IsTrans ρ (· <= ·)] {gradient : Gradient ρ (Vector α n)} {ratio : ρ}
    (ordered : gradient.toList.Pairwise fun first second => first.ratio <= second.ratio)
    (comparable : forall key, key ∈ gradient.toList -> ratio <= key.ratio ∨ key.ratio <= ratio)
    (nonempty : gradient.toList ≠ []) :
    Exists fun value =>
      gradient.sample ratio = .ok value ∧ Located ratio gradient.toList value := by
  have outcome := gradient.sampled_sample ratio
  generalize gradient.sample ratio = result at outcome ⊢
  generalize gradient.toList = keys at ordered comparable nonempty outcome ⊢
  cases outcome with
  | empty => exact absurd rfl nonempty
  | @first first rest below =>
    refine ⟨first.value, rfl, .first (fun other present => ?_) rfl⟩
    rcases List.mem_cons.mp present with rfl | later
    · exact below
    · exact IsTrans.trans _ _ _ below ((List.pairwise_cons.mp ordered).1 other later)
  | @last first rest beyond reached =>
    have ends : (first :: rest).getLast? = some (rest.getLastD first) := by
      rw [List.getLast?_cons, List.getLastD_eq_getLast?]
    refine ⟨_, rfl, .last (fun below => beyond (below first List.mem_cons_self)) ?_ ends⟩
    intro other present
    rcases eq_or_rel_of_getLast? ordered ends present with rfl | less
    · exact reached
    · exact IsTrans.trans _ _ _ less reached
  | @between first start stop rest front back beyond short split passed stops =>
    have inside : ¬ forall other, other ∈ first :: rest -> ratio <= other.ratio :=
      fun below => beyond (below first List.mem_cons_self)
    refine ⟨_, rfl, .between inside (brackets_of_stops ordered comparable split ?_ stops)⟩
    intro key present
    -- The search passes over the first key; it is the end test that has compared it.
    rcases passed key present with rfl | reached
    · exact (comparable key List.mem_cons_self).resolve_left beyond
    · exact reached
  | unbounded beyond short =>
    exact absurd (comparable _ List.mem_cons_self) (not_or.mpr ⟨beyond, short⟩)

/-- That value is the one of the piecewise linear function. -/
theorem Located.piecewiseLinear?_eq [DecidableLT ρ] {keys : List (GradientKey ρ (Vector α n))}
    {ratio : ρ} {value : Vector α n} (located : Located ratio keys value) :
    piecewiseLinear? keys ratio = some value := by
  rw [piecewiseLinear?]
  cases located with
  | first below starts => rw [if_pos below, starts]; rfl
  | last inside above ends => rw [if_neg inside, if_pos above, ends]; rfl
  | @between front back start stop inside brackets =>
    have short : ¬ forall other, other ∈ keys -> other.ratio <= ratio := fun above =>
      Std.not_le_of_gt brackets.lt_stop (above stop brackets.stop_mem)
    rw [if_neg inside, if_neg short, brackets.lastUpTo?_eq, brackets.firstBeyond?_eq]
    refine congrArg some (Vector.ext fun place within => ?_)
    rw [Vector.getElem_ofFn]
    exact (get_interpolate ratio start stop ⟨place, within⟩).symm

end Located

/-! ## Gradients of doubles -/

section Numbers

variable {α : Type} {n : Nat} [Add α] [Sub α] [HMul α Float α]
  {insertions : List (GradientKey Float (Vector α n))} {ratio : Float}

/-- Sampling gives the value at the place of the ratio if there is a key and all ratios
are numbers. -/
theorem exists_located_ofKeys (nonempty : insertions ≠ []) (numeric : NumberKeys insertions)
    (number : ratio.isNaN = false) :
    Exists fun value => (ofKeys insertions).sample ratio = .ok value ∧
      Located ratio (ofKeys insertions).toList value := by
  have sorted := stableSort_ofKeys numeric
  refine exists_located sorted.ordered (fun key present => ?_) fun none => ?_
  · exact Number.le_total number (numeric key (sorted.perm.mem_iff.mp present))
  · exact nonempty (List.perm_nil.mp (none ▸ sorted.perm).symm)

/-- A gradient samples the piecewise linear function through its keys.  The neighbours
that it divides by the distance of are apart. -/
theorem sample_eq_piecewiseLinear (nonempty : insertions ≠ []) (numeric : NumberKeys insertions)
    (number : ratio.isNaN = false) :
    let keys := (ofKeys insertions).toList
    (Exists fun value =>
      piecewiseLinear? keys ratio = some value ∧ (ofKeys insertions).sample ratio = .ok value) ∧
    ((¬ forall key, key ∈ keys -> ratio <= key.ratio) ->
      (¬ forall key, key ∈ keys -> key.ratio <= ratio) ->
      Exists fun front => Exists fun start => Exists fun stop => Exists fun back =>
        keys = front ++ start :: stop :: back ∧ lastUpTo? ratio keys = some start ∧
          firstBeyond? ratio keys = some stop ∧ 0 < stop.ratio - start.ratio) := by
  intro keys
  rcases exists_located_ofKeys nonempty numeric number with ⟨value, sampled, located⟩
  refine ⟨⟨value, located.piecewiseLinear?_eq, sampled⟩, fun inside short => ?_⟩
  cases located with
  | first below => exact absurd below inside
  | last _ above => exact absurd above short
  | @between front back start stop _ brackets =>
    exact ⟨front, start, stop, back, brackets.split, brackets.lastUpTo?_eq,
      brackets.firstBeyond?_eq, Number.sub_pos_of_lt brackets.start_lt_stop⟩

/-- Halfway between a step and the last key. -/
theorem step_sampled_behind :
    let insertions : List (GradientKey Float (Vector Component 2)) :=
      [{ ratio := 1, value := #v[.number 4, .number 8] },
        { ratio := 0, value := #v[.number 0, .number 0] },
        { ratio := 0.5, value := #v[.number 1, .number 1] },
        { ratio := 0.5, value := #v[.number 2, .number 4] }]
    let keys := (ofKeys insertions).toList
    insertions ≠ [] ∧ NumberKeys insertions ∧ Float.isNaN 0.75 = false ∧
      (¬ forall key, key ∈ keys -> 0.75 <= key.ratio) ∧
      (¬ forall key, key ∈ keys -> key.ratio <= 0.75) ∧
      (Exists fun value => piecewiseLinear? keys 0.75 = some value ∧
        (ofKeys insertions).sample 0.75 = .ok value) ∧
      (Exists fun front => Exists fun start => Exists fun stop => Exists fun back =>
        keys = front ++ start :: stop :: back ∧ lastUpTo? 0.75 keys = some start ∧
          firstBeyond? 0.75 keys = some stop ∧ 0 < stop.ratio - start.ratio) ∧
      (ofKeys insertions).sample 0.75 = .ok #v[.number 3, .number 6] := by
  intro insertions keys
  have nonempty : insertions ≠ [] := by decide
  have numeric : NumberKeys insertions := by decide +kernel
  have number : Float.isNaN 0.75 = false := by decide +kernel
  have inside : ¬ forall key, key ∈ keys -> 0.75 <= key.ratio := by decide +kernel
  have short : ¬ forall key, key ∈ keys -> key.ratio <= 0.75 := by decide +kernel
  have linear := sample_eq_piecewiseLinear nonempty numeric number
  exact ⟨nonempty, numeric, number, inside, short, linear.1, linear.2 inside short,
    by decide +kernel⟩

end Numbers

end Gradient
end ParticleEffects
