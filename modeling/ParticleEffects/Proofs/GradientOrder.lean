import Mathlib.Data.List.InsertIdx
import ParticleEffects.Gradient.Kind
import ParticleEffects.Proofs.Loading
import ParticleEffects.Proofs.NumberOrder

namespace ParticleEffects
namespace Gradient

/-!
The order of the keys of a gradient.

Bisection separates the keys up to a ratio from those beyond it as soon as the
former come first.  They do as long as all ratios are numbers, so that keys which
were inserted one after the other are in order, and a copy repeats them as they are.
Nothing is required of gradients in which some ratio is no number.
-/

section Bisection

variable {ρ Value : Type} [LE ρ] [DecidableLE ρ]

/-- The keys up to a ratio come before those beyond it. -/
def SplitAt (keys : Array (GradientKey ρ Value)) (ratio : ρ) : Prop :=
  forall (first second : Nat) (_ : first < second) (_ : second < keys.size),
    keys[second].ratio <= ratio -> keys[first].ratio <= ratio

theorem ratio_le_iff_lt_bisect {keys : Array (GradientKey ρ Value)} {ratio : ρ}
    (splits : SplitAt keys ratio) (low high : Nat) (bounded : high <= keys.size)
    (ordered : low <= high)
    (below : forall (place : Nat) (_ : place < keys.size), place < low ->
      keys[place].ratio <= ratio)
    (above : forall (place : Nat) (_ : place < keys.size), high <= place ->
      ¬ keys[place].ratio <= ratio)
    (place : Nat) (inside : place < keys.size) :
    keys[place].ratio <= ratio ↔ place < bisect keys ratio low high bounded := by
  fun_induction bisect keys ratio low high bounded with
  | case1 low high bounded within middle reached inductionHypothesis =>
    apply inductionHypothesis (by omega) _ above
    intro earlier present before
    by_cases same : earlier = middle
    · subst same
      exact reached
    · exact splits earlier middle (by omega) (by omega) reached
  | case2 low high bounded within middle beyond inductionHypothesis =>
    apply inductionHypothesis (by omega) below
    intro later present behind reached
    by_cases same : middle = later
    · subst same
      exact beyond reached
    · exact beyond (splits middle later (by omega) present reached)
  | case3 low high bounded empty =>
    constructor
    · intro reached
      exact Classical.byContradiction fun outside => above place inside (by omega) reached
    · exact below place inside

theorem ratio_le_iff_lt_insertionPoint {gradient : Gradient ρ Value} {ratio : ρ}
    (splits : SplitAt gradient.keys ratio) (place : Nat) (inside : place < gradient.keys.size) :
    gradient.keys[place].ratio <= ratio ↔ place < gradient.insertionPoint ratio :=
  ratio_le_iff_lt_bisect splits 0 gradient.keys.size _ (Nat.zero_le _)
    (fun _ _ negative => absurd negative (Nat.not_lt_zero _))
    (fun _ present beyond => absurd present (Nat.not_lt.mpr beyond)) place inside

/-- A key whose ratio no other one exceeds goes behind all of them. -/
theorem toList_insert_of_forall_le (gradient : Gradient ρ Value) (key : GradientKey ρ Value)
    (last : forall other, other ∈ gradient.toList -> other.ratio <= key.ratio) :
    (gradient.insert key).toList = gradient.toList ++ [key] := by
  have splits : SplitAt gradient.keys key.ratio := fun first second before present _ =>
    last gradient.keys[first] (Array.mem_toList_iff.mpr (Array.getElem_mem _))
  have atEnd : gradient.insertionPoint key.ratio = gradient.toList.length := by
    apply Nat.le_antisymm (gradient.insertionPoint_le_size key.ratio)
    by_contra inside
    have present := Nat.not_le.mp inside
    have reached := last gradient.keys[gradient.insertionPoint key.ratio]
      (Array.mem_toList_iff.mpr (Array.getElem_mem _))
    exact Nat.lt_irrefl _ ((ratio_le_iff_lt_insertionPoint splits _ present).mp reached)
  rw [toList_insert, atEnd, List.insertIdx_length_self]

theorem toList_insertAll_of_pairwise (keys : List (GradientKey ρ Value)) :
    forall (gradient : Gradient ρ Value),
      (gradient.toList ++ keys).Pairwise (fun first second => first.ratio <= second.ratio) ->
      (gradient.insertAll keys).toList = gradient.toList ++ keys := by
  induction keys with
  | nil => intro gradient _; simp
  | cons key rest inductionHypothesis =>
    intro gradient ordered
    have inserted : (gradient.insert key).toList = gradient.toList ++ [key] :=
      toList_insert_of_forall_le gradient key fun other present =>
        (List.pairwise_append.mp ordered).2.2 other present key List.mem_cons_self
    rw [insertAll_cons, inductionHypothesis (gradient.insert key), inserted, List.append_assoc,
      List.singleton_append]
    rwa [inserted, List.append_assoc, List.singleton_append]

/-- Insertion loses no key and adds one. -/
theorem perm_insert (gradient : Gradient ρ Value) (key : GradientKey ρ Value) :
    (gradient.insert key).toList.Perm (key :: gradient.toList) := by
  rw [toList_insert]
  exact List.perm_insertIdx key gradient.toList (gradient.insertionPoint_le_size key.ratio)

theorem perm_insertAll (keys : List (GradientKey ρ Value)) :
    forall gradient : Gradient ρ Value,
      (gradient.insertAll keys).toList.Perm (gradient.toList ++ keys) := by
  induction keys with
  | nil =>
    intro gradient
    rw [insertAll_nil, List.append_nil]
  | cons key rest inductionHypothesis =>
    intro gradient
    exact (inductionHypothesis (gradient.insert key)).trans
      (((perm_insert gradient key).append_right rest).trans List.perm_middle.symm)

/-- Whatever their ratios are, the keys are those that were inserted. -/
theorem perm_ofKeys (keys : List (GradientKey ρ Value)) : (ofKeys keys).toList.Perm keys :=
  perm_insertAll keys empty

theorem insertIdx_eq_take_append {α : Type} (entry : α) (entries : List α) :
    forall place, place <= entries.length ->
      entries.insertIdx place entry = entries.take place ++ entry :: entries.drop place := by
  induction entries with
  | nil => intro place inside; cases Nat.le_zero.mp inside; rfl
  | cons first rest inductionHypothesis =>
    intro place inside
    cases place with
    | zero => rfl
    | succ earlier => simp [inductionHypothesis earlier (Nat.le_of_succ_le_succ inside)]

end Bisection

section Order

variable {ρ Value : Type} [LE ρ] [IsTrans ρ (· <= ·)]

theorem splitAt_of_pairwise {gradient : Gradient ρ Value} (ratio : ρ)
    (ordered : gradient.toList.Pairwise fun first second => first.ratio <= second.ratio) :
    SplitAt gradient.keys ratio := by
  intro first second before present reached
  have below := List.pairwise_iff_getElem.mp ordered first second
    (Nat.lt_trans before present) present before
  exact IsTrans.trans _ _ _ below reached

variable [DecidableLE ρ]

/-- Keys in order remain so when a key is inserted that can be compared with each of
them. -/
theorem pairwise_insert {gradient : Gradient ρ Value} {key : GradientKey ρ Value}
    (ordered : gradient.toList.Pairwise fun first second => first.ratio <= second.ratio)
    (comparable : forall other, other ∈ gradient.toList ->
      other.ratio <= key.ratio ∨ key.ratio <= other.ratio) :
    (gradient.insert key).toList.Pairwise fun first second => first.ratio <= second.ratio := by
  have bounded : gradient.insertionPoint key.ratio <= gradient.toList.length :=
    gradient.insertionPoint_le_size key.ratio
  have place_iff := ratio_le_iff_lt_insertionPoint (splitAt_of_pairwise key.ratio ordered)
  have before : forall other, other ∈ gradient.toList.take (gradient.insertionPoint key.ratio) ->
      other.ratio <= key.ratio := by
    intro other present
    rcases List.mem_take_iff_getElem.mp present with ⟨place, inside, rfl⟩
    exact (place_iff place (Nat.lt_min.mp inside).2).mpr (Nat.lt_min.mp inside).1
  have behind : forall other, other ∈ gradient.toList.drop (gradient.insertionPoint key.ratio) ->
      key.ratio <= other.ratio := by
    intro other present
    refine (comparable other (List.mem_of_mem_drop present)).resolve_left fun reached => ?_
    rcases List.mem_drop_iff_getElem.mp present with ⟨place, inside, rfl⟩
    have early := (place_iff _ (by rw [Nat.add_comm]; exact inside)).mp reached
    omega
  rw [toList_insert, insertIdx_eq_take_append _ _ _ bounded, List.pairwise_append,
    List.pairwise_cons]
  refine ⟨ordered.take, ⟨behind, ordered.drop⟩, ?_⟩
  intro earlier present later presentLater
  rcases List.mem_cons.mp presentLater with rfl | beyond
  · exact before earlier present
  · exact IsTrans.trans _ _ _ (before earlier present) (behind later beyond)

/-- If all ratios can be compared, the keys of every gradient are in order. -/
theorem pairwise_ofKeys [Std.Total (α := ρ) (· <= ·)] (keys : List (GradientKey ρ Value)) :
    (ofKeys keys).toList.Pairwise fun first second => first.ratio <= second.ratio := by
  suffices kept : forall gradient : Gradient ρ Value,
      gradient.toList.Pairwise (fun first second => first.ratio <= second.ratio) ->
      (gradient.insertAll keys).toList.Pairwise fun first second => first.ratio <= second.ratio from
    kept empty List.Pairwise.nil
  induction keys with
  | nil => exact fun _ ordered => ordered
  | cons key rest inductionHypothesis =>
    intro gradient ordered
    exact inductionHypothesis (gradient.insert key)
      (pairwise_insert ordered fun other _ => Std.Total.total other.ratio key.ratio)

end Order

section Numbers

variable {Value Target : Type}

instance isTrans : IsTrans Float (· <= ·) := ⟨fun _ _ _ => Number.le_trans⟩

/-- The ratios of the keys, in the order of the keys. -/
def ratios (gradient : Gradient Float Value) : List Float :=
  gradient.toList.map GradientKey.ratio

/-- All ratios are numbers. -/
def Numeric (gradient : Gradient Float Value) : Prop :=
  forall ratio, ratio ∈ gradient.ratios -> ratio.isNaN = false

/-- The keys are in order, as far as their ratios can be compared. -/
def InOrder (gradient : Gradient Float Value) : Prop :=
  gradient.Numeric -> gradient.ratios.Pairwise (· <= ·)

theorem inOrder_empty : (empty : Gradient Float Value).InOrder := fun _ => List.Pairwise.nil

theorem InOrder.insert {gradient : Gradient Float Value} (ordered : gradient.InOrder)
    (key : GradientKey Float Value) : (gradient.insert key).InOrder := by
  intro numeric
  have members : forall other, other ∈ key :: gradient.toList -> other.ratio.isNaN = false := by
    intro other present
    exact numeric other.ratio
      (List.mem_map_of_mem ((perm_insert gradient key).mem_iff.mpr present))
  have pairwise : gradient.ratios.Pairwise (· <= ·) := by
    refine ordered fun ratio present => ?_
    rcases List.mem_map.mp present with ⟨other, kept, rfl⟩
    exact members other (List.mem_cons_of_mem _ kept)
  refine List.pairwise_map.mpr (pairwise_insert (List.pairwise_map.mp pairwise) ?_)
  intro other present
  exact Number.le_total (members other (List.mem_cons_of_mem _ present))
    (members key List.mem_cons_self)

theorem InOrder.insertAll (keys : List (GradientKey Float Value)) :
    forall {gradient : Gradient Float Value}, gradient.InOrder ->
      (gradient.insertAll keys).InOrder := by
  induction keys with
  | nil => intro gradient ordered; exact ordered
  | cons key rest inductionHypothesis =>
    intro gradient ordered
    exact inductionHypothesis (ordered.insert key)

theorem inOrder_ofKeys (keys : List (GradientKey Float Value)) : (ofKeys keys).InOrder :=
  inOrder_empty.insertAll keys

/-- A copy of a gradient in order is the gradient. -/
theorem InOrder.copy_eq {gradient : Gradient Float Value} (ordered : gradient.InOrder)
    (numeric : gradient.Numeric) : gradient.copy = gradient := by
  have pairwise := List.pairwise_map.mp (ordered numeric)
  have same : gradient.copy.toList = gradient.toList :=
    toList_insertAll_of_pairwise gradient.toList empty pairwise
  exact congrArg mk (Array.toList_inj.mp same)

theorem ratios_mapM? {load : Value -> Option Target} {gradient : Gradient Float Value}
    {loaded : Gradient Float Target} (found : gradient.mapM? load = some loaded) :
    loaded.ratios = gradient.ratios := by
  rcases Option.map_eq_some_iff.mp found with ⟨keys, foundKeys, rfl⟩
  apply map_eq_map_of_mapM GradientKey.ratio GradientKey.ratio _ foundKeys
  intro key loadedKey foundKey
  rcases Option.map_eq_some_iff.mp foundKey with ⟨value, _, rfl⟩
  rfl

theorem InOrder.mapM? {load : Value -> Option Target} {gradient : Gradient Float Value}
    {loaded : Gradient Float Target} (ordered : gradient.InOrder)
    (found : gradient.mapM? load = some loaded) : loaded.InOrder := by
  rw [InOrder, Numeric, ratios_mapM? found]
  exact ordered

end Numbers

end Gradient
end ParticleEffects
