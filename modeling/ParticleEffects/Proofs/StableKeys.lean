import ParticleEffects.Proofs.GradientOrder

namespace ParticleEffects
namespace Gradient

/-!
Insertion of keys as a stable sort.

Inserting keys one after the other sorts them by their ratios and leaves keys of one
ratio in the order in which they came, as long as all ratios are numbers.  Keys in
such an order are determined by what is inserted at each ratio, so that calls at
different ratios may be made in any order.
-/

variable {Value : Type}

/-- All ratios are numbers; they may be infinite. -/
def NumberKeys (keys : List (GradientKey Float Value)) : Prop :=
  forall key, key ∈ keys -> key.ratio.isNaN = false

instance (keys : List (GradientKey Float Value)) : Decidable (NumberKeys keys) :=
  inferInstanceAs (Decidable (forall key, key ∈ keys -> key.ratio.isNaN = false))

/-- The keys of one ratio.  Zeros of either sign are one ratio. -/
def keysAt (ratio : Float) (keys : List (GradientKey Float Value)) :
    List (GradientKey Float Value) :=
  keys.filter fun key => key.ratio == ratio

/-- Whether a key may stand before another one. -/
def byRatio (first second : GradientKey Float Value) : Bool := first.ratio <= second.ratio

structure StableSort (insertions sorted : List (GradientKey Float Value)) : Prop where
  perm : sorted.Perm insertions
  ordered : sorted.Pairwise fun first second => first.ratio <= second.ratio
  stable : forall ratio, keysAt ratio sorted = keysAt ratio insertions

section Keys

variable {ratio : Float} {key other : GradientKey Float Value}
  {keys others : List (GradientKey Float Value)}

theorem keysAt_append : keysAt ratio (keys ++ others) = keysAt ratio keys ++ keysAt ratio others :=
  List.filter_append ..

theorem keysAt_cons_of_eq (same : (key.ratio == ratio) = true) :
    keysAt ratio (key :: keys) = key :: keysAt ratio keys :=
  List.filter_cons_of_pos same

theorem keysAt_cons_of_ne (different : ¬ (key.ratio == ratio) = true) :
    keysAt ratio (key :: keys) = keysAt ratio keys :=
  List.filter_cons_of_neg different

theorem mem_keysAt : key ∈ keysAt ratio keys ↔ key ∈ keys ∧ (key.ratio == ratio) = true :=
  List.mem_filter

theorem keysAt_keysAt : keysAt ratio (keysAt ratio keys) = keysAt ratio keys := by
  simp [keysAt]

/-- It does not matter which of two keys of different ratios comes first. -/
theorem keysAt_swap (different : ¬ (key.ratio == other.ratio) = true) :
    keysAt ratio (key :: other :: keys) = keysAt ratio (other :: key :: keys) := by
  by_cases here : (key.ratio == ratio) = true
  · have apart : ¬ (other.ratio == ratio) = true := by
      intro there
      rcases (Number.beq_iff _ _).mp here with ⟨below, above⟩
      rcases (Number.beq_iff _ _).mp there with ⟨below', above'⟩
      exact different ((Number.beq_iff _ _).mpr
        ⟨Number.le_trans below above', Number.le_trans below' above⟩)
    rw [keysAt_cons_of_eq here, keysAt_cons_of_ne apart, keysAt_cons_of_ne apart,
      keysAt_cons_of_eq here]
  · rw [keysAt_cons_of_ne here]
    by_cases there : (other.ratio == ratio) = true
    · rw [keysAt_cons_of_eq there, keysAt_cons_of_eq there, keysAt_cons_of_ne here]
    · rw [keysAt_cons_of_ne there, keysAt_cons_of_ne there, keysAt_cons_of_ne here]

theorem NumberKeys.tail (numeric : NumberKeys (key :: keys)) : NumberKeys keys :=
  fun other present => numeric other (List.mem_cons_of_mem _ present)

theorem NumberKeys.head (numeric : NumberKeys (key :: keys)) : key.ratio.isNaN = false :=
  numeric key List.mem_cons_self

theorem numberKeys_append_iff : NumberKeys (keys ++ others) ↔ NumberKeys keys ∧ NumberKeys others := by
  simp only [NumberKeys, List.mem_append, or_imp, forall_and]

/-- What is in order comes first if it has the ratio of what comes first. -/
theorem head_ratio_le
    (ordered : (key :: keys).Pairwise fun first second => first.ratio <= second.ratio)
    (number : key.ratio.isNaN = false) {other : GradientKey Float Value}
    (present : other ∈ key :: keys) : key.ratio <= other.ratio := by
  rcases List.mem_cons.mp present with rfl | later
  · exact Number.le_refl number
  · exact (List.pairwise_cons.mp ordered).1 other later

end Keys

/-- Keys in order are determined by the keys of each ratio. -/
theorem eq_of_keysAt {first : List (GradientKey Float Value)} :
    forall {second : List (GradientKey Float Value)}, NumberKeys first -> NumberKeys second ->
      first.Pairwise (fun key other => key.ratio <= other.ratio) ->
      second.Pairwise (fun key other => key.ratio <= other.ratio) ->
      (forall ratio, keysAt ratio first = keysAt ratio second) -> first = second := by
  induction first with
  | nil =>
    intro second _ numbers _ _ agree
    cases second with
    | nil => rfl
    | cons key rest =>
      have missing := agree key.ratio
      rw [keysAt_cons_of_eq (Number.beq_self numbers.head)] at missing
      cases missing
  | cons key rest inductionHypothesis =>
    intro second numbers numbers' ordered ordered' agree
    have self := Number.beq_self numbers.head
    have present : key ∈ second :=
      (mem_keysAt.mp (agree key.ratio ▸ mem_keysAt.mpr ⟨List.mem_cons_self, self⟩)).1
    cases second with
    | nil => cases present
    | cons key' rest' =>
      have self' := Number.beq_self numbers'.head
      have present' : key' ∈ key :: rest :=
        (mem_keysAt.mp (agree key'.ratio ▸ mem_keysAt.mpr ⟨List.mem_cons_self, self'⟩)).1
      have same : (key'.ratio == key.ratio) = true := (Number.beq_iff _ _).mpr
        ⟨head_ratio_le ordered' numbers'.head present, head_ratio_le ordered numbers.head present'⟩
      have heads := agree key.ratio
      rw [keysAt_cons_of_eq self, keysAt_cons_of_eq same] at heads
      obtain rfl := (List.cons.inj heads).1
      refine congrArg (key :: ·) (inductionHypothesis numbers.tail numbers'.tail ordered.tail
        ordered'.tail fun ratio => ?_)
      have both := agree ratio
      by_cases here : (key.ratio == ratio) = true
      · rw [keysAt_cons_of_eq here, keysAt_cons_of_eq here] at both
        exact (List.cons.inj both).2
      · rwa [keysAt_cons_of_ne here, keysAt_cons_of_ne here] at both

/-! ## Insertion -/

/-- A key that is inserted comes behind the keys of its ratio. -/
theorem keysAt_insert {gradient : Gradient Float Value} {key : GradientKey Float Value}
    (ordered : gradient.ratios.Pairwise (· <= ·)) (ratio : Float) :
    keysAt ratio (gradient.insert key).toList = keysAt ratio (gradient.toList ++ [key]) := by
  have bounded : gradient.insertionPoint key.ratio <= gradient.toList.length :=
    gradient.insertionPoint_le_size key.ratio
  have whole : keysAt ratio (gradient.toList.take (gradient.insertionPoint key.ratio)) ++
      keysAt ratio (gradient.toList.drop (gradient.insertionPoint key.ratio)) =
      keysAt ratio gradient.toList := by
    rw [← keysAt_append, List.take_append_drop]
  rw [toList_insert, insertIdx_eq_take_append _ _ _ bounded, keysAt_append, keysAt_append, ← whole]
  by_cases here : (key.ratio == ratio) = true
  · have nothing :
        keysAt ratio (gradient.toList.drop (gradient.insertionPoint key.ratio)) = [] := by
      apply List.filter_eq_nil_iff.mpr
      intro other present same
      rcases List.mem_drop_iff_getElem.mp present with ⟨place, inside, rfl⟩
      have reached : gradient.toList[gradient.insertionPoint key.ratio + place].ratio <= key.ratio :=
        Number.le_trans ((Number.beq_iff _ _).mp same).1 ((Number.beq_iff _ _).mp here).2
      have before := (ratio_le_iff_lt_insertionPoint
        (splitAt_of_pairwise key.ratio (List.pairwise_map.mp ordered))
        (gradient.insertionPoint key.ratio + place) (by
          rw [Nat.add_comm]
          exact inside)).mp (by simpa [toList] using reached)
      omega
    rw [keysAt_cons_of_eq here, nothing, List.append_nil]
    rw [keysAt_cons_of_eq here]
    rfl
  · rw [keysAt_cons_of_ne here, keysAt_cons_of_ne here]
    exact (List.append_nil _).symm

theorem stableSort_empty : StableSort [] (empty : Gradient Float Value).toList :=
  ⟨.refl _, .nil, fun _ => rfl⟩

/-- One insertion keeps keys sorted. -/
theorem StableSort.insert {insertions : List (GradientKey Float Value)}
    {gradient : Gradient Float Value} (sorted : StableSort insertions gradient.toList)
    {key : GradientKey Float Value} (numeric : NumberKeys (insertions ++ [key])) :
    StableSort (insertions ++ [key]) (gradient.insert key).toList := by
  have ordered : gradient.ratios.Pairwise (· <= ·) := List.pairwise_map.mpr sorted.ordered
  have perm : (gradient.insert key).toList.Perm (insertions ++ [key]) :=
    (perm_insert gradient key).trans
      ((sorted.perm.cons key).trans (List.perm_append_singleton key insertions).symm)
  refine ⟨perm, ?_, fun ratio => ?_⟩
  · refine pairwise_insert sorted.ordered fun other present => Number.le_total ?_ ?_
    · exact numeric other (List.mem_append_left _ (sorted.perm.mem_iff.mp present))
    · exact numeric key List.mem_concat_self
  · rw [keysAt_insert ordered, keysAt_append, keysAt_append, sorted.stable]

/-- So do insertions one after the other. -/
theorem StableSort.insertAll (keys : List (GradientKey Float Value)) :
    forall {insertions : List (GradientKey Float Value)} {gradient : Gradient Float Value},
      StableSort insertions gradient.toList -> NumberKeys (insertions ++ keys) ->
      StableSort (insertions ++ keys) (gradient.insertAll keys).toList := by
  induction keys with
  | nil =>
    intro insertions gradient sorted _
    rw [List.append_nil]
    exact sorted
  | cons key rest inductionHypothesis =>
    intro insertions gradient sorted numeric
    rw [List.append_cons] at numeric ⊢
    exact inductionHypothesis
      (sorted.insert (numberKeys_append_iff.mp numeric).1) numeric

theorem stableSort_ofKeys {keys : List (GradientKey Float Value)} (numeric : NumberKeys keys) :
    StableSort keys (ofKeys keys).toList :=
  stableSort_empty.insertAll keys numeric

/-! ## The stable sort -/

theorem StableSort.numberKeys {insertions sorted : List (GradientKey Float Value)}
    (stable : StableSort insertions sorted) (numeric : NumberKeys insertions) :
    NumberKeys sorted :=
  fun key present => numeric key (stable.perm.mem_iff.mp present)

/-- There is one stable sort. -/
theorem StableSort.eq {insertions sorted others sorted' : List (GradientKey Float Value)}
    (first : StableSort insertions sorted) (second : StableSort others sorted')
    (numeric : NumberKeys insertions) (numeric' : NumberKeys others)
    (agree : forall ratio, keysAt ratio insertions = keysAt ratio others) : sorted = sorted' :=
  eq_of_keysAt (first.numberKeys numeric) (second.numberKeys numeric') first.ordered second.ordered
    fun ratio => (first.stable ratio).trans ((agree ratio).trans (second.stable ratio).symm)

/-- The order of all keys, with those behind the others whose ratio is no number. -/
def byRatioOfAll (first second : GradientKey Float Value) : Bool :=
  second.ratio.isNaN || byRatio first second

private theorem byRatioOfAll_total (first second : GradientKey Float Value) :
    (byRatioOfAll first second || byRatioOfAll second first) = true := by
  simp only [byRatioOfAll, byRatio, Bool.or_eq_true, decide_eq_true_iff]
  cases number : first.ratio.isNaN with
  | true => exact .inr (.inl rfl)
  | false =>
    cases number' : second.ratio.isNaN with
    | true => exact .inl (.inl rfl)
    | false =>
      rcases Number.le_total number number' with lower | upper
      · exact .inl (.inr lower)
      · exact .inr (.inr upper)

private theorem byRatioOfAll_trans (first second third : GradientKey Float Value)
    (lower : byRatioOfAll first second = true) (upper : byRatioOfAll second third = true) :
    byRatioOfAll first third = true := by
  simp only [byRatioOfAll, byRatio, Bool.or_eq_true, decide_eq_true_iff] at lower upper ⊢
  rcases upper with last | upper
  · exact .inl last
  · rcases lower with missing | lower
    · exact absurd missing (Bool.eq_false_iff.mp (Number.isNaN_of_le upper).1)
    · exact .inr (Number.le_trans lower upper)

theorem byRatioOfAll_of_number {first second : GradientKey Float Value}
    (number : second.ratio.isNaN = false) : byRatioOfAll first second = byRatio first second := by
  rw [byRatioOfAll, number, Bool.false_or]

/-- Sorting by the ratio, which is no order of all numbers, is a stable sort. -/
theorem stableSort_mergeSort {keys : List (GradientKey Float Value)} (numeric : NumberKeys keys) :
    StableSort keys (keys.mergeSort byRatio) := by
  have total : keys.mergeSort byRatio = keys.mergeSort byRatioOfAll := by
    have same := List.map_mergeSort (r := byRatioOfAll) (s := byRatio) (f := id) (l := keys)
      fun _ _ second present => byRatioOfAll_of_number (numeric second present)
    rw [List.map_id, List.map_id] at same
    exact same.symm
  rw [total]
  have perm := List.mergeSort_perm keys byRatioOfAll
  refine ⟨perm, ?_, fun ratio => ?_⟩
  · refine (List.pairwise_mergeSort byRatioOfAll_trans byRatioOfAll_total keys).imp_of_mem ?_
    intro first second _ present before
    rw [byRatioOfAll_of_number (numeric second (perm.mem_iff.mp present))] at before
    exact of_decide_eq_true before
  · -- Keys of one ratio are in order as they are, so that sorting leaves them in a row.
    have row : (keysAt ratio keys).Pairwise fun first second => byRatioOfAll first second = true := by
      apply List.pairwise_of_forall_mem_list
      intro first present second present'
      have below := ((Number.beq_iff _ _).mp (mem_keysAt.mp present).2).1
      have above := ((Number.beq_iff _ _).mp (mem_keysAt.mp present').2).2
      exact Bool.or_eq_true_iff.mpr (.inr (decide_eq_true (Number.le_trans below above)))
    have inside := List.sublist_mergeSort byRatioOfAll_trans byRatioOfAll_total row
      List.filter_sublist
    have kept : (keysAt ratio (keysAt ratio keys)).Sublist
        (keysAt ratio (keys.mergeSort byRatioOfAll)) := inside.filter _
    rw [keysAt_keysAt] at kept
    exact (kept.eq_of_length (perm.filter _).length_eq.symm).symm

theorem toList_ofKeys {keys : List (GradientKey Float Value)} (numeric : NumberKeys keys) :
    (ofKeys keys).toList = keys.mergeSort byRatio :=
  (stableSort_ofKeys numeric).eq (stableSort_mergeSort numeric) numeric numeric fun _ => rfl

/-- Keys of different ratios may be inserted in any order. -/
theorem ofKeys_eq_of_keysAt {keys others : List (GradientKey Float Value)}
    (numeric : NumberKeys keys) (numeric' : NumberKeys others)
    (agree : forall ratio, keysAt ratio keys = keysAt ratio others) : ofKeys keys = ofKeys others :=
  congrArg mk (Array.toList_inj.mp
    ((stableSort_ofKeys numeric).eq (stableSort_ofKeys numeric') numeric numeric' agree))

end Gradient
end ParticleEffects
