import ParticleEffects.Gradient.Kind
import ParticleEffects.Proofs.GradientOrder

namespace ParticleEffects

/-!
Outcomes of sampling.

The search for a segment has no end test of its own.  That it ends among the keys is
due to the last of them, which sampling has found not to be reached before it starts
the search.  Nothing of this needs the keys to be in order, so that it holds of
ratios that are no numbers as well.
-/

open Spatial

namespace Gradient

section Search

variable {ρ Value : Type} [LE ρ] [DecidableLE ρ] {ratio : ρ} {keys : List (GradientKey ρ Value)}

theorem segment?_eq_none_iff : forall {before : GradientKey ρ Value},
    segment? ratio before keys = none ↔ forall key, key ∈ keys -> key.ratio <= ratio := by
  induction keys with
  | nil => simp [segment?]
  | cons key rest inductionHypothesis =>
    intro before
    rw [segment?, List.forall_mem_cons]
    split
    · rename_i reached
      rw [inductionHypothesis, and_iff_right reached]
    · rename_i beyond
      simp [beyond]

/-- The search ends at neighbours.  What it has passed is reached, or it is the key that
it started from. -/
theorem exists_of_segment?_eq_some {start stop : GradientKey ρ Value} :
    forall {before : GradientKey ρ Value}, segment? ratio before keys = some (start, stop) ->
      Exists fun front => Exists fun back =>
        before :: keys = front ++ start :: stop :: back ∧
          (forall key, key ∈ front ++ [start] -> key = before ∨ key.ratio <= ratio) ∧
          ¬ stop.ratio <= ratio := by
  induction keys with
  | nil => intro before found; cases found
  | cons key rest inductionHypothesis =>
    intro before found
    rw [segment?] at found
    split at found
    · rename_i reached
      rcases inductionHypothesis found with ⟨front, back, split, passed, stops⟩
      refine ⟨before :: front, back, congrArg (before :: ·) split, ?_, stops⟩
      intro other present
      rcases List.mem_cons.mp present with same | later
      · exact .inl same
      · rcases passed other later with rfl | below
        · exact .inr reached
        · exact .inr below
    · rename_i beyond
      cases found
      exact ⟨[], rest, rfl, fun other present => .inl (List.mem_singleton.mp present), beyond⟩

end Search

section Outcomes

variable {ρ α : Type} {n : Nat} [LE ρ] [DecidableLE ρ] [Sub ρ] [Div ρ] [Add α] [Sub α]
  [HMul α ρ α]

/-- What sampling keys at a ratio comes to. -/
inductive Sampled (ratio : ρ) :
    List (GradientKey ρ (Vector α n)) -> Except SampleError (Vector α n) -> Prop
  | empty : Sampled ratio [] (.error .empty)
  | first {first : GradientKey ρ (Vector α n)} {rest : List (GradientKey ρ (Vector α n))}
      (below : ratio <= first.ratio) : Sampled ratio (first :: rest) (.ok first.value)
  | last {first : GradientKey ρ (Vector α n)} {rest : List (GradientKey ρ (Vector α n))}
      (beyond : ¬ ratio <= first.ratio) (reached : (rest.getLastD first).ratio <= ratio) :
      Sampled ratio (first :: rest) (.ok (rest.getLastD first).value)
  | between {first start stop : GradientKey ρ (Vector α n)}
      {rest front back : List (GradientKey ρ (Vector α n))}
      (beyond : ¬ ratio <= first.ratio) (short : ¬ (rest.getLastD first).ratio <= ratio)
      (split : first :: rest = front ++ start :: stop :: back)
      (passed : forall key, key ∈ front ++ [start] -> key = first ∨ key.ratio <= ratio)
      (stops : ¬ stop.ratio <= ratio) :
      Sampled ratio (first :: rest) (.ok (interpolate ratio start stop))
  | unbounded {first : GradientKey ρ (Vector α n)}
      (beyond : ¬ ratio <= first.ratio) (short : ¬ first.ratio <= ratio) :
      Sampled ratio [first] (.error .unbounded)

theorem sampled_sample (gradient : Gradient ρ (Vector α n)) (ratio : ρ) :
    Sampled ratio gradient.toList (gradient.sample ratio) := by
  rw [sample]
  cases gradient.toList with
  | nil => exact .empty
  | cons first rest =>
    dsimp only
    split
    · exact .first ‹_›
    · rename_i beyond
      split
      · exact .last beyond ‹_›
      · rename_i short
        split
        · rename_i found
          rcases exists_of_segment?_eq_some found with ⟨front, back, split, passed, stops⟩
          exact .between beyond short split passed stops
        · rename_i missed
          -- The last key would have stopped the search, were it not the head.
          cases rest with
          | nil => exact .unbounded beyond short
          | cons second rest =>
            refine absurd (segment?_eq_none_iff.mp missed _ ?_) short
            rw [List.getLastD_cons]
            exact List.getLastD_mem_cons ..

variable {gradient : Gradient ρ (Vector α n)} {ratio : ρ}

theorem sample_eq_empty_iff : gradient.sample ratio = .error .empty ↔ gradient.toList = [] := by
  have outcome := gradient.sampled_sample ratio
  generalize gradient.sample ratio = result at outcome ⊢
  generalize gradient.toList = keys at outcome ⊢
  cases outcome <;> simp

theorem sample_eq_unbounded_iff :
    gradient.sample ratio = .error .unbounded ↔ Exists fun key =>
      gradient.toList = [key] ∧ ¬ ratio <= key.ratio ∧ ¬ key.ratio <= ratio := by
  have outcome := gradient.sampled_sample ratio
  generalize gradient.sample ratio = result at outcome ⊢
  generalize gradient.toList = keys at outcome ⊢
  constructor
  · rintro rfl
    cases outcome with
    | unbounded beyond short => exact ⟨_, rfl, beyond, short⟩
  · rintro ⟨key, alone, beyond, short⟩
    rw [alone] at outcome
    cases outcome with
    | first below => exact absurd below beyond
    | last _ reached => exact absurd reached short
    | between _ _ split =>
      have lengths := congrArg List.length split
      simp only [List.length_append, List.length_cons, List.length_nil] at lengths
      omega
    | unbounded => rfl

end Outcomes

section Insertions

variable {α : Type} {n : Nat} [Add α] [Sub α] [HMul α Float α]
  (insertions : List (GradientKey Float (Vector α n))) (ratio : Float)

theorem sample_ofKeys_eq_empty_iff :
    (ofKeys insertions).sample ratio = .error .empty ↔ insertions = [] := by
  rw [sample_eq_empty_iff]
  constructor
  · intro none
    exact List.perm_nil.mp (none ▸ perm_ofKeys insertions).symm
  · rintro rfl
    rfl

theorem sample_ofKeys_eq_unbounded_iff :
    (ofKeys insertions).sample ratio = .error .unbounded ↔ Exists fun key =>
      insertions = [key] ∧ (ratio.isNaN = true ∨ key.ratio.isNaN = true) := by
  simp only [sample_eq_unbounded_iff, Number.not_le_and_not_le_iff]
  constructor
  · rintro ⟨key, single, missing⟩
    exact ⟨key, List.perm_singleton.mp (single ▸ perm_ofKeys insertions).symm, missing⟩
  · rintro ⟨key, rfl, missing⟩
    exact ⟨key, List.perm_singleton.mp (perm_ofKeys [key]), missing⟩

end Insertions

end Gradient

namespace AnyGradient

/-- A gradient without keys. -/
def empty (kind : GradientKind) : AnyGradient := { kind := kind, gradient := .empty }

/-- Keys added one after the other, each a ratio and the components of its value. -/
def addKeys (any : AnyGradient) (calls : List (Float × Components)) : AnyGradient :=
  calls.foldl (fun any call => any.addKey call.1 call.2) any

/-- The key that is added for a ratio and components. -/
def keyOf (kind : GradientKind) (call : Float × Components) :
    GradientKey Float (Vector Component kind.width) :=
  { ratio := call.1, value := call.2.toVector kind.width }

theorem addKeys_eq (calls : List (Float × Components)) : forall any : AnyGradient,
    any.addKeys calls =
      { kind := any.kind, gradient := any.gradient.insertAll (calls.map (keyOf any.kind)) } := by
  induction calls with
  | nil => exact fun _ => rfl
  | cons call rest inductionHypothesis =>
    exact fun any => inductionHypothesis (any.addKey call.1 call.2)

section Outcome

variable (kind : GradientKind) (calls : List (Float × Components)) (ratio : Float)

theorem sample_addKeys :
    ((empty kind).addKeys calls).sample ratio =
      ((Gradient.ofKeys (calls.map (keyOf kind))).sample ratio).map Vector.toList := by
  rw [addKeys_eq]
  rfl

theorem exists_map_keyOf_iff :
    (Exists fun key => calls.map (keyOf kind) = [key] ∧
      (ratio.isNaN = true ∨ key.ratio.isNaN = true)) ↔
    Exists fun call => calls = [call] ∧ (ratio.isNaN = true ∨ call.1.isNaN = true) := by
  constructor
  · rintro ⟨key, single, missing⟩
    rcases List.map_eq_singleton_iff.mp single with ⟨call, only, rfl⟩
    exact ⟨call, only, missing⟩
  · rintro ⟨call, rfl, missing⟩
    exact ⟨keyOf kind call, rfl, missing⟩

/-- Sampling fails without keys, and with a single key that cannot be compared with the
ratio.  Else there is a value with all of its components. -/
theorem sample_outcome :
    let outcome := ((empty kind).addKeys calls).sample ratio
    let alone := Exists fun call => calls = [call] ∧ (ratio.isNaN = true ∨ call.1.isNaN = true)
    (outcome = .error .empty ↔ calls = []) ∧
      (outcome = .error .unbounded ↔ alone) ∧
      ((Exists fun value => outcome = .ok value ∧ value.length = kind.width) ↔
        calls ≠ [] ∧ ¬ alone) := by
  intro outcome alone
  have empty_iff := Gradient.sample_ofKeys_eq_empty_iff (calls.map (keyOf kind)) ratio
  have unbounded_iff := Gradient.sample_ofKeys_eq_unbounded_iff (calls.map (keyOf kind)) ratio
  rw [List.map_eq_nil_iff] at empty_iff
  rw [exists_map_keyOf_iff] at unbounded_iff
  dsimp only [outcome, alone]
  rw [sample_addKeys, ← unbounded_iff, ne_eq, ← empty_iff]
  cases (Gradient.ofKeys (calls.map (keyOf kind))).sample ratio with
  | ok value => simp [Except.map]
  | error failure => cases failure <;> simp [Except.map]

end Outcome

end AnyGradient

end ParticleEffects
