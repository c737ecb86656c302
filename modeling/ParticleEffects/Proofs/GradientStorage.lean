import ParticleEffects.Proofs.Storing

namespace ParticleEffects
namespace Workspace

/-!
Gradients that are stored are loaded again.

The values of the keys become objects inside of the gradient.  A gradient that is
part of nothing, so that modifiers can refer to it, has to be in order.
-/

open Spatial

theorem toVector_toList {n : Nat} (vector : Vector Component n) :
    Components.toVector n vector.toList = vector := by
  apply Vector.ext
  intro place inside
  simp [Components.toVector, Components.entry]

/-- Keys whose values were added as objects. -/
structure KeysAdded (kind : GradientKind) (spot : Place)
    (keys : List (GradientKey Float (Vector Component kind.width))) (workspace : Workspace)
    (place : Placement) (result : Workspace × List (GradientKey Float (Handle Components)))
    (place' : Placement) : Prop where
  evolves : Evolves .nowhere spot.region workspace place result.1 place'
  values : forall key, key ∈ result.2 -> Lies result.1 place' key.value spot
  loaded : result.2.mapM (GradientKey.mapM? (result.1.loadValue? kind)) = some keys

theorem Sound.addKeys (kind : GradientKind) (spot : Place)
    (keys : List (GradientKey Float (Vector Component kind.width))) :
    forall {workspace : Workspace} {place : Placement}, Sound workspace place ->
      Exists fun place' => KeysAdded kind spot keys workspace place
        (addEach addKeyValue workspace keys) place' := by
  induction keys with
  | nil =>
    intro workspace place sound
    exact ⟨place, Evolves.refl _ _ sound, (fun key absent => by cases absent), rfl⟩
  | cons key rest inductionHypothesis =>
    intro workspace place sound
    have value := sound.addVector key.value.toList spot
    rcases inductionHypothesis value.evolves.sound with ⟨place', others⟩
    have found := others.evolves.changes.grows.get? value.lies trivial
    rw [get?_add_self] at found
    refine ⟨place', value.evolves.trans others.evolves, ?_, ?_⟩
    · intro stored member
      rcases List.mem_cons.mp member with rfl | later
      · exact value.lies.change others.evolves.changes
      · exact others.values stored later
    · have loadedFirst : GradientKey.mapM?
          ((addEach addKeyValue (workspace.addKeyValue key).1 rest).1.loadValue? kind)
          (workspace.addKeyValue key).2 = some key := by
        refine (congrArg (Option.map _) (congrArg (Option.map _) found)).trans ?_
        rw [Option.map_some, Option.map_some, toVector_toList]
        rfl
      exact mapM_cons_eq_some_iff.mpr ⟨key, rest, loadedFirst, others.loaded, rfl⟩

/-- A gradient may be written without a change to the values of its keys. -/
theorem Lies.keys_set {workspace : Workspace} {place : Placement}
    {handle : Handle StoredGradient} {spot : Place} (lies : Lies workspace place handle spot)
    (content : StoredGradient) (kind : GradientKind)
    {keys : List (GradientKey Float (Handle Components))}
    (values : forall key, key ∈ keys -> Lies workspace place key.value (spot.inner .key)) :
    keys.mapM (GradientKey.mapM? ((workspace.set handle content).loadValue? kind)) =
      keys.mapM (GradientKey.mapM? (workspace.loadValue? kind)) :=
  ((changes_set lies content).agrees (· = spot.inner .key) fun _ same both =>
    spot.inner_ne .key (same.symm.trans both)).keys kind values rfl

section Gradients

variable {workspace : Workspace} {place : Placement} (sound : Sound workspace place)
include sound

/-- A gradient whose values were added as objects. -/
structure ValuesAdded (spot : Place) (any : AnyGradient) (workspace : Workspace)
    (place : Placement) (result : Workspace × StoredGradient) (place' : Placement) : Prop where
  evolves : Evolves .nowhere spot.region workspace place result.1 place'
  fits : GradientFits result.1 place' spot result.2
  loaded : (result.2.gradient.mapM? (result.1.loadValue? result.2.kind)).map
    (fun gradient => ({ kind := result.2.kind, gradient := gradient } : AnyGradient)) = some any

theorem Sound.addValues (any : AnyGradient) (spot : Place)
    (ordered : spot.parts = [] -> any.gradient.InOrder) :
    Exists fun place' =>
      ValuesAdded spot any workspace place (workspace.addValues any) place' := by
  rcases Sound.addKeys any.kind (spot.inner .key) any.gradient.toList sound with ⟨place', keys⟩
  have loaded : (workspace.addValues any).2.gradient.mapM?
      ((workspace.addValues any).1.loadValue? any.kind) = some any.gradient :=
    congrArg (Option.map _) keys.loaded
  refine ⟨place', keys.evolves.outward, ⟨keys.values, fun root => ?_⟩, ?_⟩
  · have same := Gradient.ratios_mapM? loaded
    have anyOrdered := ordered root
    rw [Gradient.InOrder, Gradient.Numeric, same] at anyOrdered
    exact anyOrdered
  · exact congrArg (Option.map _) loaded

theorem Sound.addGradient (any : AnyGradient) (spot : Place)
    (ordered : spot.parts = [] -> any.gradient.InOrder) :
    Exists fun place' => Added spot workspace place (workspace.addGradient any) place' ∧
      (workspace.addGradient any).1.loadGradient? (workspace.addGradient any).2 = some any := by
  rcases sound.addValues any spot ordered with ⟨place', values⟩
  refine ⟨_, values.evolves.added (workspace.addValues any).2 values.fits, ?_⟩
  have grows := (changes_add (workspace.addValues any).1 place' (workspace.addValues any).2
    spot).grows
  rw [← values.loaded]
  refine (loadGradient?_of_get? (get?_add_self _ _)).trans (congrArg (Option.map _) ?_)
  exact congrArg (Option.map _) (grows.keys _ values.fits.values trivial)

/-- A gradient that is there or not, in place of the one that was. -/
structure GradientWritten (spot : Place) (any : Option AnyGradient) (workspace : Workspace)
    (place : Placement) (result : Workspace × Option (Handle StoredGradient))
    (place' : Placement) : Prop where
  evolves : Evolves spot.region spot.region workspace place result.1 place'
  lies : forall handle, result.2 = some handle -> Lies result.1 place' handle spot
  loaded : result.2.mapM result.1.loadGradient? = some any

theorem Sound.writeGradient {held : Option (Handle StoredGradient)} {spot : Place}
    (lies : forall handle, held = some handle -> Lies workspace place handle spot)
    (nested : spot.parts ≠ []) (any : Option AnyGradient) :
    Exists fun place' =>
      GradientWritten spot any workspace place (workspace.writeGradient held any) place' := by
  cases any with
  | none =>
    have none_eq : workspace.writeGradient held none = (workspace, none) := by cases held <;> rfl
    rw [none_eq]
    exact ⟨place, Evolves.refl _ _ sound, (fun _ absent => nomatch absent), rfl⟩
  | some any =>
    cases held with
    | none =>
      rcases sound.addGradient any spot fun root => absurd root nested with ⟨place', added, loaded⟩
      refine ⟨place', added.evolves.allow _, ?_, ?_⟩
      · rintro handle ⟨⟩
        exact added.lies
      · exact congrArg (Option.map some) loaded
    | some handle =>
      rcases sound.addValues any spot fun root => absurd root nested with ⟨place', values⟩
      have lies' := (lies handle rfl).change values.evolves.changes
      have evolves := values.evolves.allow spot.region
      refine ⟨place', evolves.set lies' (workspace.addValues any).2 spot.region_self
        values.fits, ?_, ?_⟩
      · rintro _ ⟨⟩
        exact lies'.change (changes_set lies' _)
      · have sameKeys := lies'.keys_set (workspace.addValues any).2 any.kind values.fits.values
        exact congrArg (Option.map some) ((loadGradient?_of_get? (lies'.get?_set_self _)).trans
          ((congrArg (Option.map _) (congrArg (Option.map _) sameKeys)).trans values.loaded))

end Gradients

end Workspace
end ParticleEffects
