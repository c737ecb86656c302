import ParticleEffects.Proofs.Separation

namespace ParticleEffects
namespace Workspace

/-!
Assets that are made from drafts.

All that is made is new, or was there under another name and is left as it is.  What
is new refers to new objects, with these exceptions: the position of a source, the
gradient and the speed of a modifier and the values of a speed may be those of a name.
-/

open Spatial ForceField Spawn

/-! ## Names -/

section Names

variable {workspace : Workspace} {name : String}

theorem lookup_of_find {asset : Asset} (found : workspace.find name = .ok asset) :
    workspace.lookup name = some asset := by
  unfold find at found
  split at found
  · rename_i selected
    cases found
    exact selected
  · cases found

theorem lookup_of_findVector {handle : Handle Components}
    (found : workspace.findVector name = .ok handle) :
    workspace.lookup name = some (.vector handle) := by
  rcases bind_eq_ok_iff.mp found with ⟨asset, foundAsset, selected⟩
  rw [lookup_of_find foundAsset]
  cases asset <;> cases selected
  rfl

theorem lookup_of_findSource {handle : Handle StoredSource}
    (found : workspace.findSource name = .ok handle) :
    workspace.lookup name = some (.source handle) := by
  rcases bind_eq_ok_iff.mp found with ⟨asset, foundAsset, selected⟩
  rw [lookup_of_find foundAsset]
  cases asset <;> cases selected
  rfl

theorem lookup_of_findGradient {handle : Handle StoredGradient}
    (found : workspace.findGradient name = .ok handle) :
    workspace.lookup name = some (.gradient handle) := by
  rcases bind_eq_ok_iff.mp found with ⟨asset, foundAsset, selected⟩
  rw [lookup_of_find foundAsset]
  cases asset <;> cases selected
  rfl

theorem lookup_of_findValue {handle : Handle Value}
    (found : workspace.findValue name = .ok handle) :
    workspace.lookup name = some (.value handle) := by
  rcases bind_eq_ok_iff.mp found with ⟨asset, foundAsset, selected⟩
  rw [lookup_of_find foundAsset]
  cases asset <;> cases selected
  rfl

theorem lookup_of_findSpeed {handle : Handle StoredSpeed}
    (found : workspace.findSpeed name = .ok handle) :
    workspace.lookup name = some (.speed handle) := by
  rcases bind_eq_ok_iff.mp found with ⟨asset, foundAsset, selected⟩
  rw [lookup_of_find foundAsset]
  cases asset <;> cases selected
  rfl

theorem lookup_of_findModifier {handle : Handle StoredModifier}
    (found : workspace.findModifier name = .ok handle) :
    workspace.lookup name = some (.modifier handle) := by
  rcases bind_eq_ok_iff.mp found with ⟨asset, foundAsset, selected⟩
  rw [lookup_of_find foundAsset]
  cases asset <;> cases selected
  rfl

theorem lookup_of_findEffect {handle : Handle StoredEffect}
    (found : workspace.findEffect name = .ok handle) :
    workspace.lookup name = some (.effect handle) := by
  rcases bind_eq_ok_iff.mp found with ⟨asset, foundAsset, selected⟩
  rw [lookup_of_find foundAsset]
  cases asset <;> cases selected
  rfl

end Names

/-! ## Gradients -/

/-- The keys of a draft are inserted one after the other. -/
theorem inOrder_of_readGradient {workspace : Workspace} {draft : GradientDraft} {any : AnyGradient}
    (read : workspace.readGradient draft = .ok any) : any.gradient.InOrder := by
  rcases bind_eq_ok_iff.mp read with ⟨start, foundStart, readKeys⟩
  rcases bind_eq_ok_iff.mp readKeys with ⟨keys, _, same⟩
  cases same
  apply Gradient.InOrder.insertAll
  unfold readStart at foundStart
  split at foundStart
  · cases foundStart
    exact Gradient.inOrder_empty
  · rcases bind_eq_ok_iff.mp foundStart with ⟨value, _, same⟩
    cases same
    exact Gradient.inOrder_ofKeys _
  · rcases bind_eq_ok_iff.mp foundStart with ⟨first, _, others⟩
    rcases bind_eq_ok_iff.mp others with ⟨last, _, same⟩
    cases same
    exact Gradient.inOrder_ofKeys _

section Making

variable {workspace : Workspace} {place : Placement}

/-- A new object of its own comes behind its parts. -/
theorem Evolves.founded {α : Type} [Storable α] {extended : Workspace} {place' : Placement}
    (evolves : Evolves (Place.alone extended.objects.size).region
      (Place.alone extended.objects.size).region workspace place extended place')
    (content : α)
    (fits : Fits extended place' (.alone extended.objects.size) extended.objects.size
      (Storable.object content)) :
    Founded workspace place (extended.add content)
      (place'.assign extended.objects.size (.alone extended.objects.size)) where
  evolves := evolves.add content (Place.region_self _) fits
  lies := lies_add extended place' content _
  new := evolves.changes.size_le

/-- An object that is part of nothing, in a workspace that has grown. -/
structure Made {α : Type} [Storable α] (workspace : Workspace) (place : Placement)
    (result : Workspace × Handle α) (place' : Placement) : Prop where
  grown : Grown workspace place result.1 place'
  lies : Lies result.1 place' result.2 (.alone result.2.address)

theorem Founded.made {α : Type} [Storable α] {result : Workspace × Handle α} {place' : Placement}
    (founded : Founded workspace place result place') (separated : Separated workspace place) :
    Made workspace place result place' :=
  ⟨founded.grown separated, founded.lies⟩

variable (separated : Separated workspace place)
include separated

theorem Separated.addGradient {any : AnyGradient} (ordered : any.gradient.InOrder) :
    Exists fun place' => Made workspace place (workspace.addGradient any) place' := by
  rcases separated.sound.addValues any
    (.alone (workspace.addValues any).1.objects.size) fun _ => ordered with ⟨place', values⟩
  have founded := (values.evolves.allow _).founded (workspace.addValues any).2 values.fits
  exact ⟨_, founded.made separated⟩

theorem Separated.gradientHandle {operand : GradientOperand}
    {result : Workspace × Handle StoredGradient}
    (found : workspace.gradientHandle operand = .ok result) :
    Exists fun place' => Made workspace place result place' := by
  cases operand with
  | given draft =>
    rcases bind_eq_ok_iff.mp found with ⟨any, read, same⟩
    cases same
    exact separated.addGradient (inOrder_of_readGradient read)
  | named name =>
    rcases bind_eq_ok_iff.mp found with ⟨handle, named, same⟩
    cases same
    exact ⟨place, Grown.refl separated, separated.named name _ (lookup_of_findGradient named)⟩

theorem Separated.vectorHandle {operand : VectorOperand} {result : Workspace × Handle Components}
    (found : workspace.vectorHandle operand = .ok result) :
    Exists fun place' => Made workspace place result place' := by
  cases operand with
  | given entries =>
    cases found
    have founded := separated.sound.founded entries trivial
    exact ⟨_, founded.made separated⟩
  | named name =>
    rcases bind_eq_ok_iff.mp found with ⟨handle, named, same⟩
    cases same
    exact ⟨place, Grown.refl separated, separated.named name _ (lookup_of_findVector named)⟩

theorem Separated.valueHandle {operand : ValueOperand} {result : Workspace × Handle Value}
    (found : workspace.valueHandle operand = .ok result) :
    Exists fun place' => Made workspace place result place' := by
  cases operand with
  | given value =>
    cases found
    have founded := separated.sound.founded value trivial
    exact ⟨_, founded.made separated⟩
  | named name =>
    rcases bind_eq_ok_iff.mp found with ⟨handle, named, same⟩
    cases same
    exact ⟨place, Grown.refl separated, separated.named name _ (lookup_of_findValue named)⟩

/-- The three values of a direction, one after the other. -/
theorem Separated.valueHandle_three {x y z : ValueOperand}
    {first second third : Workspace × Handle Value}
    (foundX : workspace.valueHandle x = .ok first) (foundY : first.1.valueHandle y = .ok second)
    (foundZ : second.1.valueHandle z = .ok third) :
    Exists fun place' => Grown workspace place third.1 place' ∧
      Lies third.1 place' first.2 (.alone first.2.address) ∧
      Lies third.1 place' second.2 (.alone second.2.address) ∧
      Lies third.1 place' third.2 (.alone third.2.address) := by
  rcases separated.valueHandle foundX with ⟨_, madeX⟩
  rcases madeX.grown.separated.valueHandle foundY with ⟨_, madeY⟩
  rcases madeY.grown.separated.valueHandle foundZ with ⟨place', madeZ⟩
  exact ⟨place', (madeX.grown.trans madeY.grown).trans madeZ.grown,
    (madeX.lies.change madeY.grown.evolves.changes).change madeZ.grown.evolves.changes,
    madeY.lies.change madeZ.grown.evolves.changes, madeZ.lies⟩

theorem Separated.valueHandles {draft : Speed ValueOperand} {extended : Workspace}
    {stored : StoredSpeed} (found : workspace.valueHandles draft = .ok (extended, stored)) :
    Exists fun place' =>
      Grown workspace place extended place' ∧ SpeedFits extended place' stored := by
  cases draft with
  | normal operand =>
    rcases bind_eq_ok_iff.mp found with ⟨_, foundSpeed, same⟩
    cases same
    rcases separated.valueHandle foundSpeed with ⟨place', made⟩
    exact ⟨place', made.grown, by simp [SpeedFits, Speed.members, made.lies]⟩
  | radial operand =>
    rcases bind_eq_ok_iff.mp found with ⟨_, foundSpeed, same⟩
    cases same
    rcases separated.valueHandle foundSpeed with ⟨place', made⟩
    exact ⟨place', made.grown, by simp [SpeedFits, Speed.members, made.lies]⟩
  | frame x y z =>
    rcases bind_eq_ok_iff.mp found with ⟨_, foundX, others⟩
    rcases bind_eq_ok_iff.mp others with ⟨_, foundY, last⟩
    rcases bind_eq_ok_iff.mp last with ⟨_, foundZ, same⟩
    cases same
    rcases separated.valueHandle_three foundX foundY foundZ with ⟨place', grown, lies⟩
    exact ⟨place', grown, by simp [SpeedFits, Speed.members, lies]⟩
  | world x y z =>
    rcases bind_eq_ok_iff.mp found with ⟨_, foundX, others⟩
    rcases bind_eq_ok_iff.mp others with ⟨_, foundY, last⟩
    rcases bind_eq_ok_iff.mp last with ⟨_, foundZ, same⟩
    cases same
    rcases separated.valueHandle_three foundX foundY foundZ with ⟨place', grown, lies⟩
    exact ⟨place', grown, by simp [SpeedFits, Speed.members, lies]⟩

omit separated in
/-- An object is added behind others that were made. -/
theorem Made.add {α β : Type} [Storable α] [Storable β] {result : Workspace × Handle α}
    {place' : Placement} (made : Made workspace place result place') (content : β)
    (fits : Fits result.1 place' (.alone result.1.objects.size) result.1.objects.size
      (Storable.object content)) :
    Exists fun place'' => Made workspace place (result.1.add content) place'' := by
  have founded := made.grown.separated.sound.founded content fits
  exact ⟨_, made.grown.trans (founded.grown made.grown.separated), founded.lies⟩

theorem Separated.speedHandle {operand : SpeedOperand} {result : Workspace × Handle StoredSpeed}
    (found : workspace.speedHandle operand = .ok result) :
    Exists fun place' => Made workspace place result place' := by
  cases operand with
  | given draft =>
    rcases bind_eq_ok_iff.mp found with ⟨⟨extended, stored⟩, foundValues, same⟩
    cases same
    rcases separated.valueHandles foundValues with ⟨place', grown, fits⟩
    have founded := grown.separated.sound.founded stored fits
    exact ⟨_, grown.trans (founded.grown grown.separated), founded.lies⟩
  | named name =>
    rcases bind_eq_ok_iff.mp found with ⟨handle, named, same⟩
    cases same
    exact ⟨place, Grown.refl separated, separated.named name _ (lookup_of_findSpeed named)⟩

omit separated in
theorem speed_of_readSpawner {Rate : Type} {draft : SpawnerDraft} {speed : Rate}
    {spawner : Spawner Components Rate} (read : workspace.readSpawner draft speed = .ok spawner) :
    spawner.speed = speed := by
  rcases bind_eq_ok_iff.mp read with ⟨_, _, others⟩
  rcases bind_eq_ok_iff.mp others with ⟨_, _, last⟩
  rcases bind_eq_ok_iff.mp last with ⟨_, _, same⟩
  cases same
  rfl

omit separated in
theorem complete_layoutSlots (slots : Slots) :
    (layoutSlots slots.toList).length = slotCount ∧ none ∉ layoutSlots slots.toList := by
  constructor
  · rw [layoutSlots, List.length_map, Vector.length_toList]
  · intro missing
    rcases List.mem_map.mp missing with ⟨_, _, absent⟩
    cases absent

/-- A modifier, with all that had to be made for it. -/
theorem Separated.readModifier {label : String} {draft : ModifierDraft} {extended : Workspace}
    {stored : StoredModifier} (read : workspace.readModifier label draft = .ok (extended, stored)) :
    Exists fun place' => Made workspace place (extended.add stored) place' := by
  have sound := separated.sound
  cases draft with
  | position draft =>
    rcases bind_eq_ok_iff.mp read with ⟨⟨extended, speed⟩, foundSpeed, reading⟩
    rcases bind_eq_ok_iff.mp reading with ⟨spawner, readSpawner, same⟩
    cases same
    obtain rfl := speed_of_readSpawner readSpawner
    rcases separated.speedHandle foundSpeed with ⟨_, made⟩
    rcases made.grown.separated.sound.addSpawner
      (.alone (extended.addSpawner spawner).1.objects.size) made.lies with ⟨_, evolves, fits⟩
    have founded := (evolves.allow _).founded
      (.position (extended.addSpawner spawner).2 : StoredModifier) ⟨rfl, fits⟩
    exact ⟨_, made.grown.trans (founded.grown made.grown.separated), founded.lies⟩
  | accel operand =>
    rcases bind_eq_ok_iff.mp read with ⟨entries, _, same⟩
    cases same
    have added := sound.addVector (entries.copy 3)
      ((Place.alone (workspace.add (entries.copy 3)).1.objects.size).inner .accel)
    have founded := (added.evolves.outward.allow _).founded
      (.accel (workspace.add (entries.copy 3)).2 : StoredModifier) ⟨rfl, added.lies⟩
    exact ⟨_, founded.made separated⟩
  | forceField operands =>
    rcases bind_eq_ok_iff.mp read with ⟨sources, _, rest⟩
    rcases bind_eq_ok_iff.mp rest with ⟨slots, _, same⟩
    cases same
    rcases sound.addSlots (layoutSlots slots.toList)
      ((Place.alone (workspace.addSlots (layoutSlots slots.toList)).1.objects.size).inner .store)
      fun _ => complete_layoutSlots slots with ⟨place', evolves, lies, _⟩
    have founded := evolves.outside.founded
      (.forceField (workspace.addSlots (layoutSlots slots.toList)).2 : StoredModifier) ⟨rfl, lies⟩
    exact ⟨_, founded.made separated⟩
  | texture handle =>
    cases read
    have founded := sound.founded (.texture handle : StoredModifier) ⟨rfl, trivial⟩
    exact ⟨_, founded.made separated⟩
  | color operand =>
    rcases bind_eq_ok_iff.mp read with ⟨⟨_, gradient⟩, found, same⟩
    cases same
    rcases separated.gradientHandle found with ⟨place', made⟩
    exact made.add (.color gradient : StoredModifier) ⟨rfl, made.lies⟩
  | size operand =>
    rcases bind_eq_ok_iff.mp read with ⟨⟨_, gradient⟩, found, same⟩
    cases same
    rcases separated.gradientHandle found with ⟨place', made⟩
    exact made.add (.size gradient : StoredModifier) ⟨rfl, made.lies⟩
  | custom hooks =>
    cases read
    have founded := sound.founded (.custom (.edits label hooks) : StoredModifier) ⟨rfl, trivial⟩
    exact ⟨_, founded.made separated⟩
  | hooks hooks =>
    cases read
    have founded := sound.founded (.custom (.given hooks) : StoredModifier) ⟨rfl, trivial⟩
    exact ⟨_, founded.made separated⟩

/-- What is made is an asset that is part of nothing, and all that was there is kept. -/
theorem Separated.make {name : String} {draft : Draft} {result : Workspace × Asset}
    (made : workspace.make name draft = .ok result) :
    Exists fun place' =>
      Grown workspace place result.1 place' ∧ AssetLies result.1 place' result.2 := by
  have sound := separated.sound
  cases draft with
  | vector components =>
    cases made
    have founded := sound.founded components trivial
    exact ⟨_, founded.grown separated, founded.lies⟩
  | source operand =>
    cases operand with
    | given draft =>
      rcases bind_eq_ok_iff.mp made with ⟨⟨extended, position⟩, found, same⟩
      cases same
      rcases separated.vectorHandle found with ⟨place', vector⟩
      have fits : Fits extended place' (.alone extended.objects.size) extended.objects.size
          (Storable.object (draft.at position : StoredSource)) := vector.lies
      rcases vector.add (draft.at position : StoredSource) fits with ⟨place'', source⟩
      exact ⟨place'', source.grown, source.lies⟩
    | named source =>
      rcases bind_eq_ok_iff.mp made with ⟨handle, found, same⟩
      cases same
      exact ⟨place, Grown.refl separated, separated.named source _ (lookup_of_findSource found)⟩
  | gradient operand =>
    rcases bind_eq_ok_iff.mp made with ⟨⟨_, gradient⟩, found, same⟩
    cases same
    rcases separated.gradientHandle found with ⟨place', gradient⟩
    exact ⟨place', gradient.grown, gradient.lies⟩
  | value operand =>
    rcases bind_eq_ok_iff.mp made with ⟨_, found, same⟩
    cases same
    rcases separated.valueHandle found with ⟨place', value⟩
    exact ⟨place', value.grown, value.lies⟩
  | speed operand =>
    rcases bind_eq_ok_iff.mp made with ⟨_, found, same⟩
    cases same
    rcases separated.speedHandle found with ⟨place', speed⟩
    exact ⟨place', speed.grown, speed.lies⟩
  | modifier draft =>
    rcases bind_eq_ok_iff.mp made with ⟨⟨_, stored⟩, read, same⟩
    cases same
    rcases separated.readModifier read with ⟨place', modifier⟩
    exact ⟨place', modifier.grown, modifier.lies⟩
  | effect request =>
    rcases bind_eq_ok_iff.mp made with ⟨config, _, same⟩
    cases same
    have founded := sound.founded ({ config := config } : StoredEffect)
      ⟨rfl, fun stage modifier registered => by cases stage <;> cases registered⟩
    exact ⟨_, founded.grown separated, founded.lies⟩
  | layout stage =>
    cases stage with
    | init =>
      rw [← Except.ok.inj made]
      rcases sound.newInit with ⟨place', founded, _⟩
      exact ⟨place', founded.grown separated, founded.lies⟩
    | update =>
      rw [← Except.ok.inj made]
      rcases sound.newUpdate with ⟨place', founded, _⟩
      exact ⟨place', founded.grown separated, founded.lies⟩
    | render =>
      rw [← Except.ok.inj made]
      rcases sound.newRender with ⟨place', founded, _⟩
      exact ⟨place', founded.grown separated, founded.lies⟩

end Making

end Workspace
end ParticleEffects
