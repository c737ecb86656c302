import ParticleEffects.Proofs.GradientStorage

namespace ParticleEffects
namespace Workspace

/-!
Layouts and spawners that are stored are loaded again.

A layout is part of nothing, and all that it refers to is inside of it.
-/

open Spatial ForceField Spawn

theorem Place.not_region_inner_inner {spot : Place} {first second : Part} (different : first ≠ second) :
    ¬ (spot.inner second).region (spot.inner first) :=
  Place.not_region_inner_of_ne (Place.region_self _) different

/-- What an object holds itself has nothing to do with what is inside of its parts. -/
theorem Lies.agrees_inner {α : Type} [Storable α] {workspace : Workspace} {place : Placement}
    {handle : Handle α} {spot : Place} (lies : Lies workspace place handle spot) (part : Part)
    (content : α) : Agrees (spot.inner part).region workspace place (workspace.set handle content) :=
  (changes_set lies content).agrees _ fun _ inside same =>
    Place.not_region_inner_self spot part (same ▸ inside)

/-- A change inside of a part is one inside of the whole. -/
theorem Evolves.outside {workspace changed : Workspace} {place place' : Placement} {spot : Place}
    {part : Part}
    (evolves : Evolves (spot.inner part).region (spot.inner part).region workspace place changed
      place') :
    Evolves spot.region spot.region workspace place changed place' :=
  evolves.weaken (fun _ => Place.region_of_region_inner) fun _ => Place.region_of_region_inner

/-- A new object of its own was added, and only what is inside of it was written. -/
structure Founded {α : Type} [Storable α] (workspace : Workspace) (place : Placement)
    (result : Workspace × Handle α) (place' : Placement) : Prop where
  evolves : Evolves (Place.alone result.2.address).region (Place.alone result.2.address).region
    workspace place result.1 place'
  lies : Lies result.1 place' result.2 (.alone result.2.address)
  new : workspace.objects.size <= result.2.address

section Layouts

variable {workspace : Workspace} {place : Placement} (sound : Sound workspace place)
include sound

theorem Sound.founded {α : Type} [Storable α] (content : α)
    (fits : Fits workspace place (.alone workspace.objects.size) workspace.objects.size
      (Storable.object content)) :
    Founded workspace place (workspace.add content)
      (place.assign workspace.objects.size (.alone workspace.objects.size)) where
  evolves := (Evolves.refl _ _ sound).add content (Place.region_self _) fits
  lies := lies_add workspace place content _
  new := Nat.le_refl _

theorem Sound.newInit : Exists fun place' => Founded workspace place workspace.newInit place' ∧
    workspace.newInit.1.get? workspace.newInit.2 = some {} :=
  ⟨_, sound.founded ({} : InitLayout) rfl, get?_add_self _ _⟩

theorem Sound.newRender : Exists fun place' => Founded workspace place workspace.newRender place' ∧
    workspace.newRender.1.loadRender? workspace.newRender.2 = some {} := by
  have fits : RenderFits workspace place (.alone workspace.objects.size) ({} : StoredRender) :=
    ⟨(fun _ absent => by cases absent), (fun _ absent => by cases absent)⟩
  exact ⟨_, sound.founded ({} : StoredRender) ⟨rfl, fits⟩,
    loadRender?_of_get? (get?_add_self _ _) rfl rfl⟩

theorem Sound.loadUpdate?_add {stored : StoredUpdate} {spot : Place}
    (fits : UpdateFits workspace place spot stored) {layout : UpdateLayout}
    (accel : workspace.get? stored.accel = some layout.accel)
    (forceField : workspace.loadSlots? stored.forceField = some layout.forceField) :
    (workspace.add stored).1.loadUpdate? (workspace.add stored).2 = some layout := by
  have grows := (changes_add workspace place stored spot).grows
  exact loadUpdate?_of_get? (get?_add_self _ _) ((fits.accel.get?_add stored).trans accel)
    ((grows.loadSlots? Region.inward_everywhere sound fits.forceField trivial).trans forceField)

theorem Sound.addUpdate (layout : UpdateLayout) :
    Exists fun place' => Founded workspace place (workspace.addUpdate layout) place' ∧
      (workspace.addUpdate layout).1.loadUpdate? (workspace.addUpdate layout).2 = some layout := by
  rcases ⟨_, rfl⟩ with
    ⟨spot, isSpot⟩ : Exists fun spot => spot = Place.alone (workspace.addUpdate layout).2.address
  have accel := sound.addVector layout.accel (spot.inner .accel)
  rcases accel.evolves.sound.addSlots
    layout.forceField (spot.inner .slots) (by simp [isSpot]) with
    ⟨place', evolves, liesSlots, loadedSlots⟩
  have together := (accel.evolves.allow (spot.inner .accel).region).outside.trans
    evolves.outside
  have fits : UpdateFits ((workspace.add layout.accel).1.addSlots layout.forceField).1 place' spot
      { accel := (workspace.add layout.accel).2
        forceField := ((workspace.add layout.accel).1.addSlots layout.forceField).2 } :=
    ⟨accel.lies.change evolves.changes, liesSlots⟩
  have agrees := evolves.changes.agrees (· = spot.inner .accel) fun _ same inside =>
    Place.not_region_inner_inner (by decide) (same ▸ inside)
  have loaded := evolves.sound.loadUpdate?_add fits
    ((agrees.get? accel.lies rfl).trans (get?_add_self _ _)) loadedSlots
  have added := together.add ({
    accel := (workspace.add layout.accel).2
    forceField := ((workspace.add layout.accel).1.addSlots layout.forceField).2 } : StoredUpdate)
    spot.region_self ⟨isSpot, fits⟩
  subst isSpot
  exact ⟨_, ⟨added, lies_add _ _ _ _, together.changes.size_le⟩, loaded⟩

theorem Sound.newUpdate : Exists fun place' => Founded workspace place workspace.newUpdate place' ∧
    workspace.newUpdate.1.loadUpdate? workspace.newUpdate.2 = some {} :=
  sound.addUpdate {}

theorem Sound.writeUpdate {handle : Handle StoredUpdate} {spot : Place}
    (lies : Lies workspace place handle spot) (layout : UpdateLayout) :
    Exists fun place' =>
      Evolves spot.region spot.region workspace place (workspace.writeUpdate handle layout) place' ∧
      (workspace.writeUpdate handle layout).loadUpdate? handle = some layout := by
  rcases lies.exists_get? with ⟨stored, present⟩
  rcases sound.updateFits lies present with ⟨isSpot, fits⟩
  have moved := (Evolves.refl spot.region spot.region sound).set fits.accel layout.accel
    (Place.region_inner spot.region_self _) trivial
  have liesSlots := fits.forceField.change moved.changes
  rcases moved.sound.writeSlots liesSlots (by simp [isSpot])
    layout.forceField with ⟨place', evolves, loadedSlots⟩
  simp only [Workspace.writeUpdate, present]
  have beside := evolves.changes.agrees (· = spot) fun _ same inside =>
    Place.not_region_inner_self spot .slots (same ▸ inside)
  have apart := evolves.changes.agrees (· = spot.inner .accel) fun _ same inside =>
    Place.not_region_inner_inner (by decide) (same ▸ inside)
  have same := (beside.get? (lies.change moved.changes) rfl).trans
    ((fits.accel.get?_set_ne lies (spot.inner_ne _).symm layout.accel).trans present)
  have accel := (apart.get? (fits.accel.change moved.changes) rfl).trans
    (fits.accel.get?_set_self layout.accel)
  exact ⟨place', moved.trans evolves.outside, loadUpdate?_of_get? same accel loadedSlots⟩

theorem Sound.writeRender {handle : Handle StoredRender} {spot : Place}
    (lies : Lies workspace place handle spot) (layout : RenderLayout) :
    Exists fun place' =>
      Evolves spot.region spot.region workspace place (workspace.writeRender handle layout) place' ∧
      (workspace.writeRender handle layout).loadRender? handle = some layout := by
  rcases lies.exists_get? with ⟨stored, present⟩
  rcases sound.renderFits lies present with ⟨isSpot, fits⟩
  rcases sound.writeGradient fits.colorGradient (by simp) layout.colorGradient with ⟨colored, color⟩
  rcases color.evolves.sound.writeGradient
    (fun gradient selected => (fits.sizeGradient gradient selected).change color.evolves.changes)
    (by simp) layout.sizeGradient with ⟨sized, size⟩
  have lies' := (lies.change color.evolves.changes).change size.evolves.changes
  have liesColor := fun gradient selected =>
    (color.lies gradient selected).change size.evolves.changes
  have together := color.evolves.outside.trans size.evolves.outside
  simp only [Workspace.writeRender, present]
  refine ⟨sized, together.set lies' _ spot.region_self ⟨isSpot, liesColor, size.lies⟩,
    loadRender?_of_get? (lies'.get?_set_self _) ?_ ?_⟩
  · have apart := size.evolves.changes.agrees (spot.inner .color).region fun _ inside =>
      Place.not_region_inner_of_ne inside (by decide)
    exact ((lies'.agrees_inner .color _).heldGradient (Place.inward_region _) size.evolves.sound
      liesColor (Place.region_self _)).trans ((apart.heldGradient (Place.inward_region _)
        color.evolves.sound color.lies (Place.region_self _)).trans color.loaded)
  · exact ((lies'.agrees_inner .size _).heldGradient (Place.inward_region _) size.evolves.sound
      size.lies (Place.region_self _)).trans size.loaded

end Layouts

/-! ## Spawners -/

section Spawners

variable {workspace : Workspace} {place : Placement} (sound : Sound workspace place)
include sound

theorem Sound.addShape (shape : Shape Components) (spot : Place) :
    Exists fun place' =>
      Evolves .nowhere spot.region workspace place (workspace.addShape shape).1 place' ∧
      ShapeFits (workspace.addShape shape).1 place' spot (workspace.addShape shape).2 := by
  cases shape with
  | circle radius => exact ⟨place, Evolves.refl _ _ sound, trivial⟩
  | sphere radius => exact ⟨place, Evolves.refl _ _ sound, trivial⟩
  | cube extents =>
    have added := sound.addVector extents (spot.inner .extents)
    exact ⟨_, added.evolves.outward, added.lies⟩

/-- The vectors of a spawner, where its modifier will be; its speed is there already. -/
theorem Sound.addSpawner {spawner : Spawner Components (Handle StoredSpeed)} (spot : Place)
    (speed : Lies workspace place spawner.speed (.alone spawner.speed.address)) :
    Exists fun place' =>
      Evolves .nowhere spot.region workspace place (workspace.addSpawner spawner).1 place' ∧
      SpawnerFits (workspace.addSpawner spawner).1 place' spot
        (workspace.addSpawner spawner).2 := by
  rcases sound.addShape spawner.shape spot with ⟨place', evolves, shape⟩
  have center := evolves.sound.addVector spawner.center (spot.inner .center)
  have rotation := center.evolves.sound.addVector spawner.rotation (spot.inner .rotation)
  refine ⟨_, (evolves.trans center.evolves.outward).trans rotation.evolves.outward, {
    shape := (shape.change center.evolves.changes).change rotation.evolves.changes
    center := center.lies.change rotation.evolves.changes
    rotation := rotation.lies
    speed := ?_ }⟩
  exact ((speed.change evolves.changes).change center.evolves.changes).change
    rotation.evolves.changes

end Spawners

end Workspace
end ParticleEffects
