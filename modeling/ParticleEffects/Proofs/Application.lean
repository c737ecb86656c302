import ParticleEffects.Proofs.LayoutStorage

namespace ParticleEffects
namespace Workspace

/-!
What an application of a modifier amounts to.

A modifier writes to the objects of the layout that it is applied to and to no other
object.  The layout that is loaded afterwards is the one that the loaded modifier
makes of the layout that was loaded before, and the application stops with the same
error.
-/

open Spatial ForceField Spawn

variable {workspace : Workspace} {place : Placement}

/-- An application to a layout has the meaning of one to what is loaded. -/
structure Refines {Layout Value : Type} (load : Workspace -> Handle Layout -> Option Value)
    (layout : Handle Layout) (workspace : Workspace) (place : Placement)
    (applied : Applied Workspace) (meant : Applied Value) : Prop where
  evolves : Exists fun place' =>
    Evolves (Place.alone layout.address).region (Place.alone layout.address).region
      workspace place applied.layout place'
  loaded : load applied.layout layout = some meant.layout
  error : applied.error = meant.error

/-! ## Loaded parts -/

theorem exists_of_loadUpdate? {layout : Handle StoredUpdate} {stored : StoredUpdate}
    (present : workspace.get? layout = some stored) {value : UpdateLayout}
    (loaded : workspace.loadUpdate? layout = some value) :
    workspace.get? stored.accel = some value.accel ∧
      workspace.loadSlots? stored.forceField = some value.forceField := by
  simp only [loadUpdate?, present, Option.bind_eq_bind, Option.bind_some, Option.pure_def,
    Option.bind_eq_some_iff, Option.some.injEq] at loaded
  rcases loaded with ⟨accel, foundAccel, forceField, foundSlots, rfl⟩
  exact ⟨foundAccel, foundSlots⟩

theorem exists_of_loadRender? {layout : Handle StoredRender} {stored : StoredRender}
    (present : workspace.get? layout = some stored) {value : RenderLayout}
    (loaded : workspace.loadRender? layout = some value) :
    stored.colorGradient.mapM workspace.loadGradient? = some value.colorGradient ∧
      stored.sizeGradient.mapM workspace.loadGradient? = some value.sizeGradient ∧
      value.particleTexture = stored.particleTexture := by
  simp only [loadRender?, present, Option.bind_eq_bind, Option.bind_some, Option.pure_def,
    Option.bind_eq_some_iff, Option.some.injEq] at loaded
  rcases loaded with ⟨colorGradient, foundColor, sizeGradient, foundSize, rfl⟩
  exact ⟨foundColor, foundSize, rfl⟩

theorem exists_of_loadField? {handle : Handle StoredSlots} {slots : Slots}
    (loaded : workspace.loadField? handle = some slots) :
    Exists fun held => workspace.loadSlots? handle = some held ∧
      seenSources? held = some slots.toList := by
  simp only [loadField?, Option.bind_eq_bind, Option.bind_eq_some_iff] at loaded
  rcases loaded with ⟨held, found, sources, seen, complete⟩
  refine ⟨held, found, seen.trans (congrArg some ?_)⟩
  unfold Slots.ofList? at complete
  split at complete
  · cases complete
    rfl
  · cases complete

/-- Copies of slots are the slots of what is seen in them. -/
theorem map_copy_eq_layoutSlots {held : List (Option LayoutSource)} {sources : List Source}
    (seen : seenSources? held = some sources) :
    held.map (Option.map LayoutSource.copy) = layoutSlots sources := by
  rw [layoutSlots, map_eq_map_of_mapM (Option.map LayoutSource.copy)
    (fun source => some (LayoutSource.ofSource source)) _ seen]
  intro slot source found
  rcases Option.map_eq_some_iff.mp found with ⟨held, rfl, rfl⟩
  rfl

/-! ## Layouts that are written -/

/-- An update layout that refers to vectors and slots at their places. -/
theorem Sound.setUpdate (sound : Sound workspace place) {layout : Handle StoredUpdate}
    {spot : Place} (lies : Lies workspace place layout spot) {stored : StoredUpdate}
    (fits : UpdateFits workspace place spot stored) {value : UpdateLayout}
    (accel : workspace.get? stored.accel = some value.accel)
    (forceField : workspace.loadSlots? stored.forceField = some value.forceField) :
    (workspace.set layout stored).loadUpdate? layout = some value := by
  refine loadUpdate?_of_get? (lies.get?_set_self stored) ?_ ?_
  · rw [lies.get?_set_ne fits.accel (spot.inner_ne _), accel]
  · rw [(lies.agrees_inner .slots stored).loadSlots? (Place.inward_region _) sound fits.forceField
      (Place.region_self _), forceField]

/-- A render layout that refers to gradients at their places. -/
theorem Sound.setRender (sound : Sound workspace place) {layout : Handle StoredRender}
    {spot : Place} (lies : Lies workspace place layout spot) {stored : StoredRender}
    (fits : RenderFits workspace place spot stored) {value : RenderLayout}
    (texture : value.particleTexture = stored.particleTexture)
    (color : stored.colorGradient.mapM workspace.loadGradient? = some value.colorGradient)
    (size : stored.sizeGradient.mapM workspace.loadGradient? = some value.sizeGradient) :
    (workspace.set layout stored).loadRender? layout = some value := by
  rw [loadRender?_of_get? (lies.get?_set_self stored)
    (((lies.agrees_inner .color stored).heldGradient (Place.inward_region _) sound
      fits.colorGradient (Place.region_self _)).trans color)
    (((lies.agrees_inner .size stored).heldGradient (Place.inward_region _) sound
      fits.sizeGradient (Place.region_self _)).trans size), ← texture]

/-! ## The three stages -/

section Stages

variable (sound : Sound workspace place)
include sound

/-- A modifier without a role leaves the layout as it is. -/
theorem Sound.noRole {Layout Value : Type} {load : Workspace -> Handle Layout -> Option Value}
    {layout : Handle Layout} {value : Value} (seen : load workspace layout = some value) :
    Refines load layout workspace place (.stopped workspace .noRole) (.stopped value .noRole) where
  evolves := ⟨place, Evolves.refl _ _ sound⟩
  loaded := seen
  error := rfl

theorem Sound.applyInit {layout : Handle InitLayout} {modifier : Handle StoredModifier}
    (lies : Lies workspace place layout (.alone layout.address)) {loaded : LoadedModifier}
    (found : workspace.modifierAt? modifier = some loaded) {value : InitLayout}
    (seen : workspace.get? layout = some value) :
    Refines get? layout workspace place (workspace.applyInit layout modifier)
      (loaded.applyInit value) := by
  have written (final : InitLayout) : Evolves (Place.alone layout.address).region
      (Place.alone layout.address).region workspace place (workspace.set layout final) place :=
    (Evolves.refl _ _ sound).set lies _ (Place.region_self _) rfl
  rcases Option.bind_eq_some_iff.mp found with ⟨stored, present, loads⟩
  simp only [Workspace.applyInit, present, seen, Option.bind_eq_bind, Option.bind_some,
    Option.pure_def]
  cases stored with
  | position spawner =>
    rcases Option.map_eq_some_iff.mp loads with ⟨complete, loadsSpawner, rfl⟩
    simp only [loadsSpawner, Option.bind_some]
    exact ⟨⟨place, written _⟩, lies.get?_set_self _, rfl⟩
  | custom hooks =>
    cases loads
    exact ⟨⟨place, written _⟩, lies.get?_set_self _, rfl⟩
  | accel vector =>
    rcases Option.map_eq_some_iff.mp loads with ⟨_, _, rfl⟩
    exact sound.noRole seen
  | forceField slots =>
    rcases Option.map_eq_some_iff.mp loads with ⟨_, _, rfl⟩
    exact sound.noRole seen
  | texture texture =>
    cases loads
    exact sound.noRole seen
  | color gradient =>
    rcases Option.map_eq_some_iff.mp loads with ⟨_, _, rfl⟩
    exact sound.noRole seen
  | size gradient =>
    rcases Option.map_eq_some_iff.mp loads with ⟨_, _, rfl⟩
    exact sound.noRole seen

theorem Sound.replaceAccel {layout : Handle StoredUpdate}
    (lies : Lies workspace place layout (.alone layout.address)) {current : StoredUpdate}
    (present : workspace.get? layout = some current) {value : UpdateLayout}
    (seen : workspace.loadUpdate? layout = some value) (entries : Components) :
    Refines loadUpdate? layout workspace place
      (.done ((workspace.add entries).1.set layout
        { current with accel := (workspace.add entries).2 }))
      (.done { value with accel := entries }) := by
  rcases exists_of_loadUpdate? present seen with ⟨_, forceField⟩
  rcases sound.updateFits lies present with ⟨_, fits⟩
  have added := sound.addVector entries ((Place.alone layout.address).inner .accel)
  have lies' := lies.change added.evolves.changes
  have fits' : UpdateFits (workspace.add entries).1 _ (.alone layout.address)
      { current with accel := (workspace.add entries).2 } :=
    ⟨added.lies, fits.forceField.change added.evolves.changes⟩
  have together := added.evolves.outward.allow (Place.alone layout.address).region
  refine ⟨⟨_, together.set lies' _ (Place.region_self _) ⟨rfl, fits'⟩⟩, ?_, rfl⟩
  refine added.evolves.sound.setUpdate lies' fits' (get?_add_self _ _) ?_
  exact (added.evolves.changes.grows.loadSlots? Region.inward_everywhere sound fits.forceField
    trivial).trans forceField

theorem Sound.replaceSlots {layout : Handle StoredUpdate}
    (lies : Lies workspace place layout (.alone layout.address)) {current : StoredUpdate}
    (present : workspace.get? layout = some current) {value : UpdateLayout}
    (seen : workspace.loadUpdate? layout = some value) (slots : List (Option LayoutSource)) :
    Refines loadUpdate? layout workspace place
      (.done ((workspace.addSlots slots).1.set layout
        { current with forceField := (workspace.addSlots slots).2 }))
      (.done { value with forceField := slots }) := by
  rcases exists_of_loadUpdate? present seen with ⟨accel, _⟩
  rcases sound.updateFits lies present with ⟨_, fits⟩
  rcases sound.addSlots slots
    ((Place.alone layout.address).inner .slots) (by simp) with
    ⟨place', evolves, liesSlots, loadedSlots⟩
  have lies' := lies.change evolves.changes
  have fits' : UpdateFits (workspace.addSlots slots).1 place' (.alone layout.address)
      { current with forceField := (workspace.addSlots slots).2 } :=
    ⟨fits.accel.change evolves.changes, liesSlots⟩
  refine ⟨⟨_, evolves.outside.set lies' _ (Place.region_self _) ⟨rfl, fits'⟩⟩, ?_, rfl⟩
  have apart := evolves.changes.agrees
    (· = (Place.alone layout.address).inner .accel) fun _ same inside =>
      Place.not_region_inner_inner (by decide) (same ▸ inside)
  exact evolves.sound.setUpdate lies' fits' ((apart.get? fits.accel rfl).trans accel) loadedSlots

theorem Sound.applyUpdate {layout : Handle StoredUpdate} {modifier : Handle StoredModifier}
    (lies : Lies workspace place layout (.alone layout.address)) {loaded : LoadedModifier}
    (found : workspace.modifierAt? modifier = some loaded) {value : UpdateLayout}
    (seen : workspace.loadUpdate? layout = some value) :
    Refines loadUpdate? layout workspace place (workspace.applyUpdate layout modifier)
      (loaded.applyUpdate value) := by
  rcases lies.exists_get? with ⟨current, presentLayout⟩
  rcases Option.bind_eq_some_iff.mp found with ⟨stored, present, loads⟩
  simp only [Workspace.applyUpdate, present, presentLayout, Option.bind_eq_bind, Option.bind_some,
    Option.pure_def]
  cases stored with
  | accel vector =>
    rcases Option.map_eq_some_iff.mp loads with
      ⟨entries, (foundEntries : workspace.get? vector = _), rfl⟩
    simp only [foundEntries, Option.bind_some]
    exact sound.replaceAccel lies presentLayout seen _
  | forceField slots =>
    rcases Option.map_eq_some_iff.mp loads with ⟨field, foundField, rfl⟩
    rcases exists_of_loadField? foundField with ⟨held, foundHeld, seenHeld⟩
    simp only [foundHeld, Option.bind_some, map_copy_eq_layoutSlots seenHeld]
    exact sound.replaceSlots lies presentLayout seen _
  | custom hooks =>
    cases loads
    simp only [seen, Option.bind_some]
    rcases sound.writeUpdate lies
      (Modifier.runHook (workspace.loadHooks hooks).update value).layout with
      ⟨place', evolves, loadedLayout⟩
    exact ⟨⟨place', evolves⟩, loadedLayout, rfl⟩
  | position spawner =>
    rcases Option.map_eq_some_iff.mp loads with ⟨_, _, rfl⟩
    exact sound.noRole seen
  | texture texture =>
    cases loads
    exact sound.noRole seen
  | color gradient =>
    rcases Option.map_eq_some_iff.mp loads with ⟨_, _, rfl⟩
    exact sound.noRole seen
  | size gradient =>
    rcases Option.map_eq_some_iff.mp loads with ⟨_, _, rfl⟩
    exact sound.noRole seen

theorem Sound.replaceTexture {layout : Handle StoredRender}
    (lies : Lies workspace place layout (.alone layout.address)) {current : StoredRender}
    (present : workspace.get? layout = some current) {value : RenderLayout}
    (seen : workspace.loadRender? layout = some value) (texture : Float) :
    Refines loadRender? layout workspace place
      (.done (workspace.set layout { current with particleTexture := some texture }))
      (.done { value with particleTexture := some texture }) := by
  rcases exists_of_loadRender? present seen with ⟨color, size, _⟩
  rcases sound.renderFits lies present with ⟨_, fits⟩
  have fits' : RenderFits workspace place (.alone layout.address)
      { current with particleTexture := some texture } := ⟨fits.colorGradient, fits.sizeGradient⟩
  exact ⟨⟨place, (Evolves.refl _ _ sound).set lies _ (Place.region_self _) ⟨rfl, fits'⟩⟩,
    sound.setRender lies fits' rfl color size, rfl⟩

theorem Sound.replaceColor {layout : Handle StoredRender}
    (lies : Lies workspace place layout (.alone layout.address)) {current : StoredRender}
    (present : workspace.get? layout = some current) {value : RenderLayout}
    (seen : workspace.loadRender? layout = some value) (any : AnyGradient) :
    Refines loadRender? layout workspace place
      (.done ((workspace.addGradient any).1.set layout
        { current with colorGradient := some (workspace.addGradient any).2 }))
      (.done { value with colorGradient := some any }) := by
  rcases exists_of_loadRender? present seen with ⟨_, size, texture⟩
  rcases sound.renderFits lies present with ⟨_, fits⟩
  rcases sound.addGradient any
    ((Place.alone layout.address).inner .color) (by simp) with ⟨place', added, loadedGradient⟩
  have lies' := lies.change added.evolves.changes
  have fits' : RenderFits (workspace.addGradient any).1 place' (.alone layout.address)
      { current with colorGradient := some (workspace.addGradient any).2 } :=
    ⟨(fun gradient selected => by cases selected; exact added.lies),
      fun gradient selected => (fits.sizeGradient gradient selected).change added.evolves.changes⟩
  have together := added.evolves.outward.allow (Place.alone layout.address).region
  refine ⟨⟨place', together.set lies' _ (Place.region_self _) ⟨rfl, fits'⟩⟩, ?_, rfl⟩
  refine added.evolves.sound.setRender lies' fits' texture
    (congrArg (Option.map some) loadedGradient) ?_
  exact (added.evolves.changes.grows.heldGradient Region.inward_everywhere sound
    fits.sizeGradient trivial).trans size

theorem Sound.replaceSize {layout : Handle StoredRender}
    (lies : Lies workspace place layout (.alone layout.address)) {current : StoredRender}
    (present : workspace.get? layout = some current) {value : RenderLayout}
    (seen : workspace.loadRender? layout = some value) (any : AnyGradient) :
    Refines loadRender? layout workspace place
      (.done ((workspace.addGradient any).1.set layout
        { current with sizeGradient := some (workspace.addGradient any).2 }))
      (.done { value with sizeGradient := some any }) := by
  rcases exists_of_loadRender? present seen with ⟨color, _, texture⟩
  rcases sound.renderFits lies present with ⟨_, fits⟩
  rcases sound.addGradient any
    ((Place.alone layout.address).inner .size) (by simp) with ⟨place', added, loadedGradient⟩
  have lies' := lies.change added.evolves.changes
  have fits' : RenderFits (workspace.addGradient any).1 place' (.alone layout.address)
      { current with sizeGradient := some (workspace.addGradient any).2 } :=
    ⟨(fun gradient selected => (fits.colorGradient gradient selected).change added.evolves.changes),
      fun gradient selected => by cases selected; exact added.lies⟩
  have together := added.evolves.outward.allow (Place.alone layout.address).region
  refine ⟨⟨place', together.set lies' _ (Place.region_self _) ⟨rfl, fits'⟩⟩, ?_, rfl⟩
  refine added.evolves.sound.setRender lies' fits' texture ?_
    (congrArg (Option.map some) loadedGradient)
  exact (added.evolves.changes.grows.heldGradient Region.inward_everywhere sound
    fits.colorGradient trivial).trans color

theorem Sound.applyRender {layout : Handle StoredRender} {modifier : Handle StoredModifier}
    (lies : Lies workspace place layout (.alone layout.address)) {loaded : LoadedModifier}
    (found : workspace.modifierAt? modifier = some loaded) {value : RenderLayout}
    (seen : workspace.loadRender? layout = some value) :
    Refines loadRender? layout workspace place (workspace.applyRender layout modifier)
      (loaded.applyRender value) := by
  rcases lies.exists_get? with ⟨current, presentLayout⟩
  rcases Option.bind_eq_some_iff.mp found with ⟨stored, present, loads⟩
  simp only [Workspace.applyRender, present, presentLayout, Option.bind_eq_bind, Option.bind_some,
    Option.pure_def]
  cases stored with
  | texture texture =>
    cases loads
    exact sound.replaceTexture lies presentLayout seen texture
  | color gradient =>
    rcases Option.map_eq_some_iff.mp loads with
      ⟨any, (foundAny : workspace.loadGradient? gradient = _), rfl⟩
    simp only [foundAny, Option.bind_some]
    exact sound.replaceColor lies presentLayout seen _
  | size gradient =>
    rcases Option.map_eq_some_iff.mp loads with
      ⟨any, (foundAny : workspace.loadGradient? gradient = _), rfl⟩
    simp only [foundAny, Option.bind_some]
    exact sound.replaceSize lies presentLayout seen _
  | custom hooks =>
    cases loads
    simp only [seen, Option.bind_some]
    rcases sound.writeRender lies
      (Modifier.runHook (workspace.loadHooks hooks).render value).layout with
      ⟨place', evolves, loadedLayout⟩
    exact ⟨⟨place', evolves⟩, loadedLayout, rfl⟩
  | position spawner =>
    rcases Option.map_eq_some_iff.mp loads with ⟨_, _, rfl⟩
    exact sound.noRole seen
  | accel vector =>
    rcases Option.map_eq_some_iff.mp loads with ⟨_, _, rfl⟩
    exact sound.noRole seen
  | forceField slots =>
    rcases Option.map_eq_some_iff.mp loads with ⟨_, _, rfl⟩
    exact sound.noRole seen

end Stages

end Workspace
end ParticleEffects
