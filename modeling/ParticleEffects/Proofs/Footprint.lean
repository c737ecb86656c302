import ParticleEffects.Proofs.Placement
import ParticleEffects.Proofs.SpeedMembers

namespace ParticleEffects
namespace Workspace

/-!
What loading an object depends on.

Under a sound placement everything that is loaded with a part lies inside of that
part, so that it is loaded as before as long as that region is left alone.  Only a
modifier reaches further: to the gradient or the speed it shares, and to the vectors
that its hooks name.  Nothing is missing where a placement is sound.
-/

open Spatial ForceField Spawn

/-- The roots of all that is read with a speed: the speed and its values. -/
def speedRoots (workspace : Workspace) (handle : Handle StoredSpeed) : List Nat :=
  handle.address :: (workspace.get? handle).toList.flatMap fun stored =>
    stored.members.map fun member => member.2.address

/-- The roots of all that a modifier shares with others. -/
def sharedRoots (workspace : Workspace) : StoredModifier -> List Nat
  | .color gradient | .size gradient => [gradient.address]
  | .position spawner => workspace.speedRoots spawner.speed
  | _ => []

/-- The name through which an operand is read, each time it is. -/
def Operand.name? {α : Type} : Operand α -> Option String
  | .given _ => none
  | .named name => some name

/-- The names of the vectors that an edit takes its keys from. -/
def RenderEditDraft.names (draft : RenderEditDraft) : List String :=
  (draft.colorKey.toList ++ draft.sizeKey.toList).filterMap fun key => key.2.name?

def StoredHooks.names : StoredHooks -> List String
  | .edits _ hooks => hooks.render.toList.flatMap RenderEditDraft.names
  | .given _ => []

/-- The names that a modifier reads whenever it is applied. -/
def namesOf : StoredModifier -> List String
  | .custom hooks => hooks.names
  | _ => []

/-- The objects of a region are the same in another workspace. -/
def Agrees (region : Region) (workspace : Workspace) (place : Placement)
    (changed : Workspace) : Prop :=
  forall address, address < workspace.objects.size -> region (place address) ->
    changed.objects[address]? = workspace.objects[address]?

theorem Changes.agrees {written added : Region} {workspace changed : Workspace}
    {place place' : Placement} (changes : Changes written added workspace place changed place')
    (region : Region) (apart : forall spot, region spot -> ¬ written spot) :
    Agrees region workspace place changed :=
  fun address old inside => changes.kept address old (apart _ inside)

/-! ## One object at a time -/

section Loading

variable {workspace : Workspace}

theorem loadSource?_of_get? {handle : Handle StoredSource} {stored : StoredSource}
    (present : workspace.get? handle = some stored) :
    workspace.loadSource? handle = (workspace.get? stored.position).map stored.moveTo := by
  rw [loadSource?, present, Option.bind_eq_bind, Option.bind_some]
  cases workspace.get? stored.position <;> rfl

theorem loadSlots?_of_get? {handle : Handle StoredSlots} {stored : StoredSlots}
    (present : workspace.get? handle = some stored) :
    workspace.loadSlots? handle = stored.mapM fun slot => slot.mapM workspace.loadSource? := by
  rw [loadSlots?, present, Option.bind_eq_bind, Option.bind_some]

theorem loadGradient?_of_get? {handle : Handle StoredGradient} {stored : StoredGradient}
    (present : workspace.get? handle = some stored) :
    workspace.loadGradient? handle =
      (stored.gradient.mapM? (workspace.loadValue? stored.kind)).map fun gradient =>
        { kind := stored.kind, gradient := gradient } := by
  rw [loadGradient?, present, Option.bind_eq_bind, Option.bind_some]
  cases stored.gradient.mapM? (workspace.loadValue? stored.kind) <;> rfl

theorem loadSpeed?_of_get? {handle : Handle StoredSpeed} {stored : StoredSpeed}
    (present : workspace.get? handle = some stored) :
    workspace.loadSpeed? handle = stored.mapM workspace.get? := by
  rw [loadSpeed?, present, Option.bind_eq_bind, Option.bind_some]

/-- What is read of a speed are its values, member by member. -/
theorem loadSpeed?_eq_some_iff {handle : Handle StoredSpeed} {stored : StoredSpeed}
    (present : workspace.get? handle = some stored) {speed : Speed} :
    workspace.loadSpeed? handle = some speed ↔
      Speed.Matches (fun member value => workspace.get? member = some value) stored speed := by
  rw [loadSpeed?_of_get? present, Speed.mapM_eq_some_iff]

theorem mem_speedRoots {handle : Handle StoredSpeed} {stored : StoredSpeed}
    (present : workspace.get? handle = some stored) {root : Nat} :
    root ∈ workspace.speedRoots handle ↔ root = handle.address ∨
      Exists fun member => member ∈ stored.members ∧ member.2.address = root := by
  simp only [speedRoots, present, Option.toList_some, List.flatMap_singleton, List.mem_cons,
    List.mem_map]

theorem loadUpdate?_of_get? {handle : Handle StoredUpdate} {stored : StoredUpdate}
    (present : workspace.get? handle = some stored) {accel : Components}
    {forceField : List (Option LayoutSource)} (foundAccel : workspace.get? stored.accel = some accel)
    (foundSlots : workspace.loadSlots? stored.forceField = some forceField) :
    workspace.loadUpdate? handle = some { accel := accel, forceField := forceField } := by
  simp only [loadUpdate?, present, foundAccel, foundSlots, Option.bind_eq_bind, Option.bind_some,
    Option.pure_def]

theorem loadRender?_of_get? {handle : Handle StoredRender} {stored : StoredRender}
    (present : workspace.get? handle = some stored) {colorGradient sizeGradient : Option AnyGradient}
    (foundColor : stored.colorGradient.mapM workspace.loadGradient? = some colorGradient)
    (foundSize : stored.sizeGradient.mapM workspace.loadGradient? = some sizeGradient) :
    workspace.loadRender? handle = some {
      particleTexture := stored.particleTexture
      colorGradient := colorGradient
      sizeGradient := sizeGradient } := by
  simp only [loadRender?, present, foundColor, foundSize, Option.bind_eq_bind, Option.bind_some,
    Option.pure_def]

theorem modifierAt?_of_get? {handle : Handle StoredModifier} {stored : StoredModifier}
    (present : workspace.get? handle = some stored) :
    workspace.modifierAt? handle = workspace.loadModifier? stored := by
  rw [modifierAt?, present, Option.bind_eq_bind, Option.bind_some]

end Loading

/-! ## Nothing is missing -/

section Existence

variable {workspace : Workspace} {place : Placement} (sound : Sound workspace place)
include sound

theorem Sound.exists_loadSource? {handle : Handle StoredSource} {spot : Place}
    (lies : Lies workspace place handle spot) :
    Exists fun source => workspace.loadSource? handle = some source := by
  rcases lies.exists_get? with ⟨stored, present⟩
  have fits : Lies workspace place stored.position (positionSpot spot stored.position) :=
    sound.fits lies present
  rcases fits.exists_get? with ⟨position, found⟩
  exact ⟨stored.moveTo position, by rw [loadSource?_of_get? present, found, Option.map_some]⟩

theorem Sound.slotsFit {handle : Handle StoredSlots} {spot : Place}
    (lies : Lies workspace place handle spot) {slots : StoredSlots}
    (present : workspace.get? handle = some slots) : SlotsFit workspace place spot slots :=
  sound.fits lies present

theorem Sound.gradientFits {handle : Handle StoredGradient} {spot : Place}
    (lies : Lies workspace place handle spot) {stored : StoredGradient}
    (present : workspace.get? handle = some stored) : GradientFits workspace place spot stored :=
  sound.fits lies present

theorem Sound.modifierFits {handle : Handle StoredModifier} {spot : Place}
    (lies : Lies workspace place handle spot) {stored : StoredModifier}
    (present : workspace.get? handle = some stored) :
    spot = .alone handle.address ∧ ModifierFits workspace place spot stored :=
  sound.fits lies present

theorem Sound.updateFits {handle : Handle StoredUpdate} {spot : Place}
    (lies : Lies workspace place handle spot) {stored : StoredUpdate}
    (present : workspace.get? handle = some stored) :
    spot = .alone handle.address ∧ UpdateFits workspace place spot stored :=
  sound.fits lies present

theorem Sound.renderFits {handle : Handle StoredRender} {spot : Place}
    (lies : Lies workspace place handle spot) {stored : StoredRender}
    (present : workspace.get? handle = some stored) :
    spot = .alone handle.address ∧ RenderFits workspace place spot stored :=
  sound.fits lies present

theorem Sound.exists_loadSlots? {handle : Handle StoredSlots} {spot : Place}
    (lies : Lies workspace place handle spot) :
    Exists fun slots => workspace.loadSlots? handle = some slots := by
  rcases lies.exists_get? with ⟨stored, present⟩
  have fits := sound.slotsFit lies present
  have each : forall slot, slot ∈ stored ->
      Exists fun loaded => slot.mapM workspace.loadSource? = some loaded := by
    intro slot member
    cases slot with
    | none => exact ⟨none, rfl⟩
    | some source =>
      rcases List.mem_iff_getElem?.mp member with ⟨n, found⟩
      rcases sound.exists_loadSource? (fits.filled n source found) with ⟨loaded, foundSource⟩
      exact ⟨some loaded, by simp [foundSource]⟩
  rcases exists_mapM each with ⟨slots, loaded⟩
  exact ⟨slots, (loadSlots?_of_get? present).trans loaded⟩

theorem Sound.exists_loadGradient? {handle : Handle StoredGradient} {spot : Place}
    (lies : Lies workspace place handle spot) :
    Exists fun any => workspace.loadGradient? handle = some any := by
  rcases lies.exists_get? with ⟨stored, present⟩
  have fits := sound.gradientFits lies present
  have each : forall key, key ∈ stored.gradient.toList ->
      Exists fun loaded => key.mapM? (workspace.loadValue? stored.kind) = some loaded := by
    intro key member
    rcases (fits.values key member).exists_get? with ⟨entries, found⟩
    exact ⟨{ ratio := key.ratio, value := entries.toVector stored.kind.width },
      by simp [GradientKey.mapM?, loadValue?, found]⟩
  rcases exists_mapM each with ⟨keys, loaded⟩
  exact ⟨{ kind := stored.kind, gradient := .ofList keys },
    by rw [loadGradient?_of_get? present, Gradient.mapM?, loaded, Option.map_some, Option.map_some]⟩

theorem Sound.speedFits {handle : Handle StoredSpeed}
    (lies : Lies workspace place handle (.alone handle.address)) {stored : StoredSpeed}
    (present : workspace.get? handle = some stored) : SpeedFits workspace place stored :=
  sound.fits lies present

theorem Sound.exists_loadSpeed? {handle : Handle StoredSpeed}
    (lies : Lies workspace place handle (.alone handle.address)) :
    Exists fun speed => workspace.loadSpeed? handle = some speed := by
  rcases lies.exists_get? with ⟨stored, present⟩
  rw [loadSpeed?_of_get? present]
  exact Speed.exists_mapM fun member held => (sound.speedFits lies present member held).exists_get?

/-- What a modifier shares is part of nothing. -/
theorem Sound.sharedRoot {spot : Place} {stored : StoredModifier}
    (fits : ModifierFits workspace place spot stored) {root : Nat}
    (shared : root ∈ workspace.sharedRoots stored) :
    place root = .alone root ∧ Exists fun kind => workspace.kindAt? root = some kind ∧
      kind ∈ [.gradient, .speed, .value] := by
  have alone {α : Type} [Storable α] {handle : Handle α}
      (lies : Lies workspace place handle (.alone handle.address))
      (kinds : Storable.kind α ∈ [.gradient, .speed, .value]) :
      place handle.address = .alone handle.address ∧ Exists fun kind =>
        workspace.kindAt? handle.address = some kind ∧ kind ∈ [.gradient, .speed, .value] :=
    ⟨lies.spot, _, lies.kind, kinds⟩
  cases stored with
  | color gradient =>
    rw [List.mem_singleton.mp shared]
    exact alone fits (by decide)
  | size gradient =>
    rw [List.mem_singleton.mp shared]
    exact alone fits (by decide)
  | position spawner =>
    have lies := SpawnerFits.speed fits
    rcases lies.exists_get? with ⟨speed, present⟩
    rcases (mem_speedRoots present).mp shared with rfl | ⟨member, held, rfl⟩
    · exact alone lies (by decide)
    · exact alone (sound.speedFits lies present member held) (by decide)
  | _ => cases shared

theorem Sound.exists_loadUpdate? {handle : Handle StoredUpdate} {spot : Place}
    (lies : Lies workspace place handle spot) :
    Exists fun layout => workspace.loadUpdate? handle = some layout := by
  rcases lies.exists_get? with ⟨stored, present⟩
  have fits := (sound.updateFits lies present).2
  rcases fits.accel.exists_get? with ⟨accel, foundAccel⟩
  rcases sound.exists_loadSlots? fits.forceField with ⟨forceField, foundSlots⟩
  exact ⟨{ accel := accel, forceField := forceField },
    loadUpdate?_of_get? present foundAccel foundSlots⟩

private theorem exists_mapM_loadGradient? {held : Option (Handle StoredGradient)} {spot : Place}
    (lies : forall gradient, held = some gradient -> Lies workspace place gradient spot) :
    Exists fun loaded => held.mapM workspace.loadGradient? = some loaded := by
  cases held with
  | none => exact ⟨none, rfl⟩
  | some gradient =>
    rcases sound.exists_loadGradient? (lies gradient rfl) with ⟨any, found⟩
    exact ⟨some any, by simp [found]⟩

theorem Sound.exists_loadRender? {handle : Handle StoredRender} {spot : Place}
    (lies : Lies workspace place handle spot) :
    Exists fun layout => workspace.loadRender? handle = some layout := by
  rcases lies.exists_get? with ⟨stored, present⟩
  have fits := (sound.renderFits lies present).2
  rcases exists_mapM_loadGradient? sound fits.colorGradient with ⟨colorGradient, foundColor⟩
  rcases exists_mapM_loadGradient? sound fits.sizeGradient with ⟨sizeGradient, foundSize⟩
  exact ⟨_, loadRender?_of_get? present foundColor foundSize⟩

/-- The slots of a modifier are complete. -/
theorem Sound.exists_loadField? {handle : Handle StoredSlots} {spot : Place}
    (lies : Lies workspace place handle spot) (store : spot.parts = [.store]) :
    Exists fun slots => workspace.loadField? handle = some slots := by
  rcases lies.exists_get? with ⟨stored, present⟩
  rcases (sound.slotsFit lies present).complete store with ⟨size, filled⟩
  rcases sound.exists_loadSlots? lies with ⟨slots, found⟩
  have loaded := (loadSlots?_of_get? present).symm.trans found
  have each : forall slot, slot ∈ slots ->
      Exists fun source => slot.map LayoutSource.seen = some source := by
    intro slot member
    rcases exists_mem_of_mapM loaded member with ⟨held, present, foundSlot⟩
    cases held with
    | none => exact absurd present filled
    | some handle =>
      rcases Option.map_eq_some_iff.mp foundSlot with ⟨source, _, rfl⟩
      exact ⟨source.seen, rfl⟩
  rcases exists_mapM each with ⟨sources, seen⟩
  have complete : sources.length = slotCount := by
    rw [length_mapM seen, length_mapM loaded, size]
  exact ⟨{ toArray := sources.toArray, size_toArray := complete },
    by simp [loadField?, found, seenSources?, seen, Slots.ofList?, complete]⟩

theorem Sound.exists_modifierAt? {handle : Handle StoredModifier} {spot : Place}
    (lies : Lies workspace place handle spot) :
    Exists fun modifier => workspace.modifierAt? handle = some modifier := by
  rcases lies.exists_get? with ⟨stored, present⟩
  rcases sound.modifierFits lies present with ⟨alone, fits⟩
  rw [modifierAt?_of_get? present]
  cases stored with
  | position spawner =>
    rcases fits with ⟨shape, center, rotation, speed⟩
    rcases center.exists_get? with ⟨centerEntries, foundCenter⟩
    rcases rotation.exists_get? with ⟨rotationEntries, foundRotation⟩
    rcases sound.exists_loadSpeed? speed with ⟨loadedSpeed, foundSpeed⟩
    rcases by
      unfold ShapeFits at shape
      split at shape
      · exact ⟨_, by simp_all [Shape.mapM?]; rfl⟩
      · exact ⟨_, by simp_all [Shape.mapM?]; rfl⟩
      · obtain ⟨extents, foundExtents⟩ := shape.exists_get?
        exact ⟨.cube extents, by simp_all [Shape.mapM?]⟩ with
      ⟨loadedShape, foundShape⟩ : Exists fun loaded => spawner.shape.mapM? workspace.get? = some loaded
    exact ⟨_, by simp [loadModifier?, Modifier.mapM?, Spawner.mapM?, foundShape, foundCenter,
      foundRotation, foundSpeed]; rfl⟩
  | accel vector =>
    rcases Lies.exists_get? fits with ⟨entries, found⟩
    exact ⟨.accel entries, by simp [loadModifier?, Modifier.mapM?, found]⟩
  | forceField slots =>
    rcases sound.exists_loadField? fits (by simp [alone]) with ⟨field, found⟩
    exact ⟨.forceField field, by simp [loadModifier?, Modifier.mapM?, found]⟩
  | texture texture => exact ⟨.texture texture, rfl⟩
  | color gradient =>
    rcases sound.exists_loadGradient? fits with ⟨any, found⟩
    exact ⟨.color any, by simp [loadModifier?, Modifier.mapM?, found]⟩
  | size gradient =>
    rcases sound.exists_loadGradient? fits with ⟨any, found⟩
    exact ⟨.size any, by simp [loadModifier?, Modifier.mapM?, found]⟩
  | custom hooks => exact ⟨.custom (workspace.loadHooks hooks), rfl⟩

end Existence

/-! ## Nothing else matters -/

section Names

variable {workspace changed : Workspace}

theorem readKeyEdit_congr {key : Float × VectorOperand}
    (agree : forall name, key.2.name? = some name ->
      changed.components (.named name) = workspace.components (.named name)) :
    changed.readKeyEdit key = workspace.readKeyEdit key := by
  rcases key with ⟨ratio, operand⟩
  cases operand with
  | given entries => rfl
  | named name => simp only [readKeyEdit, agree name rfl]

theorem readRenderEdit_congr {draft : RenderEditDraft}
    (agree : forall name, name ∈ draft.names ->
      changed.components (.named name) = workspace.components (.named name)) :
    changed.readRenderEdit draft = workspace.readRenderEdit draft := by
  have each (key : Float × VectorOperand)
      (present : key ∈ draft.colorKey.toList ++ draft.sizeKey.toList) :
      changed.readKeyEdit key = workspace.readKeyEdit key :=
    readKeyEdit_congr fun name named =>
      agree name (List.mem_filterMap.mpr ⟨key, present, named⟩)
  have color : draft.colorKey.map changed.readKeyEdit = draft.colorKey.map workspace.readKeyEdit :=
    Option.map_congr fun key present => each key (by simp [present])
  have size : draft.sizeKey.map changed.readKeyEdit = draft.sizeKey.map workspace.readKeyEdit :=
    Option.map_congr fun key present => each key (by simp [present])
  rw [readRenderEdit, readRenderEdit, color, size]

theorem loadHooks_congr {hooks : StoredHooks}
    (agree : forall name, name ∈ hooks.names ->
      changed.components (.named name) = workspace.components (.named name)) :
    changed.loadHooks hooks = workspace.loadHooks hooks := by
  cases hooks with
  | given hooks => rfl
  | edits label hooks =>
    have same : forall draft, hooks.render = some draft ->
        changed.readRenderEdit draft = workspace.readRenderEdit draft := fun draft present =>
      readRenderEdit_congr fun name named =>
        agree name (List.mem_flatMap.mpr ⟨draft, by simp [present], named⟩)
    cases selected : hooks.render with
    | none => simp only [loadHooks, selected, Option.map_none]
    | some draft => simp only [loadHooks, selected, Option.map_some, same draft selected]

/-- What a name is read as depends on what it stands for and on that vector. -/
theorem components_named_congr {name : String} (bound : changed.lookup name = workspace.lookup name)
    (agree : forall handle, workspace.lookup name = some (.vector handle) ->
      changed.get? handle = workspace.get? handle) :
    changed.components (.named name) = workspace.components (.named name) := by
  simp only [components, find, bound]
  cases selected : workspace.lookup name with
  | none => rfl
  | some asset =>
    cases asset with
    | vector handle => exact congrArg orUnsuitable (agree handle selected)
    | _ => rfl

end Names

section Agreement

variable {region : Region} {workspace changed : Workspace} {place : Placement}

theorem Agrees.get? {α : Type} [Storable α] (agrees : Agrees region workspace place changed)
    {handle : Handle α} {spot : Place} (lies : Lies workspace place handle spot)
    (inside : region spot) : changed.get? handle = workspace.get? handle := by
  unfold Workspace.get?
  rw [agrees handle.address (lt_of_kindAt? lies.kind) (lies.spot.symm ▸ inside)]

variable (agrees : Agrees region workspace place changed) (inward : region.Inward)
  (sound : Sound workspace place)
include agrees inward sound

/-- A source that is part of something has its position inside of it. -/
theorem Agrees.loadSource? {handle : Handle StoredSource} {spot : Place}
    (lies : Lies workspace place handle spot) (nested : spot.parts ≠ []) (inside : region spot) :
    changed.loadSource? handle = workspace.loadSource? handle := by
  rcases lies.exists_get? with ⟨stored, present⟩
  have fits : Lies workspace place stored.position (positionSpot spot stored.position) :=
    sound.fits lies present
  rw [positionSpot, if_neg nested] at fits
  rw [loadSource?_of_get? present, loadSource?_of_get? ((agrees.get? lies inside).trans present),
    agrees.get? fits (inward spot inside _)]

theorem Agrees.slots {stored : StoredSlots} {spot : Place}
    (filled : forall n handle, stored[n]? = some (some handle) ->
      Lies workspace place handle (spot.inner (.slot n)))
    (inside : forall n, region (spot.inner (.slot n))) :
    (stored.mapM fun slot => slot.mapM changed.loadSource?) =
      stored.mapM fun slot => slot.mapM workspace.loadSource? := by
  apply mapM_congr
  intro slot member
  cases slot with
  | none => rfl
  | some source =>
    rcases List.mem_iff_getElem?.mp member with ⟨n, found⟩
    rw [Option.mapM_some, Option.mapM_some, agrees.loadSource? inward sound
      (filled n source found) (by simp) (inside n)]

theorem Agrees.loadSlots? {handle : Handle StoredSlots} {spot : Place}
    (lies : Lies workspace place handle spot) (inside : region spot) :
    changed.loadSlots? handle = workspace.loadSlots? handle := by
  rcases lies.exists_get? with ⟨stored, present⟩
  rw [loadSlots?_of_get? present, loadSlots?_of_get? ((agrees.get? lies inside).trans present)]
  exact agrees.slots inward sound (sound.slotsFit lies present).filled fun _ =>
    inward spot inside _

theorem Agrees.loadField? {handle : Handle StoredSlots} {spot : Place}
    (lies : Lies workspace place handle spot) (inside : region spot) :
    changed.loadField? handle = workspace.loadField? handle := by
  simp only [Workspace.loadField?, agrees.loadSlots? inward sound lies inside]

omit inward sound in
theorem Agrees.keys (kind : GradientKind) {keys : List (GradientKey Float (Handle Components))}
    {spot : Place} (values : forall key, key ∈ keys -> Lies workspace place key.value spot)
    (inside : region spot) :
    keys.mapM (GradientKey.mapM? (changed.loadValue? kind)) =
      keys.mapM (GradientKey.mapM? (workspace.loadValue? kind)) := by
  apply mapM_congr
  intro key member
  simp only [GradientKey.mapM?, loadValue?, agrees.get? (values key member) inside]

theorem Agrees.loadGradient? {handle : Handle StoredGradient} {spot : Place}
    (lies : Lies workspace place handle spot) (inside : region spot) :
    changed.loadGradient? handle = workspace.loadGradient? handle := by
  rcases lies.exists_get? with ⟨stored, present⟩
  rw [loadGradient?_of_get? present, loadGradient?_of_get? ((agrees.get? lies inside).trans present),
    Gradient.mapM?, Gradient.mapM?,
    agrees.keys _ (sound.gradientFits lies present).values (inward spot inside _)]

theorem Agrees.loadUpdate? {handle : Handle StoredUpdate} {spot : Place}
    (lies : Lies workspace place handle spot) (inside : region spot) :
    changed.loadUpdate? handle = workspace.loadUpdate? handle := by
  rcases lies.exists_get? with ⟨stored, present⟩
  have fits := (sound.updateFits lies present).2
  simp only [Workspace.loadUpdate?, agrees.get? lies inside, present, Option.bind_eq_bind,
    Option.bind_some, agrees.get? fits.accel (inward spot inside _),
    agrees.loadSlots? inward sound fits.forceField (inward spot inside _)]

theorem Agrees.heldGradient {held : Option (Handle StoredGradient)} {spot : Place}
    (lies : forall gradient, held = some gradient -> Lies workspace place gradient spot)
    (inside : region spot) :
    held.mapM changed.loadGradient? = held.mapM workspace.loadGradient? := by
  cases held with
  | none => rfl
  | some gradient =>
    simp only [Option.mapM_some, agrees.loadGradient? inward sound (lies gradient rfl) inside]

theorem Agrees.loadRender? {handle : Handle StoredRender} {spot : Place}
    (lies : Lies workspace place handle spot) (inside : region spot) :
    changed.loadRender? handle = workspace.loadRender? handle := by
  rcases lies.exists_get? with ⟨stored, present⟩
  have fits := (sound.renderFits lies present).2
  simp only [Workspace.loadRender?, agrees.get? lies inside, present, Option.bind_eq_bind,
    Option.bind_some,
    agrees.heldGradient inward sound fits.colorGradient (inward spot inside _),
    agrees.heldGradient inward sound fits.sizeGradient (inward spot inside _)]

omit inward in
theorem Agrees.loadSpeed? {handle : Handle StoredSpeed}
    (lies : Lies workspace place handle (.alone handle.address))
    (shared : forall root, root ∈ workspace.speedRoots handle -> region (.alone root)) :
    changed.loadSpeed? handle = workspace.loadSpeed? handle := by
  rcases lies.exists_get? with ⟨stored, present⟩
  rcases sound.exists_loadSpeed? lies with ⟨speed, found⟩
  have loads := (loadSpeed?_eq_some_iff present).mp found
  have inside := shared _ ((mem_speedRoots present).mpr (.inl rfl))
  rw [found, loadSpeed?_eq_some_iff ((agrees.get? lies inside).trans present)]
  refine loads.mono fun member value held found => ?_
  have values := shared _ ((mem_speedRoots present).mpr (.inr ⟨member, held, rfl⟩))
  exact (agrees.get? (sound.speedFits lies present member held) values).trans found

omit inward sound in
theorem Agrees.shape {spot : Place} {shape : Shape (Handle Components)}
    (fits : ShapeFits workspace place spot shape) (inside : region (spot.inner .extents)) :
    shape.mapM? changed.get? = shape.mapM? workspace.get? := by
  cases shape with
  | cube extents => exact congrArg (Option.map _) (agrees.get? fits inside)
  | _ => rfl

private theorem Agrees.spawner {spawner : Spawner (Handle Components) (Handle StoredSpeed)}
    {spot : Place} (fits : SpawnerFits workspace place spot spawner) (inside : region spot)
    (shared : forall root, root ∈ workspace.speedRoots spawner.speed -> region (.alone root)) :
    spawner.mapM? changed.get? changed.loadSpeed? =
      spawner.mapM? workspace.get? workspace.loadSpeed? := by
  simp only [Spawner.mapM?, agrees.shape fits.shape (inward spot inside _),
    agrees.get? fits.center (inward spot inside _),
    agrees.get? fits.rotation (inward spot inside _),
    agrees.loadSpeed? sound fits.speed shared]

/-- What a modifier is applied with is the same in another workspace, if its own parts,
what it shares and what its hooks name are. -/
theorem Agrees.modifierAt? {handle : Handle StoredModifier} {spot : Place}
    (lies : Lies workspace place handle spot) (inside : region spot)
    (shared : forall stored root, workspace.get? handle = some stored ->
      root ∈ workspace.sharedRoots stored -> region (.alone root))
    (named : forall stored name, workspace.get? handle = some stored -> name ∈ namesOf stored ->
      changed.components (.named name) = workspace.components (.named name)) :
    changed.modifierAt? handle = workspace.modifierAt? handle := by
  rcases lies.exists_get? with ⟨stored, present⟩
  have fits := (sound.modifierFits lies present).2
  have same : changed.loadModifier? stored = workspace.loadModifier? stored := by
    cases stored with
    | position spawner =>
      simp only [loadModifier?, Modifier.mapM?,
        agrees.spawner inward sound fits inside (shared _ · present)]
    | accel vector =>
      simp only [loadModifier?, Modifier.mapM?, agrees.get? fits (inward spot inside _)]
    | forceField slots =>
      simp only [loadModifier?, Modifier.mapM?,
        agrees.loadField? inward sound fits (inward spot inside _)]
    | texture texture => rfl
    | color gradient =>
      simp only [loadModifier?, Modifier.mapM?,
        agrees.loadGradient? inward sound fits (shared _ _ present List.mem_cons_self)]
    | size gradient =>
      simp only [loadModifier?, Modifier.mapM?,
        agrees.loadGradient? inward sound fits (shared _ _ present List.mem_cons_self)]
    | custom hooks =>
      simp only [loadModifier?, Modifier.mapM?, loadHooks_congr (named _ · present)]
  rw [modifierAt?_of_get? present, modifierAt?_of_get? ((agrees.get? lies inside).trans present),
    same]

end Agreement

end Workspace
end ParticleEffects
