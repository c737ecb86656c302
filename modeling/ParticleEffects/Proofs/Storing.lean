import ParticleEffects.Proofs.Footprint

namespace ParticleEffects
namespace Workspace

/-!
What is stored is loaded again.

Each of the ways to keep a value in objects leads to a sound placement again, in
which the new objects lie where they were asked to, and the value is what is loaded
from there.  Adding writes to no object that was there before, and writing in place
only to objects inside of the place that is written.
-/

open Spatial ForceField Spawn

/-- A sound placement after a change that is none of the names. -/
structure Evolves (written added : Region) (workspace : Workspace) (place : Placement)
    (changed : Workspace) (place' : Placement) : Prop where
  sound : Sound changed place'
  changes : Changes written added workspace place changed place'
  names_eq : changed.names = workspace.names

namespace Evolves

variable {written added written' added' : Region} {workspace changed final : Workspace}
  {place place' place'' : Placement}

theorem refl (written added : Region) (sound : Sound workspace place) :
    Evolves written added workspace place workspace place :=
  ⟨sound, .refl workspace place, rfl⟩

theorem trans (first : Evolves written added workspace place changed place')
    (second : Evolves written added changed place' final place'') :
    Evolves written added workspace place final place'' :=
  ⟨second.sound, first.changes.trans second.changes, second.names_eq.trans first.names_eq⟩

theorem weaken (evolves : Evolves written added workspace place changed place')
    (wider : forall spot, written spot -> written' spot)
    (wider' : forall spot, added spot -> added' spot) :
    Evolves written' added' workspace place changed place' :=
  ⟨evolves.sound, evolves.changes.weaken wider wider', evolves.names_eq⟩

/-- Where nothing was written, writing may be allowed anywhere. -/
theorem allow (written : Region)
    (evolves : Evolves .nowhere added workspace place changed place') :
    Evolves written added workspace place changed place' :=
  evolves.weaken (fun _ => False.elim) fun _ => id

end Evolves

/-- The region of all places. -/
def Region.everywhere : Region := fun _ => True

theorem Region.inward_everywhere : Region.everywhere.Inward := fun _ _ _ => trivial

/-- Where nothing is written, all objects stay as they are. -/
theorem Changes.grows {added : Region} {workspace changed : Workspace} {place place' : Placement}
    (changes : Changes .nowhere added workspace place changed place') :
    Agrees .everywhere workspace place changed :=
  changes.agrees _ fun _ _ => id

section Operations

variable {α β : Type} [Storable α] [Storable β] {written added : Region}
  {workspace changed : Workspace} {place place' : Placement}

/-- An object is added behind other changes, where that is allowed. -/
theorem Evolves.add (evolves : Evolves written added workspace place changed place') (content : α)
    {spot : Place} (allowed : added spot)
    (fits : Fits changed place' spot changed.objects.size (Storable.object content)) :
    Evolves written added workspace place (changed.add content).1
      (place'.assign changed.objects.size spot) where
  sound := evolves.sound.add fits
  changes := evolves.changes.trans
    ((changes_add changed place' content spot).weaken (fun _ => False.elim) fun _ same =>
      same ▸ allowed)
  names_eq := evolves.names_eq

/-- An object is written behind other changes, where that is allowed. -/
theorem Evolves.set (evolves : Evolves written added workspace place changed place')
    {handle : Handle α} {spot : Place} (lies : Lies changed place' handle spot)
    (content : α) (allowed : written spot)
    (fits : Fits changed place' spot handle.address (Storable.object content)) :
    Evolves written added workspace place (changed.set handle content) place' where
  sound := evolves.sound.set lies fits
  changes := evolves.changes.trans
    ((changes_set lies content).weaken (fun _ same => same ▸ allowed) fun _ => False.elim)
  names_eq := evolves.names_eq

theorem Lies.get?_set_self {handle : Handle α} {spot : Place}
    (lies : Lies workspace place handle spot) (content : α) :
    (workspace.set handle content).get? handle = some content := by
  rcases lies.exists_get? with ⟨held, present⟩
  exact Workspace.get?_set_self present content

theorem Lies.get?_set_ne {changed : Handle α} {handle : Handle β} {spot spot' : Place}
    (lies : Lies workspace place changed spot) (lies' : Lies workspace place handle spot')
    (different : spot' ≠ spot) (content : α) :
    (workspace.set changed content).get? handle = workspace.get? handle :=
  ((changes_set lies content).agrees (· = spot') fun _ same both =>
    different (same.symm.trans both)).get? lies' rfl

theorem Lies.get?_add {handle : Handle α} {spot : Place}
    (lies : Lies workspace place handle spot) (content : β) :
    (workspace.add content).1.get? handle = workspace.get? handle :=
  (changes_add workspace place content spot).grows.get? lies trivial

end Operations

/-- An object was added at a place, together with its parts. -/
structure Added {α : Type} [Storable α] (spot : Place) (workspace : Workspace) (place : Placement)
    (result : Workspace × Handle α) (place' : Placement) : Prop where
  evolves : Evolves .nowhere spot.region workspace place result.1 place'
  lies : Lies result.1 place' result.2 spot

/-- The object itself comes behind its parts. -/
theorem Evolves.added {α : Type} [Storable α] {workspace extended : Workspace}
    {place place' : Placement} {spot : Place}
    (evolves : Evolves .nowhere spot.region workspace place extended place')
    (content : α) (fits : Fits extended place' spot extended.objects.size (Storable.object content)) :
    Added spot workspace place (extended.add content)
      (place'.assign extended.objects.size spot) where
  evolves := evolves.add content spot.region_self fits
  lies := lies_add extended place' content spot

/-- Objects that were added to a part were added to the whole. -/
theorem Evolves.outward {workspace extended : Workspace} {place place' : Placement} {spot : Place}
    {part : Part}
    (evolves : Evolves .nowhere (spot.inner part).region workspace place extended place') :
    Evolves .nowhere spot.region workspace place extended place' :=
  evolves.weaken (fun _ => id) fun _ => Place.region_of_region_inner

section Adding

variable {workspace : Workspace} {place : Placement} (sound : Sound workspace place)
include sound

/-- A vector can be added anywhere. -/
theorem Sound.addVector (entries : Components) (spot : Place) :
    Added spot workspace place (workspace.add entries)
      (place.assign workspace.objects.size spot) :=
  (Evolves.refl _ _ sound).added entries trivial

theorem Sound.addSource (source : LayoutSource) (spot : Place) (nested : spot.parts ≠ []) :
    Exists fun place' => Added spot workspace place (workspace.addSource source) place' ∧
      (workspace.addSource source).1.loadSource? (workspace.addSource source).2 = some source := by
  have position := sound.addVector source.position (spot.inner .position)
  have fits : Lies (workspace.add source.position).1
      (place.assign workspace.objects.size (spot.inner .position))
      (workspace.add source.position).2 (positionSpot spot (workspace.add source.position).2) := by
    rw [positionSpot, if_neg nested]
    exact position.lies
  refine ⟨_, position.evolves.outward.added
    (source.moveTo (workspace.add source.position).2) fits, ?_⟩
  have found := position.lies.get?_add (source.moveTo (workspace.add source.position).2)
  rw [get?_add_self] at found
  exact (loadSource?_of_get? (get?_add_self _ _)).trans (congrArg (Option.map _) found)

end Adding

/-! ## Sources and slots -/

theorem positionSpot_of_nested {spot : Place} (nested : spot.parts ≠ [])
    (position : Handle Components) : positionSpot spot position = spot.inner .position :=
  if_neg nested

/-- The slots from a number on, with all that is inside of them. -/
def slotsFrom (spot : Place) (start : Nat) : Region := fun place =>
  Exists fun n => start <= n ∧ (spot.inner (.slot n)).region place

theorem region_of_slotsFrom {spot place : Place} {start : Nat} (inside : slotsFrom spot start place) :
    spot.region place := by
  rcases inside with ⟨_, _, inner⟩
  exact Place.region_of_region_inner inner

theorem slotsFrom_of_region {spot place : Place} {n : Nat}
    (inside : (spot.inner (.slot n)).region place) : slotsFrom spot n place :=
  ⟨n, Nat.le_refl n, inside⟩

theorem slotsFrom_of_slotsFrom_succ {spot place : Place} {n : Nat}
    (inside : slotsFrom spot (n + 1) place) : slotsFrom spot n place := by
  rcases inside with ⟨later, beyond, inner⟩
  exact ⟨later, Nat.le_of_succ_le beyond, inner⟩

theorem not_slotsFrom_succ {spot place : Place} {n : Nat}
    (inside : (spot.inner (.slot n)).region place) : ¬ slotsFrom spot (n + 1) place := by
  rintro ⟨later, beyond, inner⟩
  exact Place.not_region_inner_of_ne inside (by simp only [ne_eq, Part.slot.injEq]; omega) inner

theorem inward_slotsFrom (spot : Place) (start : Nat) : Region.Inward (slotsFrom spot start) := by
  rintro place ⟨n, beyond, inside⟩ part
  exact ⟨n, beyond, Place.region_inner inside part⟩

theorem not_slotsFrom_self (spot : Place) (start : Nat) : ¬ slotsFrom spot start spot := by
  rintro ⟨n, _, inside⟩
  exact Place.not_region_inner_self spot _ inside

section Slots

variable {workspace : Workspace} {place : Placement} (sound : Sound workspace place)
include sound

theorem Sound.writeSource {handle : Handle StoredSource} {spot : Place}
    (lies : Lies workspace place handle spot) (nested : spot.parts ≠ []) (source : LayoutSource) :
    Evolves spot.region .nowhere workspace place (workspace.writeSource handle source) place ∧
      (workspace.writeSource handle source).loadSource? handle = some source := by
  rcases lies.exists_get? with ⟨stored, present⟩
  have position : Lies workspace place stored.position (spot.inner .position) := by
    have fits : Lies workspace place stored.position (positionSpot spot stored.position) :=
      sound.fits lies present
    rwa [positionSpot_of_nested nested] at fits
  have moved := (Evolves.refl spot.region .nowhere sound).set position source.position
    (Place.region_inner spot.region_self _) trivial
  have lies' := lies.change moved.changes
  have position' := position.change moved.changes
  simp only [Workspace.writeSource, present]
  constructor
  · apply moved.set lies' _ spot.region_self
    show Lies _ place stored.position (positionSpot spot stored.position)
    rwa [positionSpot_of_nested nested]
  · rw [loadSource?_of_get? (lies'.get?_set_self _)]
    simp only [PointSource.moveTo]
    rw [lies'.get?_set_ne position' (spot.inner_ne _), position.get?_set_self]
    rfl

/-- A slot, filled or not, in place of what it held. -/
structure SlotWritten (spot : Place) (slot : Option LayoutSource) (workspace : Workspace)
    (place : Placement) (result : Workspace × Option (Handle StoredSource))
    (place' : Placement) : Prop where
  evolves : Evolves spot.region spot.region workspace place result.1 place'
  lies : forall handle, result.2 = some handle -> Lies result.1 place' handle spot
  loaded : result.2.mapM result.1.loadSource? = some slot

theorem Sound.addSlot {spot : Place} (nested : spot.parts ≠ []) (slot : Option LayoutSource) :
    Exists fun place' => SlotWritten spot slot workspace place (workspace.addSlot slot) place' := by
  cases slot with
  | none => exact ⟨place, Evolves.refl _ _ sound, (fun _ absent => nomatch absent), rfl⟩
  | some source =>
    rcases sound.addSource source spot nested with ⟨place', added, loaded⟩
    refine ⟨place', added.evolves.allow _, ?_, ?_⟩
    · rintro handle ⟨⟩
      exact added.lies
    · exact congrArg (Option.map some) loaded

theorem Sound.writeSlot {held : Option (Handle StoredSource)} {spot : Place}
    (lies : forall handle, held = some handle -> Lies workspace place handle spot)
    (nested : spot.parts ≠ []) (slot : Option LayoutSource) :
    Exists fun place' =>
      SlotWritten spot slot workspace place (workspace.writeSlot held slot) place' := by
  cases held with
  | none => exact sound.addSlot nested slot
  | some handle =>
    cases slot with
    | none => exact sound.addSlot nested none
    | some source =>
      rcases sound.writeSource (lies handle rfl) nested source with ⟨evolves, loaded⟩
      refine ⟨place, evolves.weaken (fun _ => id) fun _ => False.elim, ?_, ?_⟩
      · rintro _ ⟨⟩
        exact (lies handle rfl).change evolves.changes
      · exact congrArg (Option.map some) loaded

end Slots

/-- Slots from a number on, each in place of what it held. -/
structure SlotsWritten (spot : Place) (start : Nat) (slots : List (Option LayoutSource))
    (workspace : Workspace) (place : Placement) (result : Workspace × StoredSlots)
    (place' : Placement) : Prop where
  evolves : Evolves (slotsFrom spot start) (slotsFrom spot start) workspace place result.1 place'
  lies : forall n handle, result.2[n]? = some (some handle) ->
    Lies result.1 place' handle (spot.inner (.slot (start + n)))
  loaded : (result.2.mapM fun slot => slot.mapM result.1.loadSource?) = some slots

private theorem add_succ_eq (start n : Nat) : start + (n + 1) = start + 1 + n := by omega

theorem Sound.writeEach (spot : Place) (slots : List (Option LayoutSource)) :
    forall {workspace : Workspace} {place : Placement} (held : StoredSlots) (start : Nat),
      Sound workspace place ->
      (forall n handle, held[n]? = some (some handle) ->
        Lies workspace place handle (spot.inner (.slot (start + n)))) ->
      Exists fun place' =>
        SlotsWritten spot start slots workspace place (workspace.writeEach held slots) place' := by
  induction slots with
  | nil =>
    intro workspace place held start sound _
    exact ⟨place, Evolves.refl _ _ sound, (fun n handle present => by cases present), rfl⟩
  | cons slot rest inductionHypothesis =>
    intro workspace place held start sound lies
    have nested : (spot.inner (.slot start)).parts ≠ [] := by simp
    have liesFirst : forall handle, held.head?.join = some handle ->
        Lies workspace place handle (spot.inner (.slot start)) := by
      intro handle present
      cases held with
      | nil => cases present
      | cons old _ => exact lies 0 handle (by simpa using present)
    rcases sound.writeSlot liesFirst nested slot with ⟨place', first⟩
    have liesOthers : forall n handle, held.tail[n]? = some (some handle) ->
        Lies (workspace.writeSlot held.head?.join slot).1 place' handle
          (spot.inner (.slot (start + 1 + n))) := by
      intro n handle present
      rw [← add_succ_eq]
      exact (lies (n + 1) handle (by simpa using present)).change first.evolves.changes
    rcases inductionHypothesis _ _ first.evolves.sound liesOthers with ⟨place'', others⟩
    -- The other slots are written outside of the first one.
    have agrees := others.evolves.changes.agrees (spot.inner (.slot start)).region
      fun _ => not_slotsFrom_succ
    have loadedFirst : (workspace.writeSlot held.head?.join slot).2.mapM
        ((workspace.writeSlot held.head?.join slot).1.writeEach held.tail rest).1.loadSource? =
          some slot := by
      rw [← first.loaded]
      cases stored : (workspace.writeSlot held.head?.join slot).2 with
      | none => rfl
      | some handle =>
        rw [Option.mapM_some, Option.mapM_some, agrees.loadSource? (Place.inward_region _)
          first.evolves.sound (first.lies handle stored) nested (Place.region_self _)]
    refine ⟨place'', ?_, ?_, ?_⟩
    · exact (first.evolves.weaken (fun _ => slotsFrom_of_region) fun _ => slotsFrom_of_region).trans
        (others.evolves.weaken (fun _ => slotsFrom_of_slotsFrom_succ) fun _ =>
          slotsFrom_of_slotsFrom_succ)
    · intro n handle present
      cases n with
      | zero => exact (first.lies handle (Option.some.inj present)).change others.evolves.changes
      | succ earlier =>
        rw [add_succ_eq]
        exact others.lies earlier handle present
    · exact mapM_cons_eq_some_iff.mpr ⟨slot, rest, loadedFirst, others.loaded, rfl⟩

theorem addEach_addSlot_eq (slots : List (Option LayoutSource)) :
    forall workspace : Workspace,
      addEach Workspace.addSlot workspace slots = workspace.writeEach [] slots := by
  induction slots with
  | nil => intro workspace; rfl
  | cons slot rest inductionHypothesis =>
    intro workspace
    simp only [addEach, Workspace.writeEach, inductionHypothesis]
    rfl

/-- Slots that are loaded are missing where they were missing before. -/
theorem complete_of_loaded {workspace : Workspace} {stored : StoredSlots}
    {slots : List (Option LayoutSource)}
    (loaded : (stored.mapM fun slot => slot.mapM workspace.loadSource?) = some slots)
    (size : slots.length = slotCount) (filled : none ∉ slots) :
    stored.length = slotCount ∧ none ∉ stored := by
  refine ⟨(length_mapM loaded).symm.trans size, fun missing => filled ?_⟩
  rcases exists_loaded_of_mapM loaded missing with ⟨slot, member, empty⟩
  exact Option.some.inj empty ▸ member

section Slots

variable {workspace : Workspace} {place : Placement} (sound : Sound workspace place)
include sound

/-- New slots are added at the place of slots, whatever lies there before. -/
theorem Sound.addSlots (slots : List (Option LayoutSource)) (spot : Place)
    (complete : spot.parts = [.store] -> slots.length = slotCount ∧ none ∉ slots) :
    Exists fun place' =>
      Evolves spot.region spot.region workspace place (workspace.addSlots slots).1 place' ∧
      Lies (workspace.addSlots slots).1 place' (workspace.addSlots slots).2 spot ∧
      (workspace.addSlots slots).1.loadSlots? (workspace.addSlots slots).2 = some slots := by
  rcases Sound.writeEach spot slots [] 0 sound
    (fun n handle present => by cases present) with ⟨place', written⟩
  rw [← addEach_addSlot_eq] at written
  have fits : SlotsFit (addEach Workspace.addSlot workspace slots).1 place' spot
      (addEach Workspace.addSlot workspace slots).2 := by
    refine ⟨fun n handle present => ?_, fun store => ?_⟩
    · have := written.lies n handle present
      rwa [Nat.zero_add] at this
    · exact complete_of_loaded written.loaded (complete store).1 (complete store).2
  have evolves := written.evolves.weaken (fun _ => region_of_slotsFrom)
    fun _ => region_of_slotsFrom
  refine ⟨_, evolves.add
    (addEach Workspace.addSlot workspace slots).2 spot.region_self fits, lies_add _ _ _ _, ?_⟩
  rw [← written.loaded]
  have grows := (changes_add (addEach Workspace.addSlot workspace slots).1 place'
    (addEach Workspace.addSlot workspace slots).2 spot).grows
  exact (loadSlots?_of_get? (get?_add_self _ _)).trans (grows.slots Region.inward_everywhere
    written.evolves.sound fits.filled fun _ => trivial)

theorem Sound.writeSlots {handle : Handle StoredSlots} {spot : Place}
    (lies : Lies workspace place handle spot) (layout : spot.parts ≠ [.store])
    (slots : List (Option LayoutSource)) :
    Exists fun place' =>
      Evolves spot.region spot.region workspace place (workspace.writeSlots handle slots) place' ∧
      (workspace.writeSlots handle slots).loadSlots? handle = some slots := by
  rcases lies.exists_get? with ⟨held, present⟩
  have heldLies : forall n source, held[n]? = some (some source) ->
      Lies workspace place source (spot.inner (.slot (0 + n))) := by
    intro n source found
    rw [Nat.zero_add]
    exact (sound.slotsFit lies present).filled n source found
  rcases Sound.writeEach spot slots held 0 sound heldLies with ⟨place', written⟩
  have fits : SlotsFit (workspace.writeEach held slots).1 place' spot
      (workspace.writeEach held slots).2 := by
    refine ⟨fun n source found => ?_, fun store => absurd store layout⟩
    have := written.lies n source found
    rwa [Nat.zero_add] at this
  have evolves := written.evolves.weaken (fun _ => region_of_slotsFrom)
    fun _ => region_of_slotsFrom
  have lies' := lies.change written.evolves.changes
  simp only [Workspace.writeSlots, present]
  refine ⟨place', evolves.set lies' _ spot.region_self fits, ?_⟩
  rw [← written.loaded, loadSlots?_of_get? (lies'.get?_set_self _)]
  have agrees := (changes_set lies' (workspace.writeEach held slots).2).agrees
    (slotsFrom spot 0) fun _ inside same => not_slotsFrom_self spot 0 (same ▸ inside)
  exact agrees.slots (inward_slotsFrom spot 0) written.evolves.sound fits.filled fun n =>
    ⟨n, Nat.zero_le n, Place.region_self _⟩

end Slots

end Workspace
end ParticleEffects
