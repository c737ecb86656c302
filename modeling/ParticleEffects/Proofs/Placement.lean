import Mathlib.Data.List.Basic
import ParticleEffects.Proofs.GradientOrder
import ParticleEffects.Workspace.Transcript

namespace ParticleEffects
namespace Workspace

/-!
Which object another one is a part of.

A placement gives every object a place: a root, which is the address of the object
that it is a part of in the end, and the parts through which it is reached from
there.  A placement is sound if each object lies where the object that refers to it
keeps that part, so that no object is a part of two others.  What is shared is a
root of its own: the gradient of a color or size modifier, the speed of a position
modifier, the values of a speed, the modifiers of an effect, and the position of a
source that is part of nothing.

Placements are no data of a workspace.  They are what shows that an assignment to
one object is not seen in another.
-/

open Spatial ForceField Spawn

/-- The way from an object to a part of it. -/
inductive Part where
  | accel
  | center
  | rotation
  | extents
  /-- The slots of a modifier. -/
  | store
  /-- The slots of a layout. -/
  | slots
  | slot (n : Nat)
  | position
  /-- The value of any key. -/
  | key
  | color
  | size
  deriving DecidableEq

structure Place where
  root : Nat
  /-- The outermost part comes first. -/
  parts : List Part := []
  deriving DecidableEq

/-- A set of places. -/
abbrev Region := Place -> Prop

namespace Place

/-- The place of an object that is part of nothing. -/
def alone (address : Nat) : Place := { root := address }

def inner (place : Place) (part : Part) : Place :=
  { place with parts := place.parts ++ [part] }

/-- A place with all that is inside of it. -/
def region (outer : Place) : Region := fun place =>
  place.root = outer.root ∧ outer.parts <+: place.parts

@[simp]
theorem parts_inner (place : Place) (part : Part) :
    (place.inner part).parts = place.parts ++ [part] := rfl

@[simp]
theorem parts_alone (address : Nat) : (alone address).parts = [] := rfl

@[simp]
theorem root_alone (address : Nat) : (alone address).root = address := rfl

theorem inner_ne (place : Place) (part : Part) : place.inner part ≠ place := by
  intro same
  have := congrArg (List.length ∘ Place.parts) same
  simp at this

theorem region_self (place : Place) : place.region place := ⟨rfl, List.prefix_rfl⟩

theorem region_inner {outer place : Place} (inside : outer.region place) (part : Part) :
    outer.region (place.inner part) :=
  ⟨inside.1, inside.2.trans (List.prefix_append place.parts [part])⟩

theorem region_of_region_inner {outer place : Place} {part : Part}
    (inside : (outer.inner part).region place) : outer.region place :=
  ⟨inside.1, (List.prefix_append outer.parts [part]).trans inside.2⟩

/-- A place is not inside of its parts. -/
theorem not_region_inner_self (place : Place) (part : Part) :
    ¬ (place.inner part).region place := by
  intro inside
  have longer := inside.2.length_le
  rw [parts_inner, List.length_append, List.length_singleton] at longer
  omega

/-- Different parts of one place have nothing in common. -/
theorem not_region_inner_of_ne {outer place : Place} {first second : Part}
    (inside : (outer.inner first).region place) (different : first ≠ second) :
    ¬ (outer.inner second).region place := by
  intro both
  have same : outer.parts ++ [first] = outer.parts ++ [second] :=
    (List.prefix_of_prefix_length_le inside.2 both.2 (by simp)).eq_of_length (by simp)
  exact different (List.singleton_inj.mp (List.append_cancel_left same))

end Place

/-- Whether a region has all that is inside of its places. -/
def Region.Inward (region : Region) : Prop :=
  forall place, region place -> forall part, region (place.inner part)

theorem Place.inward_region (outer : Place) : Region.Inward outer.region :=
  fun _ inside part => Place.region_inner inside part

/-- The place of each object, by its address. -/
abbrev Placement := Nat -> Place

namespace Placement

/-- The placement with one place changed. -/
def assign (place : Placement) (address : Nat) (spot : Place) : Placement := fun other =>
  if other = address then spot else place other

@[simp]
theorem assign_self (place : Placement) (address : Nat) (spot : Place) :
    place.assign address spot address = spot := by
  simp [assign]

theorem assign_ne (place : Placement) {address other : Nat} (spot : Place)
    (different : other ≠ address) : place.assign address spot other = place other := by
  simp [assign, different]

end Placement

/-- The kind of the object at an address. -/
def kindAt? (workspace : Workspace) (address : Nat) : Option Kind :=
  workspace.objects[address]?.map Object.kind

section

variable {α : Type} [Storable α] {workspace : Workspace} {handle : Handle α}

theorem kindAt?_of_get? {content : α} (present : workspace.get? handle = some content) :
    workspace.kindAt? handle.address = some (Storable.kind α) := by
  rw [kindAt?, get?_eq_some_iff.mp present, Option.map_some, Storable.object_kind]

/-- Objects of different kinds have different addresses. -/
theorem address_ne_of_kindAt? {β : Type} [Storable β] {other : Handle β}
    (present : workspace.kindAt? handle.address = some (Storable.kind α))
    (present' : workspace.kindAt? other.address = some (Storable.kind β))
    (different : Storable.kind α ≠ Storable.kind β) : handle.address ≠ other.address := by
  intro same
  rw [same, present'] at present
  exact different (Option.some.inj present).symm

theorem exists_get?_of_kindAt?
    (present : workspace.kindAt? handle.address = some (Storable.kind α)) :
    Exists fun content => workspace.get? handle = some content := by
  rcases Option.map_eq_some_iff.mp present with ⟨held, found, same⟩
  rcases Storable.exists_content same with ⟨content, rfl⟩
  exact ⟨content, get?_eq_some_iff.mpr found⟩

theorem lt_of_kindAt? {address : Nat} {kind : Kind} (present : workspace.kindAt? address = some kind) :
    address < workspace.objects.size := by
  rcases Option.map_eq_some_iff.mp present with ⟨held, found, _⟩
  exact (Array.getElem?_eq_some_iff.mp found).choose

end

/-! ## Sound placements -/

/-- There is an object of the right kind, and it lies at the given place. -/
structure Lies {α : Type} [Storable α] (workspace : Workspace) (place : Placement)
    (handle : Handle α) (spot : Place) : Prop where
  kind : workspace.kindAt? handle.address = some (Storable.kind α)
  spot : place handle.address = spot

/-- Where the position of a source lies.  Only a source that is part of nothing has a
position that others may share. -/
def positionSpot (spot : Place) (position : Handle Components) : Place :=
  if spot.parts = [] then .alone position.address else spot.inner .position

section Fitting

variable (workspace : Workspace) (place : Placement) (spot : Place)

structure SlotsFit (slots : StoredSlots) : Prop where
  filled : forall n handle, slots[n]? = some (some handle) ->
    Lies workspace place handle (spot.inner (.slot n))
  /-- The slots of a modifier are all there. -/
  complete : spot.parts = [.store] -> slots.length = slotCount ∧ none ∉ slots

structure GradientFits (stored : StoredGradient) : Prop where
  values : forall key, key ∈ stored.gradient.toList ->
    Lies workspace place key.value (spot.inner .key)
  /-- The gradients that modifiers can refer to. -/
  ordered : spot.parts = [] -> stored.gradient.InOrder

def ShapeFits : Shape (Handle Components) -> Prop
  | .circle _ | .sphere _ => True
  | .cube extents => Lies workspace place extents (spot.inner .extents)

structure SpawnerFits (spawner : Spawner (Handle Components) (Handle StoredSpeed)) : Prop where
  shape : ShapeFits workspace place spot spawner.shape
  center : Lies workspace place spawner.center (spot.inner .center)
  rotation : Lies workspace place spawner.rotation (spot.inner .rotation)
  speed : Lies workspace place spawner.speed (.alone spawner.speed.address)

/-- The values of a speed are parts of nothing, so that speeds can share them. -/
def SpeedFits (stored : StoredSpeed) : Prop :=
  forall member, member ∈ stored.members ->
    Lies workspace place member.2 (.alone member.2.address)

def ModifierFits : StoredModifier -> Prop
  | .position spawner => SpawnerFits workspace place spot spawner
  | .accel vector => Lies workspace place vector (spot.inner .accel)
  | .forceField slots => Lies workspace place slots (spot.inner .store)
  | .color gradient | .size gradient =>
    Lies workspace place gradient (.alone gradient.address)
  | .texture _ | .custom _ => True

structure UpdateFits (layout : StoredUpdate) : Prop where
  accel : Lies workspace place layout.accel (spot.inner .accel)
  forceField : Lies workspace place layout.forceField (spot.inner .slots)

structure RenderFits (layout : StoredRender) : Prop where
  colorGradient : forall gradient, layout.colorGradient = some gradient ->
    Lies workspace place gradient (spot.inner .color)
  sizeGradient : forall gradient, layout.sizeGradient = some gradient ->
    Lies workspace place gradient (spot.inner .size)

/-- All that an object at a place refers to lies where it belongs.  Modifiers,
effects and layouts are parts of nothing. -/
def Fits (address : Nat) : Object -> Prop
  | .vector _ => True
  | .source source => Lies workspace place source.position (positionSpot spot source.position)
  | .slots slots => SlotsFit workspace place spot slots
  | .gradient stored => GradientFits workspace place spot stored
  | .value _ => True
  | .speed stored => SpeedFits workspace place stored
  | .modifier modifier => spot = .alone address ∧ ModifierFits workspace place spot modifier
  | .effect effect => spot = .alone address ∧ forall stage modifier,
      modifier ∈ effect.modifiers stage ->
      Lies workspace place modifier (.alone modifier.address)
  | .initLayout _ => spot = .alone address
  | .updateLayout layout => spot = .alone address ∧ UpdateFits workspace place spot layout
  | .renderLayout layout => spot = .alone address ∧ RenderFits workspace place spot layout

end Fitting

/-- Every object fits its place. -/
def Sound (workspace : Workspace) (place : Placement) : Prop :=
  forall address object, workspace.objects[address]? = some object ->
    Fits workspace place (place address) address object

/-! ## Changes -/

/-- What a change leaves alone of the objects: only those in one region are written, and
new ones are added in one. -/
structure Changes (written added : Region) (workspace : Workspace) (place : Placement)
    (changed : Workspace) (place' : Placement) : Prop where
  size_le : workspace.objects.size <= changed.objects.size
  place_eq : forall address, address < workspace.objects.size -> place' address = place address
  kind_eq : forall address, address < workspace.objects.size ->
    changed.kindAt? address = workspace.kindAt? address
  kept : forall address, address < workspace.objects.size -> ¬ written (place address) ->
    changed.objects[address]? = workspace.objects[address]?
  fresh : forall address, workspace.objects.size <= address -> address < changed.objects.size ->
    added (place' address)

/-- The region without a place. -/
def Region.nowhere : Region := fun _ => False

namespace Changes

variable {written added written' added' : Region} {workspace changed final : Workspace}
  {place place' place'' : Placement}

theorem refl (workspace : Workspace) (place : Placement) :
    Changes written added workspace place workspace place where
  size_le := Nat.le_refl _
  place_eq _ _ := rfl
  kind_eq _ _ := rfl
  kept _ _ _ := rfl
  fresh _ beyond inside := absurd inside (Nat.not_lt.mpr beyond)

theorem trans (first : Changes written added workspace place changed place')
    (second : Changes written added changed place' final place'') :
    Changes written added workspace place final place'' where
  size_le := Nat.le_trans first.size_le second.size_le
  place_eq address old := by
    rw [second.place_eq address (Nat.lt_of_lt_of_le old first.size_le), first.place_eq address old]
  kind_eq address old := by
    rw [second.kind_eq address (Nat.lt_of_lt_of_le old first.size_le), first.kind_eq address old]
  kept address old untouched := by
    rw [second.kept address (Nat.lt_of_lt_of_le old first.size_le)
      (by rwa [first.place_eq address old]), first.kept address old untouched]
  fresh address beyond inside := by
    by_cases old : address < changed.objects.size
    · rw [second.place_eq address old]
      exact first.fresh address beyond old
    · exact second.fresh address (Nat.not_lt.mp old) inside

theorem weaken (changes : Changes written added workspace place changed place')
    (wider : forall spot, written spot -> written' spot)
    (wider' : forall spot, added spot -> added' spot) :
    Changes written' added' workspace place changed place' :=
  { changes with
    kept := fun address old untouched =>
      changes.kept address old fun touched => untouched (wider _ touched)
    fresh := fun address beyond inside => wider' _ (changes.fresh address beyond inside) }

end Changes

section Preservation

variable {written added : Region} {workspace changed : Workspace} {place place' : Placement}

theorem Lies.change {α : Type} [Storable α] {handle : Handle α} {spot : Place}
    (lies : Lies workspace place handle spot)
    (changes : Changes written added workspace place changed place') :
    Lies changed place' handle spot where
  kind := (changes.kind_eq _ (lt_of_kindAt? lies.kind)).trans lies.kind
  spot := (changes.place_eq _ (lt_of_kindAt? lies.kind)).trans lies.spot

theorem Lies.exists_get? {α : Type} [Storable α] {handle : Handle α} {spot : Place}
    (lies : Lies workspace place handle spot) :
    Exists fun content => workspace.get? handle = some content :=
  exists_get?_of_kindAt? lies.kind

theorem SlotsFit.change {spot : Place} {slots : StoredSlots}
    (fits : SlotsFit workspace place spot slots)
    (changes : Changes written added workspace place changed place') :
    SlotsFit changed place' spot slots where
  filled n handle present := (fits.filled n handle present).change changes
  complete := fits.complete

theorem GradientFits.change {spot : Place} {stored : StoredGradient}
    (fits : GradientFits workspace place spot stored)
    (changes : Changes written added workspace place changed place') :
    GradientFits changed place' spot stored where
  values key present := (fits.values key present).change changes
  ordered := fits.ordered

theorem ShapeFits.change {spot : Place} {shape : Shape (Handle Components)}
    (fits : ShapeFits workspace place spot shape)
    (changes : Changes written added workspace place changed place') :
    ShapeFits changed place' spot shape := by
  cases shape with
  | circle radius => trivial
  | sphere radius => trivial
  | cube extents => exact Lies.change fits changes

theorem SpawnerFits.change {spot : Place}
    {spawner : Spawner (Handle Components) (Handle StoredSpeed)}
    (fits : SpawnerFits workspace place spot spawner)
    (changes : Changes written added workspace place changed place') :
    SpawnerFits changed place' spot spawner where
  shape := fits.shape.change changes
  center := fits.center.change changes
  rotation := fits.rotation.change changes
  speed := fits.speed.change changes

theorem ModifierFits.change {spot : Place} {modifier : StoredModifier}
    (fits : ModifierFits workspace place spot modifier)
    (changes : Changes written added workspace place changed place') :
    ModifierFits changed place' spot modifier := by
  cases modifier with
  | position spawner => exact SpawnerFits.change fits changes
  | accel vector => exact Lies.change fits changes
  | forceField slots => exact Lies.change fits changes
  | texture handle => trivial
  | color gradient => exact Lies.change fits changes
  | size gradient => exact Lies.change fits changes
  | custom hooks => trivial

theorem Fits.change {spot : Place} {address : Nat} {object : Object}
    (fits : Fits workspace place spot address object)
    (changes : Changes written added workspace place changed place') :
    Fits changed place' spot address object := by
  cases object with
  | vector entries => trivial
  | source source => exact Lies.change fits changes
  | slots slots => exact SlotsFit.change fits changes
  | gradient stored => exact GradientFits.change fits changes
  | value value => trivial
  | speed stored => exact fun member present => (fits member present).change changes
  | modifier modifier => exact ⟨fits.1, fits.2.change changes⟩
  | effect effect =>
    exact ⟨fits.1, fun stage modifier present => (fits.2 stage modifier present).change changes⟩
  | initLayout layout => exact fits
  | updateLayout layout =>
    exact ⟨fits.1, fits.2.accel.change changes, fits.2.forceField.change changes⟩
  | renderLayout layout =>
    exact ⟨fits.1, fun gradient present => (fits.2.colorGradient gradient present).change changes,
      fun gradient present => (fits.2.sizeGradient gradient present).change changes⟩

theorem Sound.fits {α : Type} [Storable α] (sound : Sound workspace place) {handle : Handle α}
    {spot : Place} (lies : Lies workspace place handle spot) {content : α}
    (present : workspace.get? handle = some content) :
    Fits workspace place spot handle.address (Storable.object content) :=
  lies.spot ▸ sound handle.address _ (get?_eq_some_iff.mp present)

end Preservation

/-! ## The two operations -/

section Operations

variable {α : Type} [Storable α] {workspace : Workspace} {place : Placement}

theorem getElem?_add (workspace : Workspace) (content : α) (address : Nat) :
    (workspace.add content).1.objects[address]? =
      if address = workspace.objects.size then some (Storable.object content)
      else workspace.objects[address]? := by
  simp [add, Array.getElem?_push]

theorem changes_add (workspace : Workspace) (place : Placement) (content : α) (spot : Place) :
    Changes .nowhere (· = spot) workspace place (workspace.add content).1
      (place.assign workspace.objects.size spot) where
  size_le := by simp [add]
  place_eq address old := place.assign_ne spot (Nat.ne_of_lt old)
  kind_eq address old := by
    rw [kindAt?, getElem?_add, if_neg (Nat.ne_of_lt old), kindAt?]
  kept address old _ := by rw [getElem?_add, if_neg (Nat.ne_of_lt old)]
  fresh address beyond inside := by
    have : address = workspace.objects.size := by
      simp [add] at inside
      omega
    rw [this, Placement.assign_self]

theorem lies_add (workspace : Workspace) (place : Placement) (content : α) (spot : Place) :
    Lies (workspace.add content).1 (place.assign workspace.objects.size spot)
      (workspace.add content).2 spot where
  kind := kindAt?_of_get? (get?_add_self workspace content)
  spot := place.assign_self _ _

/-- An object can be added at any place that fits. -/
theorem Sound.add (sound : Sound workspace place) {content : α} {spot : Place}
    (fits : Fits workspace place spot workspace.objects.size (Storable.object content)) :
    Sound (workspace.add content).1 (place.assign workspace.objects.size spot) := by
  have changes := changes_add workspace place content spot
  intro address object present
  rw [getElem?_add] at present
  by_cases new : address = workspace.objects.size
  · rw [if_pos new] at present
    cases present
    subst new
    rw [Placement.assign_self]
    exact fits.change changes
  · rw [if_neg new] at present
    rw [Placement.assign_ne place spot new]
    exact (sound address object present).change changes

theorem getElem?_set (workspace : Workspace) {handle : Handle α} {kind : Kind}
    (present : workspace.kindAt? handle.address = some kind) (content : α) (address : Nat) :
    (workspace.set handle content).objects[address]? =
      if handle.address = address then some (Storable.object content)
      else workspace.objects[address]? := by
  have inside := lt_of_kindAt? present
  by_cases same : handle.address = address
  · subst same
    simp [set, inside]
  · simp [set, same, Array.getElem?_setIfInBounds_ne same]

theorem changes_set {handle : Handle α} {spot : Place}
    (lies : Lies workspace place handle spot) (content : α) :
    Changes (· = spot) .nowhere workspace place (workspace.set handle content) place where
  size_le := by simp [set]
  place_eq _ _ := rfl
  kind_eq address old := by
    rw [kindAt?, getElem?_set workspace lies.kind]
    split
    · rename_i same
      rw [← same, lies.kind, Option.map_some, Storable.object_kind]
    · rfl
  kept address old untouched := by
    rw [getElem?_set workspace lies.kind, if_neg]
    intro same
    exact untouched (same ▸ lies.spot)
  fresh address beyond inside := by
    simp [set] at inside
    omega

/-- What an object holds can be replaced by what fits its place. -/
theorem Sound.set (sound : Sound workspace place) {handle : Handle α} {spot : Place}
    (lies : Lies workspace place handle spot) {content : α}
    (fits : Fits workspace place spot handle.address (Storable.object content)) :
    Sound (workspace.set handle content) place := by
  have changes := changes_set lies content
  intro address object present
  rw [getElem?_set workspace lies.kind] at present
  by_cases same : handle.address = address
  · rw [if_pos same] at present
    cases present
    rw [← same, lies.spot]
    exact fits.change changes
  · rw [if_neg same] at present
    exact (sound address object present).change changes

end Operations

end Workspace
end ParticleEffects
