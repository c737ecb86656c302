import ParticleEffects.Workspace.Load

namespace ParticleEffects
namespace Workspace

/-!
Values kept in objects of their own.

A value is added as new objects for all of its parts, which nothing else refers to.
Or it is written to the objects that are there already: each part is assigned in
place, and only a part that has no object yet gets a new one.
-/

open Spatial ForceField Spawn

/-! ## New objects -/

def addSource (workspace : Workspace) (source : LayoutSource) :
    Workspace × Handle StoredSource :=
  let (extended, position) := workspace.add source.position
  extended.add (source.moveTo position)

def addSlot (workspace : Workspace) :
    Option LayoutSource -> Workspace × Option (Handle StoredSource)
  | none => (workspace, none)
  | some source =>
    let (extended, handle) := workspace.addSource source
    (extended, some handle)

def addSlots (workspace : Workspace) (slots : List (Option LayoutSource)) :
    Workspace × Handle StoredSlots :=
  let (extended, stored) := addEach addSlot workspace slots
  extended.add stored

/-- A key with its value as an object of its own. -/
def addKeyValue {kind : GradientKind} (workspace : Workspace)
    (key : GradientKey Float (Vector Component kind.width)) :
    Workspace × GradientKey Float (Handle Components) :=
  let (extended, value) := workspace.add key.value.toList
  (extended, { ratio := key.ratio, value := value })

/-- A gradient with new objects for the values of its keys. -/
def addValues (workspace : Workspace) (any : AnyGradient) : Workspace × StoredGradient :=
  let (extended, keys) := addEach addKeyValue workspace any.gradient.toList
  (extended, { kind := any.kind, gradient := .ofList keys })

def addGradient (workspace : Workspace) (any : AnyGradient) :
    Workspace × Handle StoredGradient :=
  let (extended, stored) := workspace.addValues any
  extended.add stored

def addShape (workspace : Workspace) :
    Shape Components -> Workspace × Shape (Handle Components)
  | .circle radius => (workspace, .circle radius)
  | .sphere radius => (workspace, .sphere radius)
  | .cube extents =>
    let (extended, handle) := workspace.add extents
    (extended, .cube handle)

/-- The vectors of a spawner as new objects.  Its speed is one that is there already. -/
def addSpawner {Rate : Type} (workspace : Workspace) (spawner : Spawner Components Rate) :
    Workspace × Spawner (Handle Components) Rate :=
  let (extended, shape) := workspace.addShape spawner.shape
  let (extended, center) := extended.add spawner.center
  let (extended, rotation) := extended.add spawner.rotation
  (extended, {
    shape := shape
    center := center
    rotation := rotation
    speed := spawner.speed
    dimension := spawner.dimension })

def addUpdate (workspace : Workspace) (layout : UpdateLayout) :
    Workspace × Handle StoredUpdate :=
  let (extended, accel) := workspace.add layout.accel
  let (extended, forceField) := extended.addSlots layout.forceField
  extended.add { accel := accel, forceField := forceField : StoredUpdate }

/-! ## Objects that are there already -/

def writeSource (workspace : Workspace) (handle : Handle StoredSource)
    (source : LayoutSource) : Workspace :=
  match workspace.get? handle with
  | some stored =>
    (workspace.set stored.position source.position).set handle (source.moveTo stored.position)
  | none => workspace

/-- A slot with what it held before. -/
def writeSlot (workspace : Workspace) (held : Option (Handle StoredSource))
    (slot : Option LayoutSource) : Workspace × Option (Handle StoredSource) :=
  match held, slot with
  | some handle, some source => (workspace.writeSource handle source, some handle)
  | _, slot => workspace.addSlot slot

/-- Slots with what each of them held before. -/
def writeEach (workspace : Workspace) (held : StoredSlots) :
    List (Option LayoutSource) -> Workspace × StoredSlots
  | [] => (workspace, [])
  | slot :: rest =>
    let (written, stored) := workspace.writeSlot held.head?.join slot
    let (final, others) := written.writeEach held.tail rest
    (final, stored :: others)

def writeSlots (workspace : Workspace) (handle : Handle StoredSlots)
    (slots : List (Option LayoutSource)) : Workspace :=
  match workspace.get? handle with
  | some held =>
    let (written, stored) := workspace.writeEach held slots
    written.set handle stored
  | none => workspace

def writeUpdate (workspace : Workspace) (handle : Handle StoredUpdate)
    (layout : UpdateLayout) : Workspace :=
  match workspace.get? handle with
  | some stored =>
    (workspace.set stored.accel layout.accel).writeSlots stored.forceField layout.forceField
  | none => workspace

/-- A gradient that is there or not, with the one that was there before. -/
def writeGradient (workspace : Workspace) (held : Option (Handle StoredGradient))
    (any : Option AnyGradient) : Workspace × Option (Handle StoredGradient) :=
  match held, any with
  | some handle, some any =>
    let (extended, stored) := workspace.addValues any
    (extended.set handle stored, some handle)
  | none, some any =>
    let (extended, handle) := workspace.addGradient any
    (extended, some handle)
  | _, none => (workspace, none)

def writeRender (workspace : Workspace) (handle : Handle StoredRender)
    (layout : RenderLayout) : Workspace :=
  match workspace.get? handle with
  | some stored =>
    let (written, colorGradient) := workspace.writeGradient stored.colorGradient layout.colorGradient
    let (written, sizeGradient) := written.writeGradient stored.sizeGradient layout.sizeGradient
    written.set handle {
      particleTexture := layout.particleTexture
      colorGradient := colorGradient
      sizeGradient := sizeGradient }
  | none => workspace

end Workspace
end ParticleEffects
