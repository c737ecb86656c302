import ParticleEffects.Workspace.Store

namespace ParticleEffects
namespace Workspace

/-!
Reading: what drafts stand for, and the modifiers that are made from them.

What a vector or a source is passed to takes a copy of it; only a stored source
keeps the vector it was given as position, a color or size modifier its gradient, a
position modifier its speed, a speed its values, and a custom modifier the names of
the vectors that its keys take their values from.
-/

open Spatial ForceField Spawn

variable (workspace : Workspace)

/-- The source of a draft at a position, with the defaults of an empty slot. -/
def SourceDraft.at {Position : Type} (draft : SourceDraft) (position : Position) :
    PointSource Position :=
  let empty := PointSource.emptyAt position
  { position := position
    maxRadius := draft.maxRadius.getD empty.maxRadius
    minRadius := draft.minRadius.getD empty.minRadius
    mass := draft.mass.getD empty.mass
    forceExponent := draft.forceExponent.getD empty.forceExponent
    conformToSphere := draft.conformToSphere.getD empty.conformToSphere }

/-- The position of a draft as an operand, the origin where it is left out. -/
def SourceDraft.positionOperand (draft : SourceDraft) : VectorOperand :=
  draft.position.getD (.given (.ofNumbers [0, 0, 0]))

def readSource : SourceOperand -> Except Failure Source
  | .given draft => do return draft.at (<- workspace.components draft.positionOperand).vec3
  | .named name => do
    let handle <- workspace.findSource name
    return (<- orUnsuitable (workspace.loadSource? handle)).seen

/-- The value of a gradient is copied from the front of a vector. -/
def readValue (kind : GradientKind) (operand : VectorOperand) :
    Except Failure (Vector Component kind.width) := do
  return (<- workspace.components operand).toVector kind.width

def readKey (kind : GradientKind) (key : Float × VectorOperand) :
    Except Failure (GradientKey Float (Vector Component kind.width)) := do
  return { ratio := key.1, value := <- workspace.readValue kind key.2 }

def readStart (kind : GradientKind) :
    GradientStart -> Except Failure (Gradient Float (Vector Component kind.width))
  | .empty => .ok .empty
  | .constant value => do return .constant (<- workspace.readValue kind value)
  | .linear start stop => do
    return .linear (<- workspace.readValue kind start) (<- workspace.readValue kind stop)

def readGradient (draft : GradientDraft) : Except Failure AnyGradient := do
  let start <- workspace.readStart draft.kind draft.start
  let keys <- draft.keys.mapM (workspace.readKey draft.kind)
  return { kind := draft.kind, gradient := start.insertAll keys }

/-- The gradient of a name itself, or a new one. -/
def gradientHandle : GradientOperand -> Except Failure (Workspace × Handle StoredGradient)
  | .given draft => do return workspace.addGradient (<- workspace.readGradient draft)
  | .named name => do return (workspace, <- workspace.findGradient name)

/-- The vector of a name itself, or a new one. -/
def vectorHandle : VectorOperand -> Except Failure (Workspace × Handle Components)
  | .given entries => .ok (workspace.add entries)
  | .named name => do return (workspace, <- workspace.findVector name)

/-- The value of a name itself, or a new one. -/
def valueHandle : ValueOperand -> Except Failure (Workspace × Handle Value)
  | .given value => .ok (workspace.add value)
  | .named name => do return (workspace, <- workspace.findValue name)

/-- The values that a speed refers to, each of them new or that of a name. -/
def valueHandles : Speed ValueOperand -> Except Failure (Workspace × StoredSpeed)
  | .normal operand => do
    let (extended, speed) <- workspace.valueHandle operand
    return (extended, .normal speed)
  | .radial operand => do
    let (extended, speed) <- workspace.valueHandle operand
    return (extended, .radial speed)
  | .frame x y z => do
    let (extended, x) <- workspace.valueHandle x
    let (extended, y) <- extended.valueHandle y
    let (extended, z) <- extended.valueHandle z
    return (extended, .frame x y z)
  | .world x y z => do
    let (extended, x) <- workspace.valueHandle x
    let (extended, y) <- extended.valueHandle y
    let (extended, z) <- extended.valueHandle z
    return (extended, .world x y z)

/-- The speed of a name itself, or a new one. -/
def speedHandle : SpeedOperand -> Except Failure (Workspace × Handle StoredSpeed)
  | .given draft => do
    let (extended, stored) <- workspace.valueHandles draft
    return extended.add stored
  | .named name => do return (workspace, <- workspace.findSpeed name)

/-- The spawner of a draft with copies of its vectors, whatever its speed is. -/
def readSpawner {Rate : Type} (draft : SpawnerDraft) (speed : Rate) :
    Except Failure (Spawner Components Rate) := do
  let shape <- draft.shape.mapM workspace.components
  let center <- draft.center.mapM workspace.components
  let rotation <- draft.rotation.mapM workspace.components
  let options : SpawnerOptions Components :=
    { shape := shape, center := center, rotation := rotation, dimension := draft.dimension }
  return (Spawner.ofOptions options).withSpeed speed

/-- The modifier of a draft, with the objects that had to be made for it. -/
def readModifier (label : String) : ModifierDraft -> Except Failure (Workspace × StoredModifier)
  | .position draft => do
    let (extended, speed) <- workspace.speedHandle (speedOperand draft)
    let (extended, spawner) := extended.addSpawner (<- workspace.readSpawner draft speed)
    return (extended, .position spawner)
  | .accel operand => do
    let (extended, vector) := workspace.add ((<- workspace.components operand).copy 3)
    return (extended, .accel vector)
  | .forceField operands => do
    let sources <- operands.mapM workspace.readSource
    let slots <- (Slots.ofSources sources).mapError .slots
    let (extended, handle) := workspace.addSlots (layoutSlots slots.toList)
    return (extended, .forceField handle)
  | .texture handle => .ok (workspace, .texture handle)
  | .color operand => do
    let (extended, handle) <- workspace.gradientHandle operand
    return (extended, .color handle)
  | .size operand => do
    let (extended, handle) <- workspace.gradientHandle operand
    return (extended, .size handle)
  | .custom hooks => .ok (workspace, .custom (.edits label hooks))
  | .hooks hooks => .ok (workspace, .custom (.given hooks))

end Workspace
end ParticleEffects
