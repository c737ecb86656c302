import ParticleEffects.Spatial.Components
import ParticleEffects.Spawn.Value

namespace ParticleEffects
namespace Spawn

/-!
Where particles start, and how fast: a shape with its place in space, whether
its boundary or its inside is filled, and the rule of the start velocity.

A description may leave out any of these; each has one default.  Its vectors are
copied when it is read, and the copies are open to writes.  A speed is kept as it was
given, with the scalars that it refers to: how it is held is a parameter, so that
several descriptions may share one and see what is written to it.
-/

open Spatial

/-- Whether particles start on the boundary of a shape or anywhere inside. -/
inductive Dimension where
  | surface
  | volume
  deriving DecidableEq

def Dimension.default : Dimension := .surface

/-- The start velocity of a particle, with scalars given as `Scalar`. -/
inductive Speed (Scalar : Type := Value) where
  /-- Along the outward normal of the surface. -/
  | normal (speed : Scalar)
  /-- Away from the center. -/
  | radial (speed : Scalar)
  /-- In a direction of the rotated frame of the shape. -/
  | frame (x y z : Scalar)
  /-- In a direction of the world, whatever the rotation. -/
  | world (x y z : Scalar)

namespace Speed

def default : Speed := .radial (.single 1)

variable {Scalar Target : Type}

/-- The scalars of a speed, by the names of its members. -/
def members : Speed Scalar -> List (String × Scalar)
  | .normal speed | .radial speed => [("speed", speed)]
  | .frame x y z | .world x y z => [("x", x), ("y", y), ("z", z)]

/-- The speed with one of its members changed, if it has that one. -/
def modify (name : String) (f : Scalar -> Scalar) : Speed Scalar -> Speed Scalar
  | .normal speed => .normal (if name = "speed" then f speed else speed)
  | .radial speed => .radial (if name = "speed" then f speed else speed)
  | .frame x y z =>
    .frame (if name = "x" then f x else x) (if name = "y" then f y else y)
      (if name = "z" then f z else z)
  | .world x y z =>
    .world (if name = "x" then f x else x) (if name = "y" then f y else y)
      (if name = "z" then f z else z)

/-- The speed with its scalars given in another way. -/
def map (f : Scalar -> Target) : Speed Scalar -> Speed Target
  | .normal speed => .normal (f speed)
  | .radial speed => .radial (f speed)
  | .frame x y z => .frame (f x) (f y) (f z)
  | .world x y z => .world (f x) (f y) (f z)

/-- The speed with its scalars read one after the other. -/
def mapM {m : Type -> Type} [Monad m] (read : Scalar -> m Target) :
    Speed Scalar -> m (Speed Target)
  | .normal speed => do return .normal (<- read speed)
  | .radial speed => do return .radial (<- read speed)
  | .frame x y z => do return .frame (<- read x) (<- read y) (<- read z)
  | .world x y z => do return .world (<- read x) (<- read y) (<- read z)

end Speed

/-- A shape whose vectors are given as `Entries`. -/
inductive Shape (Entries : Type) where
  | circle (radius : Float)
  | sphere (radius : Float)
  /-- A box given by half its size along each axis. -/
  | cube (extents : Entries)

/-- A complete description of where particles start, with vectors given as
`Entries` and its speed as `Rate`. -/
structure Spawner (Entries : Type) (Rate : Type := Speed) where
  shape : Shape Entries
  center : Entries
  rotation : Entries
  speed : Rate
  dimension : Dimension

/-- The spawner with another speed. -/
def Spawner.withSpeed {Entries Rate Other : Type} (spawner : Spawner Entries Rate)
    (speed : Other) : Spawner Entries Other where
  shape := spawner.shape
  center := spawner.center
  rotation := spawner.rotation
  speed := speed
  dimension := spawner.dimension

section Traversal

variable {Entries Rate Target Loaded : Type} (load : Entries -> Option Target)
  (loadSpeed : Rate -> Option Loaded)

/-- The shape with its extents given in another way, if that way exists. -/
def Shape.mapM? : Shape Entries -> Option (Shape Target)
  | .circle radius => some (.circle radius)
  | .sphere radius => some (.sphere radius)
  | .cube extents => (load extents).map .cube

/-- The spawner with its vectors and its speed given in another way, if all of them
can be. -/
def Spawner.mapM? (spawner : Spawner Entries Rate) : Option (Spawner Target Loaded) := do
  let shape <- spawner.shape.mapM? load
  let center <- load spawner.center
  let rotation <- load spawner.rotation
  let speed <- loadSpeed spawner.speed
  return {
    shape := shape
    center := center
    rotation := rotation
    speed := speed
    dimension := spawner.dimension }

end Traversal

/-- A shape that may leave out its size. -/
inductive ShapeOptions (Extents : Type) where
  | circle (radius : Option Float)
  | sphere (radius : Option Float)
  | cube (extents : Option Extents)

def ShapeOptions.shape : ShapeOptions Components -> Shape Components
  | .circle radius => .circle (radius.getD 1)
  | .sphere radius => .sphere (radius.getD 1)
  | .cube extents => .cube ((extents.getD (.ofNumbers [1, 1, 1])).copy 3)

/-- The shape with its extents given in another way. -/
def ShapeOptions.mapM {m : Type -> Type} [Monad m] {Extents Target : Type}
    (read : Extents -> m Target) : ShapeOptions Extents -> m (ShapeOptions Target)
  | .circle radius => pure (.circle radius)
  | .sphere radius => pure (.sphere radius)
  | .cube extents => do return .cube (<- extents.mapM read)

/-- A description that may leave things out, with vectors and a speed given in any
way. -/
structure SpawnerOptions (Entries : Type) (Rate : Type := Speed) where
  shape : ShapeOptions Entries
  center : Option Entries := none
  rotation : Option Entries := none
  speed : Option Rate := none
  dimension : Option Dimension := none

def Spawner.ofOptions (options : SpawnerOptions Components) : Spawner Components where
  shape := options.shape.shape
  center := (options.center.getD (.ofNumbers [0, 0, 0])).copy 3
  rotation := (options.rotation.getD (.ofNumbers Quat.identity.toList)).copy 4
  speed := options.speed.getD .default
  dimension := options.dimension.getD .default

end Spawn
end ParticleEffects
