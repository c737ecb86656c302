import ParticleEffects.Spatial.Components

namespace ParticleEffects
namespace ForceField

/-!
Point sources of a force field.

A source without mass is an empty slot, and the first empty slot ends the
sources a shader evaluates.  Positions are a parameter of the type, so that a
source may hold its position or refer to it.
-/

open Spatial

structure PointSource (Position : Type) where
  position : Position
  /-- The radius beyond which the source has no effect. -/
  maxRadius : Float
  /-- The radius inside which the source has no effect. -/
  minRadius : Float
  /-- Positive attracts and negative repels. -/
  mass : Float
  /-- The force falls with this power of the distance. -/
  forceExponent : Float
  /-- Whether particles stick to the sphere of the inner radius. -/
  conformToSphere : Bool
  deriving DecidableEq

/-- A source that holds a copy of its position. -/
abbrev Source := PointSource (Vec3 Component)

namespace PointSource

variable {Position Target : Type}

/-- The source with another position. -/
def moveTo (source : PointSource Position) (position : Target) : PointSource Target :=
  { source with position := position }

/-- An empty slot at a position. -/
def emptyAt (position : Position) : PointSource Position where
  position := position
  maxRadius := 0
  minRadius := 0.1
  mass := 0
  forceExponent := 0
  conformToSphere := false

/-- Whether a source has mass.  Both zeros are none, and what is not a number
counts as mass. -/
def hasMass (source : PointSource Position) : Bool := !(source.mass == 0)

end PointSource

namespace Source

/-- The empty slot. -/
def empty : Source := .emptyAt (.replicate (.number 0))

end Source

/-- The number of slots of a force field. -/
def slotCount : Nat := 16

/-- The sources before the first empty slot. -/
def activeSources (sources : List Source) : List Source :=
  (sources.take slotCount).takeWhile PointSource.hasMass

def activeCount (sources : List Source) : Nat := (activeSources sources).length

theorem activeCount_le_slotCount (sources : List Source) :
    activeCount sources <= slotCount := by
  have prefixLength := (List.takeWhile_sublist PointSource.hasMass
    (l := sources.take slotCount)).length_le
  have takeLength := List.length_take_le slotCount sources
  exact Nat.le_trans prefixLength takeLength

end ForceField
end ParticleEffects
