import ParticleEffects.Gradient.Sample
import ParticleEffects.Spatial.Components

namespace ParticleEffects

/-!
The two kinds of gradient that an effect draws with, and a gradient of either
kind.  Only the number of components tells the kinds apart.

A value is copied from the front of a vector of any length, and what is missing
there is missing in the value.
-/

open Spatial

inductive GradientKind where
  | color
  | size
  deriving DecidableEq

namespace GradientKind

/-- A color has red, green, blue and opacity, a size has width and height. -/
def width : GradientKind -> Nat
  | .color => 4
  | .size => 2

end GradientKind

/-- A gradient of either kind. -/
structure AnyGradient where
  kind : GradientKind
  gradient : Gradient Float (Vector Component kind.width)

namespace AnyGradient

def addKey (any : AnyGradient) (ratio : Float) (value : Components) : AnyGradient :=
  { any with gradient := any.gradient.addKey ratio (value.toVector any.kind.width) }

def copy (any : AnyGradient) : AnyGradient := { any with gradient := any.gradient.copy }

def sample (any : AnyGradient) (ratio : Float) : Except Gradient.SampleError Components :=
  (any.gradient.sample ratio).map Vector.toList

/-- The keys as pairs of a ratio and its components. -/
def keys (any : AnyGradient) : List (Float × Components) :=
  any.gradient.toList.map fun key => (key.ratio, key.value.toList)

end AnyGradient

end ParticleEffects
