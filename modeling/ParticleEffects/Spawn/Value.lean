import ParticleEffects.Wgsl.Intrinsic

namespace ParticleEffects
namespace Spawn

/-!
Scalars of a description: constants, and distributions that the shader draws
from each time it runs.
-/

open Wgsl

inductive Value where
  | single (value : Float)
  /-- Uniform between two bounds. -/
  | uniform (min max : Float)

namespace Value

def isSingle : Value -> Bool
  | .single _ => true
  | .uniform .. => false

/-- Equality of floating-point numbers, component by component: the two zeros
are equal and what is not a number differs from itself. -/
def equals : Value -> Value -> Bool
  | .single a, .single b => a == b
  | .uniform min max, .uniform min' max' => min == min' && max == max'
  | _, _ => false

instance : BEq Value where
  beq := equals

def expr : Value -> Expr
  | .single value => .ofFloat value
  | .uniform min max =>
    .group (Intrinsic.rand * .group (.ofFloat max - .ofFloat min) + .ofFloat min)

end Value

/-- A vector whose components may be drawn. -/
def vectorExpr (x y z : Value) : Expr := .vec3 x.expr y.expr z.expr

end Spawn
end ParticleEffects
