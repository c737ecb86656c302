import ParticleEffects.Wgsl.Expr

namespace ParticleEffects
namespace Wgsl
namespace Intrinsic

/-!
What surrounds a block in the shader: the functions and constants it may use and
the particle it fills in.

Besides its own functions the language's `sqrt`, `pow`, `cos`, `sin` and
`select` are used.
-/

/-- One draw between zero and one. -/
def rand : Expr := .call "rand" []

/-- Three independent draws between zero and one. -/
def rand3 : Expr := .call "rand3" []

/-- One draw among the first `n` natural numbers. -/
def randPositiveInt (n : Nat) : Expr := .call "rand_positive_int" [.unsigned n]

/-- A draw between minus one and one. -/
def signedRand : Expr := rand * .whole 2 - .whole 1

def rotatePoint (vector quaternion : Expr) : Expr :=
  .call "rotate_point" [vector, quaternion]

/-- A whole turn. -/
def tau : Expr := .name "tau"

def position : Expr := .member (.name "ret") "pos"

def velocity : Expr := .member (.name "ret") "vel"

end Intrinsic
end Wgsl
end ParticleEffects
