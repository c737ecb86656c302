import ParticleEffects.Spatial.Vec
import ParticleEffects.Number.Datum

namespace ParticleEffects
namespace Spatial

/-!
Rotation of a vector by a unit quaternion.

With `u` the vector part of the quaternion and `w` its scalar part, the rotated
vector is `v + 2 w (u × v) + 2 u × (u × v)`.  The order of the operations is
fixed, since every one of them rounds when the scalars are floating-point
numbers.  It is that of `transformQuat`, a function of the vector library that the
effects are computed with.  The library is no part of the program modelled here, and
the order is taken from what is documented of that function.
-/

open Number

variable {α : Type} [Add α] [Sub α] [Mul α] [OfNat α 2]

/-- The vector as `transformQuat` rotates it, operation by operation. -/
def rotate (v : Vec3 α) (q : Quat α) : Vec3 α :=
  let twice := q.w * 2
  let across := q.vector.cross v
  let around := q.vector.cross across
  v + across.map (· * twice) + around.map (· * 2)

/-- Rotation in double precision with the result rounded to single
precision. -/
def rotateSingle (v : Vec3 Float) (q : Quat Float) : Vec3 Single :=
  (rotate v q).map Single.ofFloat

end Spatial
end ParticleEffects
