namespace ParticleEffects
namespace Spatial

/-!
Vectors of three components and quaternions, over any kind of scalar.

The same formulas serve the numbers an effect is described with, the singles a
shader receives, and the exact fields in which their geometry is stated.
-/

structure Vec3 (α : Type) where
  x : α
  y : α
  z : α
  deriving DecidableEq

/-- A quaternion with the scalar part last. -/
structure Quat (α : Type) where
  x : α
  y : α
  z : α
  w : α
  deriving DecidableEq

namespace Vec3

variable {α β : Type}

def map (f : α -> β) (v : Vec3 α) : Vec3 β := { x := f v.x, y := f v.y, z := f v.z }

def replicate (a : α) : Vec3 α := { x := a, y := a, z := a }

def toList (v : Vec3 α) : List α := [v.x, v.y, v.z]

instance [Add α] : Add (Vec3 α) where
  add v w := { x := v.x + w.x, y := v.y + w.y, z := v.z + w.z }

def cross [Sub α] [Mul α] (v w : Vec3 α) : Vec3 α where
  x := v.y * w.z - v.z * w.y
  y := v.z * w.x - v.x * w.z
  z := v.x * w.y - v.y * w.x

end Vec3

namespace Quat

variable {α β : Type}

def map (f : α -> β) (q : Quat α) : Quat β :=
  { x := f q.x, y := f q.y, z := f q.z, w := f q.w }

def toList (q : Quat α) : List α := [q.x, q.y, q.z, q.w]

def vector (q : Quat α) : Vec3 α := { x := q.x, y := q.y, z := q.z }

/-- The rotation that leaves every vector as it is. -/
def identity [OfNat α 0] [OfNat α 1] : Quat α := { x := 0, y := 0, z := 0, w := 1 }

end Quat

end Spatial
end ParticleEffects
