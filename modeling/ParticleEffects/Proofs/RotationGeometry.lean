import Mathlib.Algebra.Quaternion
import Mathlib.Tactic.NoncommRing
import ParticleEffects.Spatial.Rotation

namespace ParticleEffects
namespace Spatial

/-!
The geometry of rotation by a unit quaternion.

Over exact scalars the formula of a rotation is the vector part of a product: the vector,
as a quaternion without a scalar part, between the quaternion and its conjugate.  Where the
conjugate is the inverse, what holds of products is carried over to the rotated vectors, so that
a rotation keeps the products of vectors and rotations compose as quaternions multiply.
-/

variable {R : Type} [CommRing R]

/-! ## Vectors as quaternions -/

namespace Vec3

variable (v w : Vec3 R)

def dot : R := v.x * w.x + v.y * w.y + v.z * w.z

/-- The quaternion whose vector part is the vector, and whose scalar part is zero. -/
def pure : Quaternion R := ⟨0, v.x, v.y, v.z⟩

@[simp]
theorem add_x : (v + w).x = v.x + w.x := rfl

@[simp]
theorem add_y : (v + w).y = v.y + w.y := rfl

@[simp]
theorem add_z : (v + w).z = v.z + w.z := rfl

@[simp]
theorem re_pure : v.pure.re = 0 := rfl

@[simp]
theorem imI_pure : v.pure.imI = v.x := rfl

@[simp]
theorem imJ_pure : v.pure.imJ = v.y := rfl

@[simp]
theorem imK_pure : v.pure.imK = v.z := rfl

variable {v w}

theorem pure_inj : v.pure = w.pure ↔ v = w := by
  constructor
  · intro same
    rcases (Quaternion.ext_iff.mp same) with ⟨_, x, y, z⟩
    exact (Vec3.mk.injEq ..).to_iff.mpr ⟨x, y, z⟩
  · exact congrArg pure

variable (v w)

/-- The product of two vectors holds both products of vectors. -/
theorem pure_mul_pure : v.pure * w.pure = (v.cross w).pure - (v.dot w : R) := by
  ext <;> simp [cross, dot] <;> ring

end Vec3

/-! ## Quaternions -/

namespace Quat

/-- The same quaternion, with the scalar part first. -/
def hamilton (q : Quat R) : Quaternion R := ⟨q.w, q.x, q.y, q.z⟩

def ofHamilton (h : Quaternion R) : Quat R := { x := h.imI, y := h.imJ, z := h.imK, w := h.re }

/-- The Hamilton product. -/
instance : Mul (Quat R) where
  mul p q := .ofHamilton (p.hamilton * q.hamilton)

theorem hamilton_mul (p q : Quat R) : (p * q).hamilton = p.hamilton * q.hamilton := rfl

@[simp]
theorem re_hamilton (q : Quat R) : q.hamilton.re = q.w := rfl

@[simp]
theorem imI_hamilton (q : Quat R) : q.hamilton.imI = q.x := rfl

@[simp]
theorem imJ_hamilton (q : Quat R) : q.hamilton.imJ = q.y := rfl

@[simp]
theorem imK_hamilton (q : Quat R) : q.hamilton.imK = q.z := rfl

/-- The square of the norm. -/
def normSq (q : Quat R) : R := q.x ^ 2 + q.y ^ 2 + q.z ^ 2 + q.w ^ 2

theorem normSq_hamilton (q : Quat R) : Quaternion.normSq q.hamilton = q.normSq := by
  rw [Quaternion.normSq_def']
  simp only [re_hamilton, imI_hamilton, imJ_hamilton, imK_hamilton, normSq]
  ring

theorem normSq_mul (p q : Quat R) : (p * q).normSq = p.normSq * q.normSq := by
  rw [← normSq_hamilton, hamilton_mul, map_mul, normSq_hamilton, normSq_hamilton]

section

variable {q : Quat R} (unit : q.normSq = 1)
include unit

/-- The conjugate of a unit quaternion is its inverse. -/
theorem star_mul_hamilton : star q.hamilton * q.hamilton = 1 := by
  rw [Quaternion.star_mul_self, normSq_hamilton, unit, Quaternion.coe_one]

theorem hamilton_mul_star : q.hamilton * star q.hamilton = 1 := by
  rw [Quaternion.self_mul_star, normSq_hamilton, unit, Quaternion.coe_one]

end

end Quat

/-! ## Rotation -/

/-- The formula of a rotation is a product, but for a part of the vector that is left out where
the norm is one. -/
theorem pure_rotate_eq (v : Vec3 R) (q : Quat R) :
    (rotate v q).pure =
      q.hamilton * v.pure * star q.hamilton + (1 - q.normSq) • v.pure := by
  ext <;> simp [rotate, Vec3.map, Vec3.cross, Quat.vector, Quat.normSq] <;> ring

section

variable {q : Quat R} (unit : q.normSq = 1) (v w : Vec3 R)
include unit

theorem pure_rotate : (rotate v q).pure = q.hamilton * v.pure * star q.hamilton := by
  rw [pure_rotate_eq, unit, sub_self, zero_smul, add_zero]

/-- The product of rotated vectors is the product of the vectors, rotated. -/
theorem pure_rotate_mul : (rotate v q).pure * (rotate w q).pure =
    (rotate (v.cross w) q).pure - (v.dot w : R) :=
  calc (rotate v q).pure * (rotate w q).pure
      = q.hamilton * v.pure * (star q.hamilton * q.hamilton) * w.pure * star q.hamilton := by
        rw [pure_rotate unit, pure_rotate unit]
        noncomm_ring
    _ = q.hamilton * (v.pure * w.pure) * star q.hamilton := by
        rw [Quat.star_mul_hamilton unit, mul_one, mul_assoc q.hamilton]
    _ = (rotate (v.cross w) q).pure - q.hamilton * (v.dot w : R) * star q.hamilton := by
        rw [Vec3.pure_mul_pure, mul_sub, sub_mul, pure_rotate unit]
    _ = (rotate (v.cross w) q).pure - (v.dot w : R) := by
        rw [← Quaternion.coe_commutes, mul_assoc, Quat.hamilton_mul_star unit, mul_one]

/-- A rotation keeps the scalar part of the product. -/
theorem dot_rotate : (rotate v q).dot (rotate w q) = v.dot w := by
  have products := pure_rotate_mul unit v w
  rw [Vec3.pure_mul_pure] at products
  simpa using congrArg (·.re) products

/-- A rotation carries the vector part of the product along. -/
theorem cross_rotate : (rotate v q).cross (rotate w q) = rotate (v.cross w) q := by
  have products := pure_rotate_mul unit v w
  rw [Vec3.pure_mul_pure, dot_rotate unit, sub_left_inj] at products
  exact Vec3.pure_inj.mp products

/-- To rotate twice is to rotate by the product. -/
theorem rotate_rotate {p : Quat R} (outer : p.normSq = 1) :
    rotate (rotate v q) p = rotate v (p * q) := by
  have both : (p * q).normSq = 1 := by rw [Quat.normSq_mul, outer, unit, mul_one]
  rw [← Vec3.pure_inj, pure_rotate outer, pure_rotate unit, pure_rotate both, Quat.hamilton_mul,
    star_mul]
  simp only [mul_assoc]

end

/-- A quaternion by which vectors are rotated as rotations do. -/
structure Rotates (q : Quat R) : Prop where
  product : forall v : Vec3 R, (rotate v q).pure = q.hamilton * v.pure * star q.hamilton
  dot : forall v w : Vec3 R, (rotate v q).dot (rotate w q) = v.dot w
  cross : forall v w : Vec3 R, (rotate v q).cross (rotate w q) = rotate (v.cross w) q
  composition : forall p : Quat R, p.normSq = 1 ->
    forall v : Vec3 R, rotate (rotate v q) p = rotate v (p * q)

theorem rotates_of_unit {q : Quat R} (unit : q.normSq = 1) : Rotates q where
  product := pure_rotate unit
  dot := dot_rotate unit
  cross := cross_rotate unit
  composition := fun _ outer v => rotate_rotate unit v outer

/-! ## The rotated plane -/

section

variable {α : Type} [Add α] [Sub α] [Mul α] [OfNat α 0] [OfNat α 1] [OfNat α 2] (q : Quat α)

/-- The first axis of the frame that a quaternion rotates. -/
def tangent : Vec3 α := rotate { x := 1, y := 0, z := 0 } q

/-- The third axis of the frame that a quaternion rotates. -/
def bitangent : Vec3 α := rotate { x := 0, y := 0, z := 1 } q

end

/-- A combination of the tangent and the bitangent. -/
def spanned (q : Quat R) (a b : R) : Vec3 R :=
  (tangent q).map (· * a) + (bitangent q).map (· * b)

theorem spanned_eq_rotate (q : Quat R) (a b : R) :
    spanned q a b = rotate { x := a, y := 0, z := b } q := by
  rw [← Vec3.pure_inj]
  ext <;> simp [spanned, tangent, bitangent, rotate, Vec3.map, Vec3.cross, Quat.vector] <;> ring

theorem map_spanned (q : Quat R) (factor a b : R) :
    (spanned q a b).map (factor * ·) = spanned q (factor * a) (factor * b) := by
  rw [← Vec3.pure_inj]
  ext <;> simp [spanned, Vec3.map] <;> ring

/-- A vector of the plane of the first and third axes, rotated. -/
def InRotatedPlane (q : Quat R) (u : Vec3 R) : Prop :=
  Exists fun v : Vec3 R => v.y = 0 ∧ rotate v q = u

/-- The tangent and the bitangent span the rotated plane of the first and third axes. -/
theorem inRotatedPlane_iff (q : Quat R) (u : Vec3 R) :
    InRotatedPlane q u ↔ Exists fun a => Exists fun b => spanned q a b = u := by
  constructor
  · rintro ⟨⟨a, _, b⟩, rfl, rotated⟩
    exact ⟨a, b, (spanned_eq_rotate q a b).trans rotated⟩
  · rintro ⟨a, b, combined⟩
    exact ⟨_, rfl, (spanned_eq_rotate q a b).symm.trans combined⟩

/-- Two orthogonal vectors of length one. -/
structure Orthonormal (v w : Vec3 R) : Prop where
  first : v.dot v = 1
  second : w.dot w = 1
  orthogonal : v.dot w = 0

section

variable {q : Quat R} (unit : q.normSq = 1)
include unit

theorem orthonormal_axes : Orthonormal (tangent q) (bitangent q) where
  first := (dot_rotate unit _ _).trans (by simp [Vec3.dot])
  second := (dot_rotate unit _ _).trans (by simp [Vec3.dot])
  orthogonal := (dot_rotate unit _ _).trans (by simp [Vec3.dot])

theorem dot_spanned (a b : R) : (spanned q a b).dot (spanned q a b) = a ^ 2 + b ^ 2 := by
  rw [spanned_eq_rotate, dot_rotate unit, Vec3.dot]
  ring

end

end Spatial
end ParticleEffects
