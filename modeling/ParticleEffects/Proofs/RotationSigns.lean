import ParticleEffects.Proofs.EqualValues
import ParticleEffects.Proofs.LiteralGrammar
import ParticleEffects.Proofs.NumberPlaces

namespace ParticleEffects

/-!
Rotation up to the sign of zero.

A rotation is a chain of sums, differences and products, so that the places of its result are
told by the places of what it is given.  There the sign of a quaternion cancels, each product
taking it from two factors, and the identity adds nothing but zeros.  What is rounded to a
single and printed depends on the places alone, since no zero shows its sign.
-/

open Number Wgsl

namespace Spatial

/-! ## Maps of scalars -/

section

variable {α β : Type} [Add α] [Sub α] [Mul α] [OfNat α 2] [Add β] [Sub β] [Mul β] [OfNat β 2]

theorem rotate_eq (v : Vec3 α) (q : Quat α) : rotate v q =
    v + (q.vector.cross v).map (· * (q.w * 2)) + (q.vector.cross (q.vector.cross v)).map (· * 2) :=
  rfl

/-- A map that commutes with all the arithmetic of a rotation. -/
structure Respects (f : α -> β) : Prop where
  add : forall a b : α, f (a + b) = f a + f b
  sub : forall a b : α, f (a - b) = f a - f b
  mul : forall a b : α, f (a * b) = f a * f b
  two : f 2 = 2

namespace Respects

variable {f : α -> β} (respects : Respects f)
include respects

theorem map_add (v w : Vec3 α) : (v + w).map f = v.map f + w.map f :=
  Vec3.mk.injEq .. ▸ ⟨respects.add _ _, respects.add _ _, respects.add _ _⟩

theorem map_cross (v w : Vec3 α) : (v.cross w).map f = (v.map f).cross (w.map f) := by
  simp only [Vec3.cross, Vec3.map, respects.sub, respects.mul]

theorem map_scaled (v : Vec3 α) (factor : α) :
    (v.map (· * factor)).map f = (v.map f).map (· * f factor) := by
  simp only [Vec3.map, respects.mul]

theorem map_rotate (v : Vec3 α) (q : Quat α) :
    (rotate v q).map f = rotate (v.map f) (q.map f) := by
  simp only [rotate, respects.map_add, respects.map_scaled, respects.map_cross, respects.mul,
    respects.two]
  rfl

end Respects

end

theorem respects_placeOf : Respects placeOf where
  add := placeOf_add
  sub := placeOf_sub
  mul := placeOf_mul
  two := rfl

/-! ## Signs -/

namespace Vec3

variable (v w : Vec3 Place)

theorem cross_neg_left : (v.map (-·)).cross w = (v.cross w).map (-·) := by
  simp only [cross, map, Place.neg_mul, Place.neg_sub_neg]

theorem cross_neg_right : v.cross (w.map (-·)) = (v.cross w).map (-·) := by
  simp only [cross, map, Place.mul_neg, Place.neg_sub_neg]

theorem map_neg_neg : (v.map (-·)).map (-·) = v := by
  simp only [map, Place.neg_opposite]

theorem scaled_neg_neg (factor : Place) :
    (v.map (-·)).map (· * -factor) = v.map (· * factor) := by
  simp only [map, Place.neg_mul, Place.mul_neg, Place.neg_opposite]

end Vec3

/-- A quaternion and its opposite rotate alike. -/
theorem rotate_opposite (v : Vec3 Place) (q : Quat Place) :
    rotate v (q.map (-·)) = rotate v q := by
  have across : (q.map (-·)).vector.cross v = (q.vector.cross v).map (-·) :=
    Vec3.cross_neg_left q.vector v
  -- The vector part stands in the second cross product as well as in the first.
  have around : (q.map (-·)).vector.cross ((q.vector.cross v).map (-·)) =
      q.vector.cross (q.vector.cross v) :=
    calc (q.map (-·)).vector.cross ((q.vector.cross v).map (-·))
        = ((q.map (-·)).vector.cross (q.vector.cross v)).map (-·) := Vec3.cross_neg_right ..
      _ = ((q.vector.cross (q.vector.cross v)).map (-·)).map (-·) :=
          congrArg (Vec3.map (-·)) (Vec3.cross_neg_left q.vector _)
      _ = q.vector.cross (q.vector.cross v) := Vec3.map_neg_neg _
  have twice : (q.map (-·)).w * 2 = -(q.w * 2) := Place.neg_mul _ _
  rw [rotate_eq, rotate_eq, across, around, twice, Vec3.scaled_neg_neg]

/-! ## The identity -/

/-- The vector of the places of numbers. -/
def placesAt (x y z : Int) : Vec3 Place := { x := .number x, y := .number y, z := .number z }

theorem zeros_scaled {position : Int} (bounded : isBounded position = true) :
    (placesAt 0 0 0).map (· * Place.number position) = placesAt 0 0 0 := by
  simp only [placesAt, Vec3.map, Place.zero_mul bounded]

section

variable {x y z : Int} (first : isBounded x = true) (second : isBounded y = true)
  (third : isBounded z = true)
include first second third

theorem zeros_cross : (placesAt 0 0 0).cross (placesAt x y z) = placesAt 0 0 0 := by
  simp only [placesAt, Vec3.cross, Place.zero_mul first, Place.zero_mul second,
    Place.zero_mul third, Place.zero_sub]

theorem add_zeros : placesAt x y z + placesAt 0 0 0 = placesAt x y z :=
  Vec3.mk.injEq .. ▸ ⟨Place.add_zero first, Place.add_zero second, Place.add_zero third⟩

/-- The identity adds nothing but zeros to a vector of finite numbers. -/
theorem rotate_identity :
    rotate (placesAt x y z) (Quat.identity.map placeOf) = placesAt x y z := by
  have zero : isBounded 0 = true := by decide +kernel
  have two : isBounded (2 ^ 62) = true := by decide +kernel
  have vector : (Quat.identity.map placeOf).vector = placesAt 0 0 0 := by decide +kernel
  have factor : (2 : Place) = .number (2 ^ 62) := by decide +kernel
  have twice : (Quat.identity.map placeOf).w * 2 = .number (2 ^ 62) := by decide +kernel
  rw [rotate_eq, vector, twice, factor, zeros_cross first second third,
    zeros_cross zero zero zero, zeros_scaled two, add_zeros first second third,
    add_zeros first second third]

end

end Spatial

/-! ## Rounding -/

namespace Number

/-- Equal numbers, or two that are no numbers. -/
def SameNumber (x y : Float) : Prop := (x == y) = true ∨ x.isNaN = true ∧ y.isNaN = true

section

variable {x y : Float}

theorem placeOf_eq_nan_iff (x : Float) : placeOf x = .nan ↔ x.isNaN = true := by
  rw [isNaN_iff, placeOf]
  cases Datum.ofFloat x with
  | nan => exact iff_of_true rfl rfl
  | signed negative pattern =>
    exact iff_of_false (fun same => by cases same) (fun same => by cases same)

theorem exists_bounded_place (finite : x.isFinite = true) :
    Exists fun position => placeOf x = .number position ∧ isBounded position = true := by
  rcases exists_place_of_finite finite with ⟨position, found⟩
  exact ⟨position, placeOf_of_place? found,
    decide_eq_true ((isFinite_iff_of_place found).mp finite)⟩

/-- Numbers are the same if they are at one place. -/
theorem sameNumber_iff_place : SameNumber x y ↔ placeOf x = placeOf y := by
  rw [SameNumber, beq_iff_place]
  constructor
  · rintro (⟨position, found, found'⟩ | ⟨first, second⟩)
    · rw [placeOf_of_place? found, placeOf_of_place? found']
    · rw [(placeOf_eq_nan_iff x).mpr first, (placeOf_eq_nan_iff y).mpr second]
  · intro same
    cases place : placeOf x with
    | nan =>
      have place' := same.symm.trans place
      exact .inr ⟨(placeOf_eq_nan_iff x).mp place, (placeOf_eq_nan_iff y).mp place'⟩
    | number position =>
      have place' := same.symm.trans place
      exact .inl ⟨position, Datum.place_eq_number_iff.mp place,
        Datum.place_eq_number_iff.mp place'⟩

/-- The same numbers are the same single, or both of them become zero. -/
theorem SameNumber.single_eq_or_isZero (same : SameNumber x y) :
    Single.ofFloat x = Single.ofFloat y ∨
      (Single.ofFloat x).isZero = true ∧ (Single.ofFloat y).isZero = true := by
  rcases same with equal | ⟨first, second⟩
  · exact Single.eq_or_isZero_of_beq equal
  · rw [Single.ofFloat, Single.ofFloat, (isNaN_iff x).mp first, (isNaN_iff y).mp second]
    exact .inl rfl

theorem placeOf_toFloat_of_isZero {single : Single} (zero : single.isZero = true) :
    placeOf single.toFloat = .number 0 := by
  rw [placeOf, Single.toFloat, Datum.ofFloat_toFloat]
  cases single with
  | nan => cases zero
  | signed negative pattern =>
    have least : pattern = 0 := Fin.ext ((Datum.isZero_signed negative pattern).mp zero)
    rw [least]
    cases negative <;> decide +kernel

/-- The same numbers are rounded to the same number. -/
theorem SameNumber.rounded (same : SameNumber x y) :
    SameNumber (Single.ofFloat x).toFloat (Single.ofFloat y).toFloat := by
  rw [sameNumber_iff_place]
  rcases same.single_eq_or_isZero with equal | ⟨first, second⟩
  · rw [equal]
  · rw [placeOf_toFloat_of_isZero first, placeOf_toFloat_of_isZero second]

theorem Datum.convert_eq_nan_iff {format : Format} (target : Format) (datum : Datum format) :
    datum.convert target = .nan ↔ datum = .nan := by
  cases datum with
  | nan => exact iff_of_true rfl rfl
  | signed negative pattern =>
    refine iff_of_false (fun same => ?_) (fun same => by cases same)
    rw [Datum.convert] at same
    split at same <;> cases same

/-- Rounding leaves a number a number. -/
theorem isNaN_rounded_iff (x : Float) :
    (Single.ofFloat x).toFloat.isNaN = true ↔ x.isNaN = true := by
  rw [isNaN_iff, isNaN_iff, Single.toFloat, Datum.ofFloat_toFloat, Single.ofFloat,
    Datum.convert_eq_nan_iff, Datum.convert_eq_nan_iff]

/-- A number that is the same as a finite one is rounded to an equal one. -/
theorem SameNumber.rounded_beq (same : SameNumber x y) (finite : y.isFinite = true) :
    ((Single.ofFloat x).toFloat == (Single.ofFloat y).toFloat) = true := by
  rcases same.rounded with equal | ⟨_, special⟩
  · exact equal
  · have number := isNaN_of_isFinite finite
    rw [isNaN_rounded_iff, number] at special
    cases special

/-- The same numbers are printed alike. -/
theorem SameNumber.literalText_eq (same : SameNumber x y) : literalText x = literalText y := by
  rw [literalText, literalText]
  rcases same.single_eq_or_isZero with equal | ⟨first, second⟩
  · rw [equal]
  · rw [literal_of_isZero first, literal_of_isZero second]

end

end Number

/-! ## Vectors -/

namespace Spatial

/-- A relation between the components of two vectors, one by one. -/
def Vec3.Related {α β : Type} (relation : α -> β -> Prop) (v : Vec3 α) (w : Vec3 β) : Prop :=
  relation v.x w.x ∧ relation v.y w.y ∧ relation v.z w.z

/-- The result of a rotation, as doubles again. -/
def rotateRounded (v : Vec3 Float) (q : Quat Float) : Vec3 Float :=
  (rotateSingle v q).map Single.toFloat

section

variable {v w : Vec3 Float}

theorem related_sameNumber_iff : v.Related SameNumber w ↔ v.map placeOf = w.map placeOf := by
  rw [Vec3.Related, sameNumber_iff_place, sameNumber_iff_place, sameNumber_iff_place]
  exact (Vec3.mk.injEq ..).to_iff.symm

/-- A quaternion and its opposite rotate to the same numbers. -/
theorem related_rotate_opposite (v : Vec3 Float) (q : Quat Float) :
    (rotate v q).Related SameNumber (rotate v (q.map (-·))) := by
  have signs : (q.map (-·)).map placeOf = (q.map placeOf).map (-·) := by
    simp only [Quat.map, placeOf_neg]
  rw [related_sameNumber_iff, respects_placeOf.map_rotate, respects_placeOf.map_rotate, signs,
    rotate_opposite]

theorem related_rotate_identity (finite : forall x, x ∈ v.toList -> x.isFinite = true) :
    (rotate v Quat.identity).Related SameNumber v := by
  rcases exists_bounded_place (finite v.x (.head _)) with ⟨x, first, bounded⟩
  rcases exists_bounded_place (finite v.y (.tail _ (.head _))) with ⟨y, second, bounded'⟩
  rcases exists_bounded_place (finite v.z (.tail _ (.tail _ (.head _)))) with
    ⟨z, third, bounded''⟩
  have places : v.map placeOf = placesAt x y z := by
    rw [Vec3.map, first, second, third, placesAt]
  rw [related_sameNumber_iff, respects_placeOf.map_rotate, places,
    rotate_identity bounded bounded' bounded'']

end

end Spatial

namespace Spawn

open Spatial

/-! ## The code of a circle -/

/-- The four numbers of a rotation with the other signs. -/
def opposite (rotation : Components) : Components :=
  .ofNumbers (rotation.quat.map fun entry => -entry.toFloat).toList

/-- An axis is printed alike, whichever sign the rotation has. -/
theorem axisLiterals_opposite (axis : Vec3 Float) (rotation : Components) :
    axisLiterals axis rotation = axisLiterals axis (opposite rotation) := by
  rcases related_rotate_opposite axis (rotation.quat.map Component.toFloat) with
    ⟨first, second, third⟩
  exact (Vec3.mk.injEq ..).to_iff.mpr
    ⟨first.literalText_eq, second.literalText_eq, third.literalText_eq⟩

section

variable (spawner : Spawner Components) (radius : Float) (rotation : Components)

/-- The code of a circle shows the sign of its rotation in the frame of the speed alone. -/
theorem positionCode_opposite_iff :
    { spawner with shape := .circle radius, rotation := rotation }.positionCode =
        { spawner with shape := .circle radius, rotation := opposite rotation }.positionCode ↔
      spawner.speed.isFrame = false ∨
        quatLiterals rotation = quatLiterals (opposite rotation) := by
  rw [positionCode_inj, lines_block_inj, statements_inj, alike_iff, ← roundAlike_self_iff]
  constructor
  · exact fun alike => alike.2.2.2.2.2
  · exact fun alike => ⟨rfl, rfl, rfl, axisLiterals_opposite _ rotation,
      axisLiterals_opposite _ rotation, alike⟩

end

/-- A finite vector is rotated by the identity to itself, rounded; what two opposite
quaternions rotate a vector to are the same numbers; and the code of a circle is the same for
both of them, unless the speed is given in the rotated frame. -/
theorem rotation_keeps_identity_and_double_cover :
    (forall v : Vec3 Float, (forall x, x ∈ v.toList -> x.isFinite = true) ->
      (rotateRounded v Quat.identity).Related (fun x y => (x == y) = true)
        (v.map fun x => (Single.ofFloat x).toFloat)) ∧
    (forall (v : Vec3 Float) (q : Quat Float),
      (rotateRounded v q).Related SameNumber (rotateRounded v (q.map (-·)))) ∧
    forall (spawner : Spawner Components) (radius : Float) (rotation : Components),
      spawner.speed.isFrame = false ->
        { spawner with shape := .circle radius, rotation := rotation }.positionCode =
          { spawner with shape := .circle radius, rotation := opposite rotation }.positionCode := by
  refine ⟨fun v finite => ?_, fun v q => ?_, fun spawner radius rotation inWorld => ?_⟩
  · rcases related_rotate_identity finite with ⟨first, second, third⟩
    exact ⟨first.rounded_beq (finite v.x (.head _)),
      second.rounded_beq (finite v.y (.tail _ (.head _))),
      third.rounded_beq (finite v.z (.tail _ (.tail _ (.head _))))⟩
  · rcases related_rotate_opposite v q with ⟨first, second, third⟩
    exact ⟨first.rounded, second.rounded, third.rounded⟩
  · exact (positionCode_opposite_iff spawner radius rotation).mpr (.inl inWorld)

/-- A vector of which one component is a zero, one is rounded and one overflows. -/
def unevenVector : Vec3 Float := { x := -0.0, y := 0.1, z := 1e300 }

/-- A circle that is turned halfway around its first axis. -/
def turnedCircle : Spawner Components := .ofOptions {
  shape := .circle (some 2)
  rotation := some (.ofNumbers [1, 0, -0.0, 0]) }

/-- Neither the sign of a zero nor an overflow makes a difference. -/
theorem unevenVector_and_turnedCircle :
    (forall x, x ∈ unevenVector.toList -> x.isFinite = true) ∧
      (rotateRounded unevenVector Quat.identity).Related (fun x y => (x == y) = true)
        (unevenVector.map fun x => (Single.ofFloat x).toFloat) ∧
      turnedCircle.speed.isFrame = false ∧
      turnedCircle.positionCode =
        { turnedCircle with rotation := opposite turnedCircle.rotation }.positionCode := by
  have finite : forall x, x ∈ unevenVector.toList -> x.isFinite = true := by decide +kernel
  rcases rotation_keeps_identity_and_double_cover with ⟨identity, _, codes⟩
  exact ⟨finite, identity unevenVector finite, rfl, codes turnedCircle 2 _ rfl⟩

end Spawn
end ParticleEffects
