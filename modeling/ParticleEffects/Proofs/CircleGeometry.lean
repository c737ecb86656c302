import Mathlib.Tactic.LinearCombination
import ParticleEffects.Proofs.NumberValue
import ParticleEffects.Proofs.RotationGeometry
import ParticleEffects.Spawn.Position

namespace ParticleEffects

/-!
The points of a circle.

The code of a circle is read over exact scalars: its arithmetic is that of the scalars, and the
two axes are the rotated ones themselves, not what is left of them in their literals.  The
position that is read lies in the rotated plane, at the distance of the radius from the center.
-/

open Number Spatial

/-! ## Reading code exactly -/

namespace Wgsl

/-- What an expression is read as: a scalar, or a vector of three. -/
inductive Quantity (K : Type) where
  | scalar (x : K)
  | vector (v : Vec3 K)

/-- An operation on scalars, component by component where there is a vector. -/
def Quantity.lift {K : Type} (operation : K -> K -> K) :
    Quantity K -> Quantity K -> Quantity K
  | .scalar x, .scalar y => .scalar (operation x y)
  | .scalar x, .vector w => .vector (w.map (operation x ·))
  | .vector v, .scalar y => .vector (v.map (operation · y))
  | .vector v, .vector w => .vector {
    x := operation v.x w.x
    y := operation v.y w.y
    z := operation v.z w.z }

/-- What a block of code does not tell by itself: the scalars its literals stand for, and the
results of the functions it calls.  Each function but the constructor of vectors is called once. -/
structure Surroundings (K : Type) where
  number : Single -> K
  cosine : K
  sine : K
  root : K

/-- What is known under a name, or under the text of a place. -/
abbrev Known (K : Type) := String -> Option (Quantity K)

variable {K : Type} [CommRing K] (surroundings : Surroundings K)

def Expr.read (known : Known K) : Expr -> Option (Quantity K)
  | .literal x => some (.scalar (surroundings.number x))
  | .whole n => some (.scalar n)
  | .name identifier => known identifier
  | .member base field => known (base.text ++ "." ++ field)
  | .group inner => inner.read known
  | .binary .add left right => do
    return .lift (· + ·) (<- left.read known) (<- right.read known)
  | .binary .sub left right => do
    return .lift (· - ·) (<- left.read known) (<- right.read known)
  | .binary .mul left right => do
    return .lift (· * ·) (<- left.read known) (<- right.read known)
  | .call "vec3<f32>" [first, second, third] => do
    match <- first.read known, <- second.read known, <- third.read known with
    | .scalar x, .scalar y, .scalar z => some (.vector { x := x, y := y, z := z })
    | _, _, _ => none
  | .call "cos" [_] => some (.scalar surroundings.cosine)
  | .call "sin" [_] => some (.scalar surroundings.sine)
  | .call "sqrt" [_] => some (.scalar surroundings.root)
  | _ => none

/-- The name or the place that a statement gives a value to. -/
def Statement.target? : Statement -> Option String
  | .comment _ => none
  | .constant name _ | .mutable name _ => some name
  | .assign target _ => some target.text

variable (exact : Known K)

/-- What is known after a statement.  A name with an exact value keeps it, whatever its
statement writes. -/
def Statement.read (known : Known K) : Statement -> Known K
  | .comment _ => known
  | .constant name value | .mutable name value =>
    Function.update known name ((exact name).or (value.read surroundings known))
  | .assign target value =>
    Function.update known target.text (value.read surroundings known)

theorem Statement.read_of_ne {name : String} (statement : Statement) (known : Known K)
    (other : statement.target? ≠ some name) :
    statement.read surroundings exact known name = known name := by
  cases statement with
  | comment text => rfl
  | constant target value | mutable target value | assign target value =>
    exact Function.update_of_ne (fun same => other (congrArg some same.symm)) _ _

namespace Block

/-- What is known after a block. -/
def read (block : Block) (known : Known K) : Known K :=
  block.foldl (Statement.read surroundings exact) known

theorem read_append (first second : Block) (known : Known K) :
    read surroundings exact (first ++ second) known =
      read surroundings exact second (read surroundings exact first known) :=
  List.foldl_append

/-- A block leaves what it gives no value to. -/
theorem read_of_not_mem {name : String} (block : Block) (known : Known K)
    (free : some name ∉ block.map Statement.target?) :
    read surroundings exact block known name = known name := by
  induction block generalizing known with
  | nil => rfl
  | cons statement rest inductionHypothesis =>
    rw [List.map_cons, List.mem_cons, not_or] at free
    exact (inductionHypothesis _ free.2).trans
      (statement.read_of_ne surroundings exact known (Ne.symm free.1))

end Block

end Wgsl

namespace Spawn

open Wgsl Wgsl.Intrinsic

variable {K : Type} [CommRing K] (surroundings : Surroundings K)

/-! ## The position of a particle -/

/-- The axes of a circle, given without rounding. -/
def axes (first third : Vec3 K) : Known K
  | "tangent" => some (.vector first)
  | "bitangent" => some (.vector third)
  | _ => none

/-- The distance from the center: the radius itself, or a share of it. -/
def distance (number : Single -> K) (root : K) (dimension : Dimension) (radius : Float) : K :=
  match dimension with
  | .surface => number (Single.ofFloat radius)
  | .volume => root * number (Single.ofFloat radius)

/-- The center, as its literals are read. -/
def centerOf (number : Single -> K) (spawner : Spawner Components) : Vec3 K :=
  spawner.center.vec3.map fun entry => number entry.single

theorem read_sized (known : Known K) (dimension : Dimension) (radius : Float) :
    (sized dimension (.call "sqrt" [rand]) (.ofFloat radius)).read surroundings known =
      some (.scalar (distance surroundings.number surroundings.root dimension radius)) := by
  cases dimension <;> rfl

/-- The velocity is given a value after the position, which stays. -/
theorem not_mem_targets_roundVelocity (rotation : Components) (speed : Speed) :
    some position.text ∉ (roundVelocity rotation speed).map Statement.target? := by
  cases speed with
  | normal | radial | world =>
    exact (by decide : some "ret.pos" ∉ [some "ret.vel"])
  | frame => exact (by decide : some "ret.pos" ∉ [some "rot", some "ret.vel"])

theorem read_center (known : Known K) (spawner : Spawner Components) :
    (vec3Expr spawner.center).read surroundings known =
      some (.vector (centerOf surroundings.number spawner)) := rfl

theorem read_cosine (known : Known K) :
    Local.cosine.read surroundings known = some (.scalar surroundings.cosine) := rfl

theorem read_sine (known : Known K) :
    Local.sine.read surroundings known = some (.scalar surroundings.sine) := rfl

theorem read_position (spawner : Spawner Components) (radius : Float) (q : Quat K)
    (known : Known K) :
    (circleBlock spawner radius).read surroundings (axes (tangent q) (bitangent q)) known
        position.text =
      some (.vector (centerOf surroundings.number spawner +
        (spanned q surroundings.cosine surroundings.sine).map
          (distance surroundings.number surroundings.root spawner.dimension radius * ·))) := by
  rw [circleBlock, Block.read_append,
    Block.read_of_not_mem _ _ _ _ (not_mem_targets_roundVelocity _ _)]
  simp only [Block.read, List.foldl_cons, List.foldl_nil, Statement.read, read_sized, read_center,
    anyAngle, roundPosition, axes, Option.or_some, read_cosine, read_sine, Local.center,
    Local.radius, Local.direction, Expr.read, Function.update_self]
  rfl

/-! ## The circle -/

/-- The rotation that the numbers of a description stand for. -/
def rotationOf (double : Float -> K) (spawner : Spawner Components) : Quat K :=
  spawner.rotation.quat.map fun entry => double entry.toFloat

section

variable {K : Type} [Field K] [LinearOrder K] [IsStrictOrderedRing K]

/-- A point of the rotated plane through a center, at a distance from that center. -/
def OnCircle (q : Quat K) (center : Vec3 K) (radius : K) (point : Vec3 K) : Prop :=
  Exists fun offset => InRotatedPlane q offset ∧ offset.dot offset = radius ^ 2 ∧
    center + offset = point

/-- What has the length of a multiple is that multiple of a direction. -/
theorem exists_direction_iff {x y radius : K} : x ^ 2 + y ^ 2 = radius ^ 2 ↔
    Exists fun a => Exists fun b => a ^ 2 + b ^ 2 = 1 ∧ radius * a = x ∧ radius * b = y := by
  constructor
  · intro length
    rcases eq_or_ne radius 0 with rfl | nonzero
    · -- Every direction will do, since both of the coordinates are zero.
      rw [zero_pow two_ne_zero, add_eq_zero_iff_of_nonneg (sq_nonneg x) (sq_nonneg y)] at length
      have first := pow_eq_zero_iff two_ne_zero |>.mp length.1
      have second := pow_eq_zero_iff two_ne_zero |>.mp length.2
      exact ⟨1, 0, by ring, by rw [first, mul_one], by rw [second, mul_zero]⟩
    · refine ⟨x / radius, y / radius, ?_, mul_div_cancel₀ x nonzero, mul_div_cancel₀ y nonzero⟩
      rw [div_pow, div_pow, ← add_div, length, div_self (pow_ne_zero 2 nonzero)]
  · rintro ⟨a, b, unit, rfl, rfl⟩
    linear_combination radius ^ 2 * unit

/-- The points of a circle are the multiples of the directions in its plane. -/
theorem onCircle_iff {q : Quat K} (unit : q.normSq = 1) (center : Vec3 K) (radius : K)
    (point : Vec3 K) : OnCircle q center radius point ↔
      Exists fun a => Exists fun b => a ^ 2 + b ^ 2 = 1 ∧
        center + (spanned q a b).map (radius * ·) = point := by
  constructor
  · rintro ⟨offset, inside, length, sum⟩
    rcases (inRotatedPlane_iff q offset).mp inside with ⟨x, y, rfl⟩
    rw [dot_spanned unit] at length
    rcases exists_direction_iff.mp length with ⟨a, b, direction, rfl, rfl⟩
    exact ⟨a, b, direction, by rw [map_spanned, sum]⟩
  · rintro ⟨a, b, direction, sum⟩
    rw [map_spanned] at sum
    refine ⟨_, (inRotatedPlane_iff q _).mpr ⟨_, _, rfl⟩, ?_, sum⟩
    rw [dot_spanned unit]
    exact exists_direction_iff.mpr ⟨a, b, direction, rfl, rfl⟩

/-- Code that is read with an exact rotation: its axes are those of the rotated plane before they
are rounded, and the positions that it reaches are the points of a circle in that plane. -/
structure ReachesCircle (spawner : Spawner Components) (radius : Float) (double : Float -> K) :
    Prop where
  tangent_declared : .constant "tangent" (.ofVec3 ((tangent (rotationOf id spawner)).map
    Single.ofFloat)) ∈ spawner.statements
  bitangent_declared : .constant "bitangent" (.ofVec3 ((bitangent (rotationOf id spawner)).map
    Single.ofFloat)) ∈ spawner.statements
  orthonormal : Orthonormal (tangent (rotationOf double spawner))
    (bitangent (rotationOf double spawner))
  span : forall u : Vec3 K, InRotatedPlane (rotationOf double spawner) u ↔
    Exists fun a => Exists fun b => spanned (rotationOf double spawner) a b = u
  points : forall (number : Single -> K) (root : K) (known : Known K) (point : Vec3 K),
    OnCircle (rotationOf double spawner) (centerOf number spawner)
        (distance number root spawner.dimension radius) point ↔
      Exists fun a => Exists fun b => a ^ 2 + b ^ 2 = 1 ∧
        spawner.statements.read { number := number, cosine := a, sine := b, root := root }
          (axes (tangent (rotationOf double spawner)) (bitangent (rotationOf double spawner)))
          known position.text = some (.vector point)

theorem reachesCircle_of_unit {spawner : Spawner Components} {radius : Float}
    {double : Float -> K} (unit : (rotationOf double spawner).normSq = 1)
    (circle : spawner.shape = .circle radius) : ReachesCircle spawner radius double := by
  have code : spawner.statements = circleBlock spawner radius := by
    rw [Spawner.statements, circle]
  exact {
    tangent_declared := code ▸ .tail _ (.head _)
    bitangent_declared := code ▸ .tail _ (.tail _ (.head _))
    orthonormal := orthonormal_axes unit
    span := inRotatedPlane_iff _
    points := fun number root known point => by
      simp only [code, onCircle_iff unit, read_position, Option.some.injEq,
        Quantity.vector.injEq] }

/-- Vectors are rotated by a unit quaternion as rotations do, so that the code of a circle whose
rotation is one reaches the points of the circle with its radius in the rotated plane. -/
theorem circle_of_unit_rotation (K : Type) [Field K] [LinearOrder K] [IsStrictOrderedRing K] :
    (forall q : Quat K, q.normSq = 1 -> Rotates q) ∧
    forall (spawner : Spawner Components) (radius : Float) (double : Float -> K),
      spawner.shape = .circle radius -> (rotationOf double spawner).normSq = 1 ->
        ReachesCircle spawner radius double :=
  ⟨fun _ => rotates_of_unit, fun _ _ _ circle unit => reachesCircle_of_unit unit circle⟩

end

/-- A rotation about the first axis. -/
def tilt : Quat Rat := { x := 3 / 5, y := 0, z := 0, w := 4 / 5 }

/-- A rotation that takes each axis to the next one. -/
def cycle : Quat Rat := { x := 1 / 2, y := 1 / 2, z := 1 / 2, w := 1 / 2 }

/-- A disc whose axes are exchanged. -/
def cycledDisc : Spawner Components := .ofOptions {
  shape := .circle (some 3)
  rotation := some (.ofNumbers [0.5, 0.5, 0.5, 0.5])
  dimension := some .volume }

/-- The order of two rotations is that of the factors. -/
theorem tilt_and_cycledDisc :
    tilt.normSq = 1 ∧ cycle.normSq = 1 ∧
      (forall v : Vec3 Rat, rotate (rotate v tilt) cycle = rotate v (cycle * tilt)) ∧
      cycledDisc.shape = .circle 3 ∧
      (rotationOf (fun x => (Datum.ofFloat x).value) cycledDisc).normSq = 1 ∧
      ReachesCircle cycledDisc 3 fun x => (Datum.ofFloat x).value := by
  have first : tilt.normSq = 1 := by decide +kernel
  have second : cycle.normSq = 1 := by decide +kernel
  have unit : (rotationOf (fun x => (Datum.ofFloat x).value) cycledDisc).normSq = 1 := by
    decide +kernel
  rcases circle_of_unit_rotation Rat with ⟨rotations, circles⟩
  exact ⟨first, second, (rotations tilt first).composition cycle second, rfl, unit,
    circles cycledDisc 3 _ rfl unit⟩

end Spawn
end ParticleEffects
