import ParticleEffects.Proofs.CallText
import ParticleEffects.Proofs.PositionScope

namespace ParticleEffects
namespace Spawn

/-!
The random draws of a position.

The shader draws in three ways: one number, three numbers at once, or one of the six faces of a
box.  How often a block draws is read off its text, whatever numbers are printed in it: each
shape has draws of its own, the volume takes one more, and every uniform value of the speed
takes one.
-/

open Spatial Number Wgsl Wgsl.Intrinsic

/-- A call by which the shader draws. -/
inductive Draw where
  | unit
  | triple
  | face

namespace Draw

def call : Draw -> PlainCall
  | unit => ⟨"rand", "", by decide +kernel, by decide +kernel⟩
  | triple => ⟨"rand3", "", by decide +kernel, by decide +kernel⟩
  | face => ⟨"rand_positive_int", "6u", by decide +kernel, by decide +kernel⟩

/-- How often one number is drawn. -/
def units : Draw -> Nat
  | unit => 1
  | triple | face => 0

def triples : Draw -> Nat
  | triple => 1
  | unit | face => 0

def faces : Draw -> Nat
  | face => 1
  | unit | triple => 0

/-- The functions that blocks call without drawing. -/
def others : List String :=
  ["vec3<f32>", "vec4<f32>", "vec3<u32>", "rotate_point", "sqrt", "pow", "cos", "sin", "select"]

variable (draw : Draw)

theorem calls_call {function : String} (other : function ∈ others) (arguments : List Expr) :
    (Expr.call function arguments).calls draw.call = argumentsCalls draw.call arguments := by
  have named : others.all (fun function =>
      !decide (draw.call.function.toList <:+ function.toList)) = true := by
    cases draw <;> decide +kernel
  have different := List.all_eq_true.mp named function other
  rw [Bool.not_eq_true', decide_eq_false_iff_not] at different
  rw [Expr.calls, if_neg fun same => different same.1, Nat.zero_add]

theorem calls_rand : rand.calls draw.call = draw.units := by
  cases draw <;> decide +kernel

theorem calls_rand3 : rand3.calls draw.call = draw.triples := by
  cases draw <;> decide +kernel

end Draw

/-! ## Values -/

/-- The scalars that a speed is made of. -/
def Speed.values : Speed -> List Value
  | .normal speed | .radial speed => [speed]
  | .frame x y z | .world x y z => [x, y, z]

/-- How many of them are drawn. -/
def Speed.uniforms (speed : Speed) : Nat := speed.values.countP (!·.isSingle)

section

variable (draw : Draw)

/-- A uniform value is drawn once, although one of its bounds is written twice. -/
theorem calls_value (value : Value) :
    value.expr.calls draw.call = [value].countP (!·.isSingle) * draw.units := by
  cases value with
  | single value => exact (Nat.zero_mul _).symm
  | uniform min max =>
    have parts : (Value.uniform min max).expr.calls draw.call =
        rand.calls draw.call + (0 + 0) + 0 := rfl
    rw [parts, draw.calls_rand]
    exact (Nat.one_mul _).symm

theorem calls_vectorExpr (x y z : Value) :
    (vectorExpr x y z).calls draw.call = [x, y, z].countP (!·.isSingle) * draw.units := by
  have parts : argumentsCalls draw.call [x.expr, y.expr, z.expr] =
      x.expr.calls draw.call + (y.expr.calls draw.call + (z.expr.calls draw.call + 0)) := rfl
  rw [vectorExpr, Expr.vec3, draw.calls_call (by decide), parts, calls_value, calls_value,
    calls_value, Nat.add_zero, ← Nat.add_mul, ← Nat.add_mul, ← List.countP_append,
    ← List.countP_append]
  rfl

theorem calls_vec3Expr (entries : Components) : (vec3Expr entries).calls draw.call = 0 :=
  draw.calls_call (by decide) _

theorem calls_quatExpr (entries : Components) : (quatExpr entries).calls draw.call = 0 :=
  draw.calls_call (by decide) _

theorem calls_axisExpr (axis : Vec3 Float) (rotation : Components) :
    (axisExpr axis rotation).calls draw.call = 0 :=
  draw.calls_call (by decide) _

theorem calls_mul (left right : Expr) :
    (left * right).calls draw.call = left.calls draw.call + right.calls draw.call := rfl

theorem calls_rotated (vector : Expr) :
    (rotatePoint vector Local.rotation).calls draw.call = vector.calls draw.call :=
  draw.calls_call (by decide) _

/-! ## Statements -/

theorem calls_nil : Block.calls draw.call [] = 0 := rfl

theorem calls_constant (name : String) (value : Expr) :
    (Statement.constant name value).calls draw.call = value.calls draw.call := rfl

/-- What is assigned to draws nothing. -/
theorem calls_velocity (value : Expr) :
    (Statement.assign velocity value).calls draw.call = value.calls draw.call := Nat.zero_add _

theorem calls_scaled {base : Expr} (drawless : base.calls draw.call = 0) (scale : Value) :
    (base * .group scale.expr).calls draw.call =
      [scale].countP (!·.isSingle) * draw.units := by
  rw [calls_mul, drawless, Nat.zero_add, ← calls_value]
  rfl

theorem calls_roundVelocity (rotation : Components) (speed : Speed) :
    Block.calls draw.call (roundVelocity rotation speed) = speed.uniforms * draw.units := by
  cases speed with
  | normal speed | radial speed =>
    rw [roundVelocity, Block.calls_cons, calls_velocity, calls_scaled draw rfl, calls_nil]
    rfl
  | frame x y z =>
    rw [roundVelocity, Block.calls_cons, Block.calls_cons, calls_constant, calls_quatExpr,
      calls_velocity, calls_rotated, calls_vectorExpr, calls_nil, Nat.zero_add]
    rfl
  | world x y z =>
    rw [roundVelocity, Block.calls_cons, calls_velocity, calls_vectorExpr, calls_nil]
    rfl

theorem calls_boxVelocity (speed : Speed) :
    Block.calls draw.call (boxVelocity speed) = speed.uniforms * draw.units := by
  cases speed with
  | normal speed =>
    have origin : (Expr.vec3 (.whole 0) (.whole 0) (.whole 0)).calls draw.call = 0 :=
      draw.calls_call (by decide) _
    have turned : (Statement.assign (.element Local.normal (Local.axis 0)) Local.faceSign).calls
        draw.call = 0 := rfl
    have declared : (Statement.mutable "normal" (.vec3 (.whole 0) (.whole 0) (.whole 0))).calls
        draw.call = 0 := origin
    rw [boxVelocity, Block.calls_cons, Block.calls_cons, Block.calls_cons, declared, turned,
      calls_velocity, calls_rotated, calls_scaled draw rfl, calls_nil, Nat.zero_add, Nat.zero_add]
    rfl
  | radial speed =>
    rw [boxVelocity, Block.calls_cons, calls_velocity, calls_scaled draw rfl, calls_nil]
    rfl
  | frame x y z =>
    rw [boxVelocity, Block.calls_cons, calls_velocity, calls_rotated, calls_vectorExpr, calls_nil]
    rfl
  | world x y z =>
    rw [boxVelocity, Block.calls_cons, calls_velocity, calls_vectorExpr, calls_nil]
    rfl

/-! ## Shapes -/

/-- The draws that the inside of a shape takes and its boundary does not. -/
def Dimension.draws : Dimension -> Nat
  | .surface => 0
  | .volume => 1

theorem calls_sized (dimension : Dimension) (factor size : Expr) :
    (sized dimension factor size).calls draw.call =
      dimension.draws * factor.calls draw.call + size.calls draw.call := by
  cases dimension with
  | surface => rw [sized, Dimension.draws, Nat.zero_mul, Nat.zero_add]
  | volume => rw [sized, Dimension.draws, Nat.one_mul, calls_mul]

theorem calls_radius (dimension : Dimension) {factor : Expr}
    (drawn : factor.calls draw.call = draw.units) (radius : Float) :
    (sized dimension factor (.ofFloat radius)).calls draw.call = dimension.draws * draw.units := by
  rw [calls_sized, drawn]
  rfl

section

variable (spawner : Spawner Components)

/-- On a circle the angle is drawn. -/
theorem calls_circleBlock (radius : Float) :
    Block.calls draw.call (circleBlock spawner radius) =
      (1 + spawner.dimension.draws + spawner.speed.uniforms) * draw.units := by
  have root : (Expr.call "sqrt" [rand]).calls draw.call = draw.units := by
    cases draw <;> decide +kernel
  have placed : Block.calls draw.call [anyAngle,
      .constant "dir" (.name "tangent" * Local.cosine + .name "bitangent" * Local.sine),
      roundPosition] = draw.units := by
    cases draw <;> decide +kernel
  rw [circleBlock, Block.calls_append, calls_roundVelocity, Block.calls_cons, Block.calls_cons,
    Block.calls_cons, Block.calls_cons, placed, calls_constant, calls_constant, calls_constant,
    calls_constant, calls_vec3Expr, calls_axisExpr, calls_axisExpr, calls_radius draw _ root]
  ring

/-- On a sphere the angle and the height are drawn. -/
theorem calls_sphereBlock (radius : Float) :
    Block.calls draw.call (sphereBlock spawner radius) =
      (2 + spawner.dimension.draws + spawner.speed.uniforms) * draw.units := by
  have root : (Expr.call "pow" [rand, .fraction 1 3]).calls draw.call = draw.units := by
    cases draw <;> decide +kernel
  have placed : Block.calls draw.call [anyAngle, .constant "z" signedRand,
      .constant "sinphi" (.call "sqrt" [.whole 1 - Local.height * Local.height]),
      .constant "dir"
        (.vec3 (.name "sinphi" * Local.cosine) (.name "sinphi" * Local.sine) Local.height),
      roundPosition] = 2 * draw.units := by
    cases draw <;> decide +kernel
  rw [sphereBlock, Block.calls_append, calls_roundVelocity, Block.calls_cons, Block.calls_cons,
    placed, calls_constant, calls_constant, calls_vec3Expr, calls_radius draw _ root]
  ring

/-- In a box the face and a place on it are drawn. -/
theorem calls_cubeBlock (extents : Components) :
    Block.calls draw.call (cubeBlock spawner extents) =
      (2 + spawner.speed.uniforms) * draw.units + spawner.dimension.draws * draw.triples +
        draw.faces := by
  have placed : Block.calls draw.call [.constant "s" (randPositiveInt 6),
      .constant "si" (.call "vec3<u32>"
        [Local.face, Local.face + .unsigned 1, Local.face + .unsigned 2] % .unsigned 3),
      .constant "locked_axis_sign" (.call "select"
        [.whole (-1), .whole 1, .binary .greater Local.face (.unsigned 2)]),
      boxComponent 0 Local.faceSign,
      boxComponent 1 (.group signedRand),
      boxComponent 2 (.group signedRand),
      .assign position (rotatePoint position Local.rotation)] = 2 * draw.units + draw.faces := by
    cases draw <;> decide +kernel
  have moved : Block.calls draw.call [.assign position (position + Local.center)] = 0 := rfl
  rw [cubeBlock, Block.calls_append, Block.calls_append, calls_boxVelocity, moved,
    Block.calls_cons, Block.calls_cons, Block.calls_cons, placed, calls_constant, calls_constant,
    calls_constant, calls_vec3Expr, calls_quatExpr, calls_sized, calls_vec3Expr, draw.calls_rand3]
  ring

/-- A draw stands in the code of a position as often as in its statements. -/
theorem occurrences_positionCode :
    occurrences draw.call.text spawner.positionCode.toList =
      Block.calls draw.call spawner.statements := by
  have spelled := spawner.isWellSpelled_statements
  have titles (mark : String) (plain : Lacks '(' mark) :
      occurrences draw.call.text (mark ++ spawner.shape.title ++ "]").toList = 0 := by
    refine draw.call.occurrences_of_lacks ((plain.append ?_).append (by decide))
    cases spawner.shape with
    | circle radius => exact (by decide : Lacks '(' "PositionCircleModifier")
    | sphere radius => exact (by decide : Lacks '(' "PositionSphereModifier")
    | cube extents => exact (by decide : Lacks '(' "PositionCubeModifier")
  rw [spawner.positionCode_eq_join, occurrences_join, spawner.lines_block, List.map_append,
    List.sum_append, List.map_cons, List.sum_cons, titles _ (by decide), List.map_singleton,
    List.sum_singleton, titles _ (by decide), Nat.zero_add, Nat.add_zero, Block.lines,
    List.map_map, Block.calls]
  refine congrArg List.sum (List.map_congr_left fun statement within => ?_)
  exact statement.occurrences_line draw.call (List.all_eq_true.mp spelled statement within)

end

end

/-! ## Whole texts -/

/-- How often a text draws in each way. -/
structure Draws where
  units : Nat
  triples : Nat
  faces : Nat
  deriving DecidableEq

def Draws.ofText (text : String) : Draws where
  units := occurrences "rand()".toList text.toList
  triples := occurrences "rand3()".toList text.toList
  faces := occurrences "rand_positive_int(6u)".toList text.toList

def Draws.total (draws : Draws) : Nat := draws.units + draws.triples + draws.faces

/-- The draws of a position are those of its shape and of its speed. -/
theorem ofText_positionCode (spawner : Spawner Components) :
    Draws.ofText spawner.positionCode =
      match spawner.shape with
      | .circle _ => ⟨1 + spawner.dimension.draws + spawner.speed.uniforms, 0, 0⟩
      | .sphere _ => ⟨2 + spawner.dimension.draws + spawner.speed.uniforms, 0, 0⟩
      | .cube _ => ⟨2 + spawner.speed.uniforms, spawner.dimension.draws, 1⟩ := by
  have counted : Draws.ofText spawner.positionCode =
      ⟨Block.calls Draw.unit.call spawner.statements,
        Block.calls Draw.triple.call spawner.statements,
        Block.calls Draw.face.call spawner.statements⟩ := by
    rw [← occurrences_positionCode, ← occurrences_positionCode, ← occurrences_positionCode]
    rfl
  rw [counted, Spawner.statements]
  cases spawner.shape with
  | circle radius => simp [calls_circleBlock, Draw.units]
  | sphere radius => simp [calls_sphereBlock, Draw.units]
  | cube extents => simp [calls_cubeBlock, Draw.units, Draw.triples, Draw.faces]

theorem ofText_value (value : Value) :
    Draws.ofText value.expr.text = ⟨if value.isSingle then 0 else 1, 0, 0⟩ := by
  have counted (draw : Draw) :
      occurrences draw.call.text value.expr.text.toList =
        [value].countP (!·.isSingle) * draw.units := by
    rw [value.expr.occurrences_text draw.call (isWellSpelled_value value), calls_value]
  have triples : occurrences "rand3()".toList value.expr.text.toList = 0 := counted .triple
  have faces : occurrences "rand_positive_int(6u)".toList value.expr.text.toList = 0 :=
    counted .face
  have units : occurrences "rand()".toList value.expr.text.toList =
      [value].countP (!·.isSingle) * 1 := counted .unit
  rw [Draws.ofText, triples, faces, units]
  cases value <;> rfl

/-- A bound that is no number is written as a name, which draws nothing. -/
example : Draws.ofText (Value.uniform 0 (1 / 0)).expr.text = ⟨1, 0, 0⟩ := by decide +kernel

/-- A circle takes one number and a sphere two, a box two numbers and a face; the volume takes
one draw more than the surface, and each uniform value of the speed is drawn once. -/
theorem draws_of_positionCode :
    (forall spawner : Spawner Components, Draws.ofText spawner.positionCode =
      match spawner.shape, spawner.dimension with
      | .circle _, .surface => ⟨1 + spawner.speed.uniforms, 0, 0⟩
      | .circle _, .volume => ⟨2 + spawner.speed.uniforms, 0, 0⟩
      | .sphere _, .surface => ⟨2 + spawner.speed.uniforms, 0, 0⟩
      | .sphere _, .volume => ⟨3 + spawner.speed.uniforms, 0, 0⟩
      | .cube _, .surface => ⟨2 + spawner.speed.uniforms, 0, 1⟩
      | .cube _, .volume => ⟨2 + spawner.speed.uniforms, 1, 1⟩) ∧
    (forall spawner : Spawner Components,
      (Draws.ofText { spawner with dimension := .volume }.positionCode).total =
        (Draws.ofText { spawner with dimension := .surface }.positionCode).total + 1) ∧
    forall value : Value,
      Draws.ofText value.expr.text = ⟨if value.isSingle then 0 else 1, 0, 0⟩ := by
  refine ⟨fun spawner => ?_, fun spawner => ?_, ofText_value⟩
  · rw [ofText_positionCode]
    cases spawner.shape <;> cases spawner.dimension <;> rfl
  · rw [ofText_positionCode, ofText_positionCode]
    cases spawner.shape <;> simp only [Draws.total, Dimension.draws] <;> omega

end Spawn
end ParticleEffects
