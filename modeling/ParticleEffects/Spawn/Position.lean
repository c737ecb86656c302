import ParticleEffects.Spatial.Rotation
import ParticleEffects.Spawn.Shape
import ParticleEffects.Wgsl.Block

namespace ParticleEffects
namespace Spawn

/-!
The statements that give a new particle its position and velocity.

Sampling is uniform: the radius of a disc is drawn by its square and that of a
ball by its cube, a direction on the sphere by its height and its angle, and a
point of a box by one of its six faces.
-/

open Spatial Number Wgsl Wgsl.Intrinsic

namespace Local

/-!
The names that a block declares for itself.
-/

def center : Expr := .name "c"

def rotation : Expr := .name "rot"

def radius : Expr := .name "r"

def angle : Expr := .name "theta"

def height : Expr := .name "z"

def direction : Expr := .name "dir"

def extents : Expr := .name "extents"

def face : Expr := .name "s"

/-- The axes of a box, that of the chosen face first. -/
def axis (n : Nat) : Expr := .element (.name "si") (.ordinal n)

def faceSign : Expr := .name "locked_axis_sign"

def normal : Expr := .name "normal"

def cosine : Expr := .call "cos" [angle]

def sine : Expr := .call "sin" [angle]

end Local

/-- The literals of the first three entries. -/
def vec3Expr (entries : Components) : Expr := .ofVec3 (entries.vec3.map Component.single)

/-- The literals of the first four entries. -/
def quatExpr (entries : Components) : Expr := .ofQuat (entries.quat.map Component.single)

/-- An axis of a frame that is rotated by the first four entries. -/
def axisExpr (axis : Vec3 Float) (rotation : Components) : Expr :=
  .ofVec3 (rotateSingle axis (rotation.quat.map Component.toFloat))

/-- The velocity in a shape whose outward normal is the direction from the
center, so that the two outward rules agree. -/
def roundVelocity (rotation : Components) : Speed -> Block
  | .normal speed | .radial speed =>
    [.assign velocity (Local.direction * .group speed.expr)]
  | .frame x y z =>
    [.constant "rot" (quatExpr rotation),
      .assign velocity (rotatePoint (vectorExpr x y z) Local.rotation)]
  | .world x y z => [.assign velocity (vectorExpr x y z)]

/-- The velocity in a box, where the normal is that of the chosen face and the
position is still the offset from the center. -/
def boxVelocity : Speed -> Block
  | .normal speed =>
    [.mutable "normal" (.vec3 (.whole 0) (.whole 0) (.whole 0)),
      .assign (.element Local.normal (Local.axis 0)) Local.faceSign,
      .assign velocity (rotatePoint (Local.normal * .group speed.expr) Local.rotation)]
  | .radial speed => [.assign velocity (position * .group speed.expr)]
  | .frame x y z => [.assign velocity (rotatePoint (vectorExpr x y z) Local.rotation)]
  | .world x y z => [.assign velocity (vectorExpr x y z)]

/-- A size as it is on the surface, scaled by a draw in the volume. -/
def sized (dimension : Dimension) (draw size : Expr) : Expr :=
  match dimension with
  | .surface => size
  | .volume => draw * size

def anyAngle : Statement := .constant "theta" (rand * tau)

def roundPosition : Statement :=
  .assign position (Local.center + Local.radius * Local.direction)

/-- A circle spans the plane of the rotated first and third axes. -/
def circleBlock (spawner : Spawner Components) (radius : Float) : Block :=
  [.constant "c" (vec3Expr spawner.center),
    .constant "tangent" (axisExpr { x := 1, y := 0, z := 0 } spawner.rotation),
    .constant "bitangent" (axisExpr { x := 0, y := 0, z := 1 } spawner.rotation),
    .constant "r" (sized spawner.dimension (.call "sqrt" [rand]) (.ofFloat radius)),
    anyAngle,
    .constant "dir"
      (.name "tangent" * Local.cosine + .name "bitangent" * Local.sine),
    roundPosition]
  ++ roundVelocity spawner.rotation spawner.speed

def sphereBlock (spawner : Spawner Components) (radius : Float) : Block :=
  [.constant "c" (vec3Expr spawner.center),
    .constant "r"
      (sized spawner.dimension (.call "pow" [rand, .fraction 1 3]) (.ofFloat radius)),
    anyAngle,
    .constant "z" signedRand,
    .constant "sinphi" (.call "sqrt" [.whole 1 - Local.height * Local.height]),
    .constant "dir"
      (.vec3 (.name "sinphi" * Local.cosine) (.name "sinphi" * Local.sine) Local.height),
    roundPosition]
  ++ roundVelocity spawner.rotation spawner.speed

/-- One component of a position in the frame of the box. -/
def boxComponent (n : Nat) (factor : Expr) : Statement :=
  .assign (.element position (Local.axis n))
    (factor * .element Local.extents (Local.axis n))

/-- The first three faces of a box are the negative ones, and the move to the
center comes last. -/
def cubeBlock (spawner : Spawner Components) (extents : Components) : Block :=
  [.constant "c" (vec3Expr spawner.center),
    .constant "rot" (quatExpr spawner.rotation),
    .constant "extents" (sized spawner.dimension rand3 (vec3Expr extents)),
    .constant "s" (randPositiveInt 6),
    .constant "si"
      (.call "vec3<u32>"
        [Local.face, Local.face + .unsigned 1, Local.face + .unsigned 2] % .unsigned 3),
    .constant "locked_axis_sign"
      (.call "select"
        [.whole (-1), .whole 1, .binary .greater Local.face (.unsigned 2)]),
    boxComponent 0 Local.faceSign,
    boxComponent 1 (.group signedRand),
    boxComponent 2 (.group signedRand),
    .assign position (rotatePoint position Local.rotation)]
  ++ boxVelocity spawner.speed
  ++ [.assign position (position + Local.center)]

/-- The name that frames the block of a shape. -/
def Shape.title : Shape Components -> String
  | .circle _ => "PositionCircleModifier"
  | .sphere _ => "PositionSphereModifier"
  | .cube _ => "PositionCubeModifier"

def Spawner.statements (spawner : Spawner Components) : Block :=
  match spawner.shape with
  | .circle radius => circleBlock spawner radius
  | .sphere radius => sphereBlock spawner radius
  | .cube extents => cubeBlock spawner extents

def Spawner.block (spawner : Spawner Components) : Block :=
  .comment (">>> [" ++ spawner.shape.title ++ "]") :: spawner.statements
    ++ [.comment ("<<< [" ++ spawner.shape.title ++ "]")]

def Spawner.positionCode (spawner : Spawner Components) : String := spawner.block.text

end Spawn
end ParticleEffects
