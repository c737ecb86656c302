import ParticleEffects.Proofs.BlockText
import ParticleEffects.Spawn.Position

namespace ParticleEffects
namespace Spawn

/-!
What can be read back from the text of a position.

Two descriptions give the same text exactly where everything that is printed of them is
printed alike.  Printed are the literals of the numbers; the rule of the speed, where the
normal of a round shape is no other direction than that from its center; and of a rotation
what the shape makes use of.
-/

open Spatial Number Wgsl Wgsl.Intrinsic

/-! ## Printing alike -/

/-- The literals of the first three entries. -/
def vec3Literals (entries : Components) : Vec3 String :=
  entries.vec3.map fun entry => literalText entry.toFloat

/-- The literals of the first four entries. -/
def quatLiterals (entries : Components) : Quat String :=
  entries.quat.map fun entry => literalText entry.toFloat

/-- The literals of an axis that is rotated by the first four entries. -/
def axisLiterals (axis : Vec3 Float) (rotation : Components) : Vec3 String :=
  (rotateSingle axis (rotation.quat.map Component.toFloat)).map singleText

/-- Constants with the same literal, or distributions between bounds with the same
literals. -/
def Value.Alike : Value -> Value -> Prop
  | .single value, .single other => literalText value = literalText other
  | .uniform min max, .uniform min' max' =>
    literalText min = literalText min' ∧ literalText max = literalText max'
  | _, _ => False

/-- The speeds of round shapes, with the rotations of these shapes. -/
def RoundAlike (rotation rotation' : Components) : Speed -> Speed -> Prop
  | .normal speed, .normal speed' | .normal speed, .radial speed'
  | .radial speed, .normal speed' | .radial speed, .radial speed' => speed.Alike speed'
  | .frame x y z, .frame x' y' z' =>
    quatLiterals rotation = quatLiterals rotation' ∧ x.Alike x' ∧ y.Alike y' ∧ z.Alike z'
  | .world x y z, .world x' y' z' => x.Alike x' ∧ y.Alike y' ∧ z.Alike z'
  | _, _ => False

/-- The speeds of boxes. -/
def BoxAlike : Speed -> Speed -> Prop
  | .normal speed, .normal speed' | .radial speed, .radial speed' => speed.Alike speed'
  | .frame x y z, .frame x' y' z' | .world x y z, .world x' y' z' =>
    x.Alike x' ∧ y.Alike y' ∧ z.Alike z'
  | _, _ => False

/-- What is printed of two shapes, with their rotations and speeds. -/
def ShapeAlike (spawner other : Spawner Components) : Prop :=
  match spawner.shape, other.shape with
  | .circle radius, .circle radius' =>
    literalText radius = literalText radius' ∧
      axisLiterals { x := 1, y := 0, z := 0 } spawner.rotation =
        axisLiterals { x := 1, y := 0, z := 0 } other.rotation ∧
      axisLiterals { x := 0, y := 0, z := 1 } spawner.rotation =
        axisLiterals { x := 0, y := 0, z := 1 } other.rotation ∧
      RoundAlike spawner.rotation other.rotation spawner.speed other.speed
  | .sphere radius, .sphere radius' =>
    literalText radius = literalText radius' ∧
      RoundAlike spawner.rotation other.rotation spawner.speed other.speed
  | .cube extents, .cube extents' =>
    vec3Literals extents = vec3Literals extents' ∧
      quatLiterals spawner.rotation = quatLiterals other.rotation ∧
      BoxAlike spawner.speed other.speed
  | _, _ => False

/-- Whether the velocity is a direction of the rotated frame. -/
def Speed.isFrame : Speed -> Bool
  | .frame .. => true
  | _ => false

/-- Descriptions of which everything is printed alike. -/
structure Spawner.Alike (spawner other : Spawner Components) : Prop where
  dimension : spawner.dimension = other.dimension
  center : vec3Literals spawner.center = vec3Literals other.center
  shape : ShapeAlike spawner other

/-! ## Numbers and values -/

theorem text_vec3Expr_inj (entries others : Components) :
    (vec3Expr entries).text = (vec3Expr others).text ↔
      vec3Literals entries = vec3Literals others :=
  Expr.text_ofVec3_inj _ _

theorem text_quatExpr_inj (entries others : Components) :
    (quatExpr entries).text = (quatExpr others).text ↔
      quatLiterals entries = quatLiterals others :=
  Expr.text_ofQuat_inj _ _

theorem text_axisExpr_inj (axis : Vec3 Float) (rotation rotation' : Components) :
    (axisExpr axis rotation).text = (axisExpr axis rotation').text ↔
      axisLiterals axis rotation = axisLiterals axis rotation' :=
  Expr.text_ofVec3_inj _ _

theorem text_ofFloat (x : Float) : (Expr.ofFloat x).text = literalText x := rfl

theorem lacks_literalText {character : Char} (special : isLiteralCharacter character = false)
    (x : Float) : Lacks character (literalText x) :=
  lacks_literal special (Single.ofFloat x)

theorem text_uniform (min max : Float) : (Value.uniform min max).expr.text =
    "(rand() * (" ++ (literalText max ++ (" - " ++ (literalText min ++ (") + " ++
      (literalText min ++ ")"))))) := by
  change (Expr.group (.binary .add (.binary .mul rand
    (.group (.binary .sub (.ofFloat max) (.ofFloat min)))) (.ofFloat min))).text = _
  rw [← String.toList_inj]
  simp [rand, Expr.text, Expr.argumentsText, Operator.symbol, text_ofFloat]

/-- A distribution is told from a constant by its parenthesis. -/
theorem text_single_ne_uniform (value min max : Float) :
    (Value.single value).expr.text ≠ (Value.uniform min max).expr.text := by
  intro same
  have lacks : Lacks '(' (Value.single value).expr.text := lacks_literalText (by decide) value
  rw [same, text_uniform] at lacks
  exact absurd (lacks_append_iff.mp lacks).1 (by decide)

/-- Bounds are told apart by what stands between them. -/
theorem text_value_inj (value other : Value) :
    value.expr.text = other.expr.text ↔ value.Alike other := by
  have blank := lacks_literalText (by decide : isLiteralCharacter ' ' = false)
  have parenthesis := lacks_literalText (by decide : isLiteralCharacter ')' = false)
  cases value with
  | single value =>
    cases other with
    | single other => exact Iff.rfl
    | uniform min max => exact iff_of_false (text_single_ne_uniform value min max) id
  | uniform min max =>
    cases other with
    | single other => exact iff_of_false (text_single_ne_uniform other min max).symm id
    | uniform min' max' =>
      rw [text_uniform, text_uniform, String.append_right_inj,
        append_inj_of_lacks rfl (blank max) (blank max'),
        append_inj_of_lacks rfl (parenthesis min) (parenthesis min'), String.append_left_inj,
        and_self, and_comm]
      exact Iff.rfl

theorem lacks_comma_value (value : Value) : Lacks ',' value.expr.text := by
  have comma := lacks_literalText (by decide : isLiteralCharacter ',' = false)
  cases value with
  | single value => exact comma value
  | uniform min max =>
    rw [text_uniform]
    exact Lacks.append (by decide) ((comma max).append (Lacks.append (by decide)
      ((comma min).append (Lacks.append (by decide) ((comma min).append (by decide))))))

theorem text_vectorExpr_inj (x y z x' y' z' : Value) :
    (vectorExpr x y z).text = (vectorExpr x' y' z').text ↔
      x.Alike x' ∧ y.Alike y' ∧ z.Alike z' := by
  rw [vectorExpr, vectorExpr, Expr.text_vec3_inj ⟨lacks_comma_value x, lacks_comma_value y⟩
    ⟨lacks_comma_value x', lacks_comma_value y'⟩, text_value_inj, text_value_inj, text_value_inj]

/-! ## Sizes -/

theorem text_mul (left right : Expr) :
    (left * right).text = left.text ++ (" * " ++ right.text) := by
  rw [← String.toList_inj]
  change (Expr.binary .mul left right).text.toList = _
  simp [Expr.text, Operator.symbol]

/-- A size in the volume begins with a draw, which no size on the surface begins with. -/
theorem text_sized_inj {draw size size' : Expr}
    (apart : forall rest : String, size.text ≠ draw.text ++ rest ∧ size'.text ≠ draw.text ++ rest)
    (dimension dimension' : Dimension) :
    (sized dimension draw size).text = (sized dimension' draw size').text ↔
      dimension = dimension' ∧ size.text = size'.text := by
  cases dimension <;> cases dimension' <;>
    simp only [sized, text_mul, String.append_right_inj, true_and, reduceCtorEq, false_and, iff_false]
  · exact (apart _).1
  · exact (apart _).2.symm

/-! ## Velocities -/

theorem text_scaled_inj (base scale scale' : Expr) :
    (base * .group scale).text = (base * .group scale').text ↔ scale.text = scale'.text := by
  rw [text_mul, text_mul, String.append_right_inj, String.append_right_inj, Expr.text, Expr.text,
    String.append_left_inj, String.append_right_inj]

theorem text_rotated (vector : Expr) :
    (rotatePoint vector Local.rotation).text = "rotate_point(" ++ (vector.text ++ ", rot)") := by
  rw [← String.toList_inj]
  simp [rotatePoint, Local.rotation, Expr.text, Expr.argumentsText]

theorem text_rotated_inj (vector vector' : Expr) :
    (rotatePoint vector Local.rotation).text = (rotatePoint vector' Local.rotation).text ↔
      vector.text = vector'.text := by
  rw [text_rotated, text_rotated, String.append_right_inj, String.append_left_inj]

theorem text_direction : Local.direction.text = "dir" := rfl

theorem text_position : position.text = "ret.pos" := rfl

section

variable (scale vector : Expr) (x y z : Value)

theorem text_outward_ne_vectorExpr :
    (Local.direction * .group scale).text ≠ (vectorExpr x y z).text := by
  rw [text_mul, text_direction]
  exact Expr.append_ne_vec3 (by decide) _ _ _ _

theorem text_radial_ne_vectorExpr :
    (position * .group scale).text ≠ (vectorExpr x y z).text := by
  rw [text_mul, text_position]
  exact Expr.append_ne_vec3 (by decide) _ _ _ _

theorem text_radial_ne_rotated :
    (position * .group scale).text ≠ (rotatePoint vector Local.rotation).text := by
  rw [text_mul, text_rotated, text_position]
  exact append_ne_append 2 (by decide) _ _

theorem text_rotated_ne_vectorExpr :
    (rotatePoint vector Local.rotation).text ≠ (vectorExpr x y z).text := by
  rw [text_rotated]
  exact Expr.append_ne_vec3 (by decide) _ _ _ _

end

/-- The rules of a round shape are told apart by the number of their lines and by what
the velocity begins with. -/
theorem lines_roundVelocity_inj (rotation rotation' : Components) (speed speed' : Speed) :
    Block.lines (roundVelocity rotation speed) = Block.lines (roundVelocity rotation' speed') ↔
      RoundAlike rotation rotation' speed speed' := by
  -- Only the rules for the frame take two lines, and the others begin in two ways.
  cases speed <;> cases speed' <;>
    simp only [roundVelocity, Block.lines, List.map_cons, List.map_nil, List.cons.injEq, and_true,
      and_false, reduceCtorEq, Statement.line_assign_inj, Statement.line_constant_inj,
      text_scaled_inj, text_rotated_inj, text_value_inj, text_vectorExpr_inj, text_quatExpr_inj,
      text_outward_ne_vectorExpr, (text_outward_ne_vectorExpr _ _ _ _).symm, RoundAlike]

/-- The rules of a box are told apart in the same way. -/
theorem lines_boxVelocity_inj (speed speed' : Speed) :
    Block.lines (boxVelocity speed) = Block.lines (boxVelocity speed') ↔ BoxAlike speed speed' := by
  -- Only the rule for the normal takes three lines, and the others begin in three ways.
  cases speed <;> cases speed' <;>
    simp only [boxVelocity, Block.lines, List.map_cons, List.map_nil, List.cons.injEq, and_true,
      and_false, true_and, reduceCtorEq, Statement.line_assign_inj, text_scaled_inj,
      text_rotated_inj, text_value_inj, text_vectorExpr_inj, text_radial_ne_vectorExpr,
      (text_radial_ne_vectorExpr _ _ _ _).symm, text_radial_ne_rotated,
      (text_radial_ne_rotated _ _).symm, text_rotated_ne_vectorExpr,
      (text_rotated_ne_vectorExpr _ _ _ _).symm, BoxAlike]

/-! ## Shapes -/

/-- A literal begins with no draw, since it has no parenthesis. -/
theorem literalText_ne_call {draw : String} (calls : ¬ Lacks '(' draw) (x : Float) (rest : String) :
    (Expr.ofFloat x).text ≠ draw ++ rest := by
  intro same
  have lacks := lacks_literalText (by decide : isLiteralCharacter '(' = false) x
  rw [← text_ofFloat, same] at lacks
  exact calls (lacks_append_iff.mp lacks).1

theorem text_vec3Expr_ne_draw (entries : Components) (rest : String) :
    (vec3Expr entries).text ≠ rand3.text ++ rest :=
  (Expr.append_ne_vec3 (by decide) _ _ _ _).symm

section

variable (spawner other : Spawner Components)

/-- A radius is told from the draws of a radius. -/
theorem text_radius_inj {draw : Expr} (calls : ¬ Lacks '(' draw.text) (radius radius' : Float) :
    (sized spawner.dimension draw (.ofFloat radius)).text =
        (sized other.dimension draw (.ofFloat radius')).text ↔
      spawner.dimension = other.dimension ∧ literalText radius = literalText radius' :=
  text_sized_inj (fun rest => ⟨literalText_ne_call calls radius rest,
    literalText_ne_call calls radius' rest⟩) _ _

theorem lines_circleBlock_inj (radius radius' : Float) :
    Block.lines (circleBlock spawner radius) = Block.lines (circleBlock other radius') ↔
      vec3Literals spawner.center = vec3Literals other.center ∧
      axisLiterals { x := 1, y := 0, z := 0 } spawner.rotation =
        axisLiterals { x := 1, y := 0, z := 0 } other.rotation ∧
      axisLiterals { x := 0, y := 0, z := 1 } spawner.rotation =
        axisLiterals { x := 0, y := 0, z := 1 } other.rotation ∧
      (spawner.dimension = other.dimension ∧ literalText radius = literalText radius') ∧
      RoundAlike spawner.rotation other.rotation spawner.speed other.speed := by
  have draws : ¬ Lacks '(' (Expr.call "sqrt" [rand]).text := by decide
  rw [← lines_roundVelocity_inj, ← text_radius_inj spawner other draws]
  simp only [circleBlock, Block.lines, List.map_cons, List.cons_append, List.nil_append,
    List.cons.injEq, Statement.line_constant_inj, text_vec3Expr_inj, text_axisExpr_inj, true_and]

theorem lines_sphereBlock_inj (radius radius' : Float) :
    Block.lines (sphereBlock spawner radius) = Block.lines (sphereBlock other radius') ↔
      vec3Literals spawner.center = vec3Literals other.center ∧
      (spawner.dimension = other.dimension ∧ literalText radius = literalText radius') ∧
      RoundAlike spawner.rotation other.rotation spawner.speed other.speed := by
  have draws : ¬ Lacks '(' (Expr.call "pow" [rand, .fraction 1 3]).text := by decide
  rw [← lines_roundVelocity_inj, ← text_radius_inj spawner other draws]
  simp only [sphereBlock, Block.lines, List.map_cons, List.cons_append, List.nil_append,
    List.cons.injEq, Statement.line_constant_inj, text_vec3Expr_inj, true_and]

theorem lines_cubeBlock_inj (extents extents' : Components) :
    Block.lines (cubeBlock spawner extents) = Block.lines (cubeBlock other extents') ↔
      vec3Literals spawner.center = vec3Literals other.center ∧
      quatLiterals spawner.rotation = quatLiterals other.rotation ∧
      (spawner.dimension = other.dimension ∧ vec3Literals extents = vec3Literals extents') ∧
      BoxAlike spawner.speed other.speed := by
  rw [← lines_boxVelocity_inj, ← text_vec3Expr_inj extents, ← text_sized_inj (fun rest =>
    ⟨text_vec3Expr_ne_draw extents rest, text_vec3Expr_ne_draw extents' rest⟩)]
  simp only [cubeBlock, Block.lines, List.map_append, List.map_cons, List.map_nil,
    List.cons_append, List.nil_append, List.cons.injEq, Statement.line_constant_inj,
    text_vec3Expr_inj, text_quatExpr_inj, true_and, List.append_left_inj]

end

/-! ## One line for each statement -/

theorem isPlain_value (value : Value) : value.expr.isPlain = true := by
  cases value <;> rfl

theorem isPlain_vectorExpr (x y z : Value) : (vectorExpr x y z).isPlain = true := by
  have text : (vectorExpr x y z).isPlain =
    (x.expr.isPlain && (y.expr.isPlain && (z.expr.isPlain && true))) := rfl
  simp [text, isPlain_value]

theorem isPlain_scaled (base : Expr) (scale : Value) :
    (base * .group scale.expr).isPlain = base.isPlain := by
  have text : (base * .group scale.expr).isPlain = (base.isPlain && scale.expr.isPlain) := rfl
  rw [text, isPlain_value, Bool.and_true]

theorem isPlain_rotated (vector : Expr) :
    (rotatePoint vector Local.rotation).isPlain = vector.isPlain := by
  have text : (rotatePoint vector Local.rotation).isPlain = (vector.isPlain && true) := rfl
  rw [text, Bool.and_true]

theorem isPlain_roundVelocity (rotation : Components) (speed : Speed) :
    (roundVelocity rotation speed).all Statement.isPlain = true := by
  cases speed <;>
    simp only [roundVelocity, List.all_cons, List.all_nil, Statement.isPlain, isPlain_scaled,
      isPlain_rotated, isPlain_vectorExpr] <;> rfl

theorem isPlain_boxVelocity (speed : Speed) :
    (boxVelocity speed).all Statement.isPlain = true := by
  cases speed <;>
    simp only [boxVelocity, List.all_cons, List.all_nil, Statement.isPlain, isPlain_scaled,
      isPlain_rotated, isPlain_vectorExpr] <;> rfl

/-- Every statement of a block is on one line. -/
theorem Spawner.isPlain_statements (spawner : Spawner Components) :
    spawner.statements.all Statement.isPlain = true := by
  rcases spawner with ⟨shape, center, rotation, speed, dimension⟩
  cases shape with
  | circle radius =>
    refine List.all_append.trans (Bool.and_eq_true_iff.mpr ⟨?_, isPlain_roundVelocity _ _⟩)
    cases dimension <;> rfl
  | sphere radius =>
    refine List.all_append.trans (Bool.and_eq_true_iff.mpr ⟨?_, isPlain_roundVelocity _ _⟩)
    cases dimension <;> rfl
  | cube extents =>
    refine List.all_append.trans (Bool.and_eq_true_iff.mpr ⟨?_, rfl⟩)
    refine List.all_append.trans (Bool.and_eq_true_iff.mpr ⟨?_, isPlain_boxVelocity _⟩)
    cases dimension <;> rfl

theorem Shape.lacks_title (shape : Shape Components) : Lacks '\n' shape.title := by
  cases shape with
  | circle radius => exact (by decide : Lacks '\n' "PositionCircleModifier")
  | sphere radius => exact (by decide : Lacks '\n' "PositionSphereModifier")
  | cube extents => exact (by decide : Lacks '\n' "PositionCubeModifier")

theorem Spawner.isPlain_block (spawner : Spawner Components) :
    spawner.block.all Statement.isPlain = true := by
  have opened : (Statement.comment (">>> [" ++ spawner.shape.title ++ "]")).isPlain = true :=
    decide_eq_true ((Lacks.append (by decide) spawner.shape.lacks_title).append (by decide))
  have closed : (Statement.comment ("<<< [" ++ spawner.shape.title ++ "]")).isPlain = true :=
    decide_eq_true ((Lacks.append (by decide) spawner.shape.lacks_title).append (by decide))
  simp only [Spawner.block, List.cons_append, List.all_cons, List.all_append, List.all_nil,
    opened, closed, spawner.isPlain_statements, Bool.and_self]

/-! ## The whole text -/

/-- The text of a position can be taken apart into its lines. -/
theorem positionCode_inj (spawner other : Spawner Components) :
    spawner.positionCode = other.positionCode ↔ spawner.block.lines = other.block.lines :=
  Block.text_inj (List.cons_ne_nil _ _) (List.cons_ne_nil _ _) spawner.isPlain_block
    other.isPlain_block

/-- Blocks of the same shape differ between their titles. -/
theorem lines_block_inj (spawner other : Spawner Components) :
    spawner.block.lines = other.block.lines ↔
      spawner.shape.title = other.shape.title ∧
        Block.lines spawner.statements = Block.lines other.statements := by
  simp only [Spawner.block, Block.lines, List.cons_append, List.map_cons, List.map_append,
    List.map_nil, List.cons.injEq, Statement.line, String.append_left_inj, String.append_right_inj]
  constructor
  · rintro ⟨title, statements⟩
    rw [title] at statements
    exact ⟨title, List.append_cancel_right statements⟩
  · rintro ⟨title, statements⟩
    rw [title, statements]
    exact ⟨rfl, rfl⟩

theorem alike_iff (spawner other : Spawner Components) :
    spawner.Alike other ↔ spawner.dimension = other.dimension ∧
      vec3Literals spawner.center = vec3Literals other.center ∧ ShapeAlike spawner other :=
  ⟨fun alike => ⟨alike.dimension, alike.center, alike.shape⟩,
    fun ⟨dimension, center, shape⟩ => ⟨dimension, center, shape⟩⟩

/-- Titles tell the shapes apart, and the statements all that is printed of a shape. -/
theorem statements_inj (spawner other : Spawner Components) :
    (spawner.shape.title = other.shape.title ∧
      Block.lines spawner.statements = Block.lines other.statements) ↔ spawner.Alike other := by
  rw [alike_iff]
  unfold ShapeAlike Spawner.statements
  cases spawner.shape with
  | circle radius =>
    cases other.shape with
    | circle radius' =>
      simp only [Shape.title, lines_circleBlock_inj, true_and]
      tauto
    | sphere radius' => simp [Shape.title]
    | cube extents => simp [Shape.title]
  | sphere radius =>
    cases other.shape with
    | circle radius' => simp [Shape.title]
    | sphere radius' =>
      simp only [Shape.title, lines_sphereBlock_inj, true_and]
      tauto
    | cube extents => simp [Shape.title]
  | cube extents =>
    cases other.shape with
    | circle radius => simp [Shape.title]
    | sphere radius => simp [Shape.title]
    | cube extents' =>
      simp only [Shape.title, lines_cubeBlock_inj, true_and]
      tauto

theorem Value.Alike.refl (value : Value) : value.Alike value := by
  cases value with
  | single value => rfl
  | uniform min max => exact ⟨rfl, rfl⟩

theorem roundAlike_self_iff (rotation rotation' : Components) (speed : Speed) :
    RoundAlike rotation rotation' speed speed ↔
      speed.isFrame = false ∨ quatLiterals rotation = quatLiterals rotation' := by
  cases speed <;> simp [RoundAlike, Speed.isFrame, Value.Alike.refl]

/-- Texts of positions are equal exactly where all that is printed is printed alike; of the
rotation of a sphere nothing is printed but in the frame of its speed. -/
theorem positionCode_eq_iff_alike :
    (forall spawner other : Spawner Components,
      spawner.positionCode = other.positionCode ↔ spawner.Alike other) ∧
    forall (spawner : Spawner Components) (radius : Float) (rotation : Components),
      { spawner with shape := .sphere radius, rotation := rotation }.positionCode =
          { spawner with shape := .sphere radius }.positionCode ↔
        spawner.speed.isFrame = false ∨ quatLiterals rotation = quatLiterals spawner.rotation := by
  have texts (spawner other : Spawner Components) :
      spawner.positionCode = other.positionCode ↔ spawner.Alike other := by
    rw [positionCode_inj, lines_block_inj, statements_inj]
  refine ⟨texts, fun spawner radius rotation => ?_⟩
  rw [texts, alike_iff, ← roundAlike_self_iff]
  exact ⟨fun alike => alike.2.2.2, fun alike => ⟨rfl, rfl, rfl, alike⟩⟩

end Spawn
end ParticleEffects
