import ParticleEffects.Proofs.PositionText
import ParticleEffects.Proofs.BlockScope

namespace ParticleEffects
namespace Spawn

/-!
The names in the block of a position.

The blocks of all shapes are made of closed statements that use known names only, whatever
fills them, as long as the numbers in them are finite: what is not finite would be read as a
name.  The speed in the frame of a shape declares a rotation in a round shape, whereas a box has
declared it already.
-/

open Spatial Number Wgsl Wgsl.Intrinsic

/-! ## Spelling -/

theorem isWellSpelled_value (value : Value) : value.expr.isWellSpelled = true := by
  cases value <;> rfl

theorem isWellSpelled_vectorExpr (x y z : Value) : (vectorExpr x y z).isWellSpelled = true := by
  have parts : (vectorExpr x y z).isWellSpelled = (x.expr.isWellSpelled &&
      (y.expr.isWellSpelled && (z.expr.isWellSpelled && true))) := rfl
  rw [parts, isWellSpelled_value, isWellSpelled_value, isWellSpelled_value]
  rfl

theorem isWellSpelled_scaled (base : Expr) (scale : Value) :
    (base * .group scale.expr).isWellSpelled = base.isWellSpelled := by
  have parts : (base * .group scale.expr).isWellSpelled =
      (base.isWellSpelled && scale.expr.isWellSpelled) := rfl
  rw [parts, isWellSpelled_value, Bool.and_true]

theorem isWellSpelled_rotated (vector : Expr) :
    (rotatePoint vector Local.rotation).isWellSpelled = vector.isWellSpelled := by
  have parts : (rotatePoint vector Local.rotation).isWellSpelled =
      (vector.isWellSpelled && true) := rfl
  rw [parts, Bool.and_true]

theorem isWellSpelled_roundVelocity (rotation : Components) (speed : Speed) :
    (roundVelocity rotation speed).all Statement.isWellSpelled = true := by
  cases speed <;>
    simp only [roundVelocity, List.all_cons, List.all_nil, Statement.isWellSpelled,
      isWellSpelled_scaled, isWellSpelled_rotated, isWellSpelled_vectorExpr] <;> rfl

theorem isWellSpelled_boxVelocity (speed : Speed) :
    (boxVelocity speed).all Statement.isWellSpelled = true := by
  cases speed <;>
    simp only [boxVelocity, List.all_cons, List.all_nil, Statement.isWellSpelled,
      isWellSpelled_scaled, isWellSpelled_rotated, isWellSpelled_vectorExpr] <;> rfl

theorem Spawner.isWellSpelled_statements (spawner : Spawner Components) :
    spawner.statements.all Statement.isWellSpelled = true := by
  rcases spawner with ⟨shape, center, rotation, speed, dimension⟩
  cases shape with
  | circle radius =>
    refine List.all_append.trans (Bool.and_eq_true_iff.mpr ⟨?_, isWellSpelled_roundVelocity _ _⟩)
    cases dimension <;> rfl
  | sphere radius =>
    refine List.all_append.trans (Bool.and_eq_true_iff.mpr ⟨?_, isWellSpelled_roundVelocity _ _⟩)
    cases dimension <;> rfl
  | cube extents =>
    refine List.all_append.trans (Bool.and_eq_true_iff.mpr ⟨?_, rfl⟩)
    refine List.all_append.trans (Bool.and_eq_true_iff.mpr ⟨?_, isWellSpelled_boxVelocity _⟩)
    cases dimension <;> rfl

/-! ## Names -/

/-- What the shader gives: its own functions and constants, those of the language, and the
particle with the members that are filled in. -/
def shaderNames : List String :=
  ["rand", "rand3", "rand_positive_int", "rotate_point", "tau",
    "vec3", "vec4", "f32", "u32", "sqrt", "pow", "cos", "sin", "select",
    "ret", ".pos", ".vel"]

theorem not_mem_of_contains {known : List String} {name : String}
    (unknown : known.contains name = false) : name ∉ known :=
  fun member => Bool.false_ne_true (unknown.symm.trans (List.contains_iff_mem.mpr member))

section

variable {known : List String} (given : shaderNames ⊆ known)
include given

theorem uses_value (value : Value) : value.expr.words ⊆ known := by
  cases value with
  | single value => exact List.nil_subset known
  | uniform min max =>
    have drawn : (Value.uniform min max).expr.words = ["rand"] := rfl
    rw [drawn]
    exact List.Subset.trans (by decide) given

theorem uses_vectorExpr (x y z : Value) : (vectorExpr x y z).words ⊆ known := by
  have parts : (vectorExpr x y z).words =
      ["vec3", "f32"] ++ (x.expr.words ++ (y.expr.words ++ (z.expr.words ++ []))) := rfl
  rw [parts, List.append_nil]
  exact List.append_subset.mpr ⟨List.Subset.trans (by decide) given, List.append_subset.mpr
    ⟨uses_value given x, List.append_subset.mpr ⟨uses_value given y, uses_value given z⟩⟩⟩

theorem uses_scaled {base : Expr} (used : base.words ⊆ known) (scale : Value) :
    (base * .group scale.expr).words ⊆ known :=
  List.append_subset.mpr ⟨used, uses_value given scale⟩

theorem uses_rotated {vector : Expr} (used : vector.words ⊆ known) (rotated : "rot" ∈ known) :
    (rotatePoint vector Local.rotation).words ⊆ known := by
  have parts : (rotatePoint vector Local.rotation).words =
      ["rotate_point"] ++ (vector.words ++ ["rot"]) := rfl
  rw [parts]
  exact List.append_subset.mpr ⟨List.Subset.trans (by decide) given, List.append_subset.mpr
    ⟨used, List.cons_subset.mpr ⟨rotated, List.nil_subset known⟩⟩⟩

/-- An assignment of the velocity declares nothing. -/
theorem inScope_velocity {value : Expr} (used : value.words ⊆ known) :
    inScope known [Statement.words (.assign velocity value)] = true := by
  refine inScope_cons_iff.mpr ⟨?_, List.disjoint_nil_left known, rfl⟩
  have parts : usedNames (Statement.words (.assign velocity value)) =
      ["ret", ".vel"] ++ value.words := rfl
  rw [parts]
  exact List.append_subset.mpr ⟨List.Subset.trans (by decide) given, used⟩

/-- In a round shape the speed of the frame declares a rotation of its own. -/
theorem inScope_roundVelocity (direction : "dir" ∈ known) (unrotated : "rot" ∉ known)
    (rotation : Components) (speed : Speed) :
    inScope known ((roundVelocity rotation speed).map Statement.words) = true := by
  have directed : Local.direction.words ⊆ known :=
    List.cons_subset.mpr ⟨direction, List.nil_subset known⟩
  cases speed with
  | normal speed => exact inScope_velocity given (uses_scaled given directed speed)
  | radial speed => exact inScope_velocity given (uses_scaled given directed speed)
  | frame x y z =>
    have given' : shaderNames ⊆ "rot" :: known := List.subset_cons_of_subset "rot" given
    have vector := uses_vectorExpr given' x y z
    have declared : ["vec4", "f32"] ⊆ known := List.Subset.trans (by decide) given
    exact inScope_cons_iff.mpr ⟨declared, List.singleton_disjoint.mpr unrotated,
      inScope_velocity given' (uses_rotated given' vector List.mem_cons_self)⟩
  | world x y z => exact inScope_velocity given (uses_vectorExpr given x y z)

/-- In a box the rotation has been declared already, and the speed along the normal declares
the normal. -/
theorem inScope_boxVelocity (framed : ["si", "locked_axis_sign", "rot"] ⊆ known)
    (unused : "normal" ∉ known) (speed : Speed) :
    inScope known ((boxVelocity speed).map Statement.words) = true := by
  have rotated : "rot" ∈ known := framed (by decide)
  cases speed with
  | normal speed =>
    have given' : shaderNames ⊆ "normal" :: known := List.subset_cons_of_subset "normal" given
    have directed : Local.normal.words ⊆ "normal" :: known :=
      List.cons_subset.mpr ⟨List.mem_cons_self, List.nil_subset _⟩
    have scaled := uses_scaled given' directed speed
    have declared : ["vec3", "f32"] ⊆ known := List.Subset.trans (by decide) given
    have turned : ["normal", "si", "locked_axis_sign"] ⊆ "normal" :: known :=
      List.cons_subset_cons "normal" (List.Subset.trans (by decide) framed)
    exact inScope_cons_iff.mpr ⟨declared, List.singleton_disjoint.mpr unused,
      inScope_cons_iff.mpr ⟨turned, List.disjoint_nil_left _,
        inScope_velocity given' (uses_rotated given' scaled (List.mem_cons_of_mem _ rotated))⟩⟩
  | radial speed =>
    have placed : position.words ⊆ known := List.Subset.trans (by decide) given
    exact inScope_velocity given (uses_scaled given placed speed)
  | frame x y z =>
    exact inScope_velocity given (uses_rotated given (uses_vectorExpr given x y z) rotated)
  | world x y z => exact inScope_velocity given (uses_vectorExpr given x y z)

/-- The move to the center only uses what was declared before. -/
theorem inScope_translation (center : "c" ∈ known) :
    inScope known [Statement.words (.assign position (position + Local.center))] = true := by
  refine inScope_cons_iff.mpr ⟨?_, List.disjoint_nil_left known, rfl⟩
  have parts : usedNames (Statement.words (.assign position (position + Local.center))) =
      ["ret", ".pos", "ret", ".pos"] ++ ["c"] := rfl
  rw [parts]
  exact List.append_subset.mpr
    ⟨List.Subset.trans (by decide) given, List.cons_subset.mpr ⟨center, List.nil_subset known⟩⟩

end

theorem inScope_map_append (known : List String) (first second : Block) :
    inScope known ((first ++ second).map Statement.words) =
      (inScope known (first.map Statement.words) &&
        inScope (knownAfter known (first.map Statement.words)) (second.map Statement.words)) := by
  rw [List.map_append, inScope_append]

theorem knownAfter_map_append (known : List String) (first second : Block) :
    knownAfter known ((first ++ second).map Statement.words) =
      knownAfter (knownAfter known (first.map Statement.words)) (second.map Statement.words) := by
  rw [List.map_append, knownAfter, List.foldl_append, knownAfter, knownAfter]

theorem Spawner.inScope_statements (spawner : Spawner Components) :
    inScope shaderNames (spawner.statements.map Statement.words) = true := by
  have given (block : Block) : shaderNames ⊆ knownAfter shaderNames (block.map Statement.words) :=
    subset_knownAfter shaderNames _
  rcases spawner with ⟨shape, center, rotation, speed, dimension⟩
  cases shape with
  | circle radius =>
    refine (inScope_map_append _ _ _).trans (Bool.and_eq_true_iff.mpr
      ⟨?_, inScope_roundVelocity (given _) (List.contains_iff_mem.mp ?_)
        (not_mem_of_contains ?_) _ _⟩) <;> cases dimension <;> rfl
  | sphere radius =>
    refine (inScope_map_append _ _ _).trans (Bool.and_eq_true_iff.mpr
      ⟨?_, inScope_roundVelocity (given _) (List.contains_iff_mem.mp ?_)
        (not_mem_of_contains ?_) _ _⟩) <;> cases dimension <;> rfl
  | cube extents =>
    refine (inScope_map_append _ _ _).trans (Bool.and_eq_true_iff.mpr ⟨?_, ?_⟩)
    · refine (inScope_map_append _ _ _).trans (Bool.and_eq_true_iff.mpr
        ⟨?_, inScope_boxVelocity (given _) ?_ (not_mem_of_contains ?_) _⟩)
      · cases dimension <;> rfl
      · cases dimension <;> exact of_decide_eq_true rfl
      · cases dimension <;> rfl
    · refine inScope_translation (given _) ?_
      rw [knownAfter_map_append]
      refine subset_knownAfter _ _ (List.contains_iff_mem.mp ?_)
      cases dimension <;> rfl

/-! ## Assignments -/

theorem exists_mem_roundVelocity (rotation : Components) (speed : Speed) :
    Exists fun value => Statement.assign velocity value ∈ roundVelocity rotation speed := by
  cases speed with
  | frame x y z => exact ⟨_, List.mem_cons_of_mem _ List.mem_cons_self⟩
  | _ => exact ⟨_, List.mem_cons_self⟩

theorem exists_mem_boxVelocity (speed : Speed) :
    Exists fun value => Statement.assign velocity value ∈ boxVelocity speed := by
  cases speed with
  | normal speed =>
    exact ⟨_, List.mem_cons_of_mem _ (List.mem_cons_of_mem _ List.mem_cons_self)⟩
  | _ => exact ⟨_, List.mem_cons_self⟩

/-- The velocity is assigned before the last statement of a box. -/
theorem exists_cubeBlock (spawner : Spawner Components) (extents : Components) :
    Exists fun before : Block => cubeBlock spawner extents =
        before ++ [.assign position (position + Local.center)] ∧
      Exists fun value => Statement.assign velocity value ∈ before := by
  rcases exists_mem_boxVelocity spawner.speed with ⟨value, within⟩
  exact ⟨_, rfl, value, List.mem_append_right _ within⟩

theorem Spawner.exists_position_mem (spawner : Spawner Components) :
    Exists fun value => Statement.assign position value ∈ spawner.statements := by
  rcases spawner with ⟨shape, center, rotation, speed, dimension⟩
  cases shape with
  | circle radius =>
    exact ⟨_, List.mem_append_left _ (List.mem_of_getLast? (a := roundPosition) rfl)⟩
  | sphere radius =>
    exact ⟨_, List.mem_append_left _ (List.mem_of_getLast? (a := roundPosition) rfl)⟩
  | cube extents => exact ⟨_, List.mem_append_right _ List.mem_cons_self⟩

theorem Spawner.exists_velocity_mem (spawner : Spawner Components) :
    Exists fun value => Statement.assign velocity value ∈ spawner.statements := by
  rcases spawner with ⟨shape, center, rotation, speed, dimension⟩
  cases shape with
  | circle radius =>
    rcases exists_mem_roundVelocity rotation speed with ⟨value, within⟩
    exact ⟨value, List.mem_append_right _ within⟩
  | sphere radius =>
    rcases exists_mem_roundVelocity rotation speed with ⟨value, within⟩
    exact ⟨value, List.mem_append_right _ within⟩
  | cube extents =>
    rcases exists_mem_boxVelocity speed with ⟨value, within⟩
    exact ⟨value, List.mem_append_left _ (List.mem_append_right _ within)⟩

/-! ## Whole texts -/

/-- The lines of a position are its statements between its titles. -/
theorem Spawner.lines_block (spawner : Spawner Components) :
    spawner.block.lines = ("// >>> [" ++ spawner.shape.title ++ "]") ::
      Block.lines spawner.statements ++ ["// <<< [" ++ spawner.shape.title ++ "]"] := by
  rw [Spawner.block, Block.lines, List.cons_append, List.map_cons, List.map_append]
  cases spawner.shape <;> rfl

theorem Spawner.positionCode_eq_join (spawner : Spawner Components) :
    spawner.positionCode =
      String.join (spawner.block.lines.map fun line => "    " ++ line ++ "\n") := by
  refine blockText_eq_join (List.cons_ne_nil _ _) fun line member => ?_
  rcases List.mem_map.mp member with ⟨statement, _, rfl⟩
  exact statement.isEmpty_line

/-- What the statements print is printed in the block. -/
theorem Spawner.mem_literals_block {spawner : Spawner Components} {x : Single}
    (member : x ∈ Block.literals spawner.statements) : x ∈ spawner.block.literals := by
  rcases List.mem_flatMap.mp member with ⟨statement, within, printed⟩
  exact List.mem_flatMap.mpr ⟨statement,
    List.mem_append_left _ (List.mem_cons_of_mem _ within), printed⟩

/-- The text of a position is a block of closed statements in which every name is known, as
long as all the numbers in it are finite. -/
theorem positionCode_is_well_scoped (spawner : Spawner Components)
    (finite : forall x, x ∈ spawner.block.literals -> x.isFinite = true) :
    Exists fun lines : List String =>
      spawner.positionCode = String.join
        ((("// >>> [" ++ spawner.shape.title ++ "]") :: lines ++
          ["// <<< [" ++ spawner.shape.title ++ "]"]).map fun line => "    " ++ line ++ "\n") ∧
      (forall line, line ∈ lines -> IsStatementLine line) ∧
      IsWellScoped shaderNames (lines.map fun line => words line.toList) ∧
      Assigns "ret.pos" lines ∧ Assigns "ret.vel" lines ∧
      forall extents, spawner.shape = .cube extents -> Exists fun before =>
        lines = before ++ ["ret.pos = ret.pos + c;"] ∧ Assigns "ret.vel" before := by
  have spelled := spawner.isWellSpelled_statements
  have finite_statements (x : Single) (member : x ∈ Block.literals spawner.statements) :
      x.isFinite = true := finite x (Spawner.mem_literals_block member)
  rcases spawner.exists_position_mem with ⟨place, position_mem⟩
  rcases spawner.exists_velocity_mem with ⟨speed, velocity_mem⟩
  refine ⟨Block.lines spawner.statements, ?_,
    Block.isStatementLine spawner.isPlain_statements spelled, ?_,
    Block.assigns_of_mem position_mem, Block.assigns_of_mem velocity_mem, fun extents isCube => ?_⟩
  · rw [spawner.positionCode_eq_join, spawner.lines_block]
  · rw [Block.words_lines spelled finite_statements]
    exact isWellScoped_of_inScope spawner.inScope_statements
  · rcases exists_cubeBlock spawner extents with ⟨before, same, value, within⟩
    rw [Spawner.statements, isCube]
    dsimp only
    rw [same]
    exact ⟨_, List.map_append, Block.assigns_of_mem within⟩

/-- A turned box with a drawn speed along its normal. -/
def turnedBox : Spawner Components where
  shape := .cube (.ofNumbers [1, 2, 0.5])
  center := .ofNumbers [0, -1e21, 0]
  rotation := .ofNumbers [0, 0.7071, 0, 0.7071]
  speed := .normal (.uniform 1 2)
  dimension := .volume

theorem turnedBox_is_well_scoped :
    (forall x, x ∈ turnedBox.block.literals -> x.isFinite = true) ∧
    Exists fun lines : List String => turnedBox.positionCode = String.join
        (("// >>> [PositionCubeModifier]" :: lines ++ ["// <<< [PositionCubeModifier]"]).map
          fun line => "    " ++ line ++ "\n") ∧
      (forall line, line ∈ lines -> IsStatementLine line) ∧
      IsWellScoped shaderNames (lines.map fun line => words line.toList) ∧
      Exists fun before =>
        lines = before ++ ["ret.pos = ret.pos + c;"] ∧ Assigns "ret.vel" before := by
  have finite : forall x, x ∈ turnedBox.block.literals -> x.isFinite = true := by decide +kernel
  rcases positionCode_is_well_scoped turnedBox finite with
    ⟨lines, text, statements, names, _, _, cube⟩
  exact ⟨finite, lines, text, statements, names, cube _ rfl⟩

end Spawn
end ParticleEffects
