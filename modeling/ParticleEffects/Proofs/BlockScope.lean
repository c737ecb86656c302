import ParticleEffects.Proofs.StatementWords

namespace ParticleEffects
namespace Wgsl

/-!
Blocks of closed statements in which every name is known.

A line that is a statement ends with a semicolon, and its brackets are closed.  A name is
declared in one line only, and what a line uses is given from outside or was declared in an
earlier line.  Whether it is so can be checked on the words of the lines, one after the other.
-/

open Number

/-! ## Scope -/

/-- The name that the words of a line declare, if they do. -/
def declaredNames : List String -> List String
  | "let" :: name :: _ | "var" :: name :: _ => [name]
  | _ => []

/-- The names that the words of a line use. -/
def usedNames : List String -> List String
  | "let" :: _ :: used | "var" :: _ :: used => used
  | used => used

/-- No name is declared twice, and none is used before. -/
structure IsWellScoped (given : List String) (lines : List (List String)) : Prop where
  declared_once : (lines.flatMap declaredNames).Nodup
  declared_before : forall before line after, lines = before ++ line :: after ->
    forall name, name ∈ usedNames line -> name ∈ given ∨ name ∈ before.flatMap declaredNames

/-- Whether lines use known names only and declare new ones only. -/
def inScope (known : List String) : List (List String) -> Bool
  | [] => true
  | line :: rest =>
    (usedNames line).all known.contains && (declaredNames line).all (!known.contains ·) &&
      inScope (declaredNames line ++ known) rest

/-- The names that are known after some lines. -/
def knownAfter (known : List String) (lines : List (List String)) : List String :=
  lines.foldl (fun known line => declaredNames line ++ known) known

theorem inScope_append (known : List String) (first second : List (List String)) :
    inScope known (first ++ second) =
      (inScope known first && inScope (knownAfter known first) second) := by
  induction first generalizing known with
  | nil => rfl
  | cons line first inductionHypothesis =>
    simp only [List.cons_append, inScope, inductionHypothesis, Bool.and_assoc]
    rfl

/-- Nothing that is known is forgotten. -/
theorem subset_knownAfter (known : List String) (lines : List (List String)) :
    known ⊆ knownAfter known lines := by
  induction lines generalizing known with
  | nil => exact List.Subset.refl known
  | cons line lines inductionHypothesis =>
    exact List.Subset.trans (List.subset_append_right _ known) (inductionHypothesis _)

theorem nodup_declaredNames (line : List String) : (declaredNames line).Nodup := by
  unfold declaredNames
  split
  · exact List.nodup_singleton _
  · exact List.nodup_singleton _
  · exact List.nodup_nil

section

variable {known : List String} {line : List String} {lines rest : List (List String)}

theorem inScope_cons_iff : inScope known (line :: rest) = true ↔
    usedNames line ⊆ known ∧ (declaredNames line).Disjoint known ∧
      inScope (declaredNames line ++ known) rest = true := by
  simp [inScope, and_assoc, List.subset_def, List.disjoint_left]

/-- Names are declared once, and none that was known before. -/
theorem nodup_of_inScope (checked : inScope known lines = true) :
    (lines.flatMap declaredNames).Nodup ∧ (lines.flatMap declaredNames).Disjoint known := by
  induction lines generalizing known with
  | nil => exact ⟨List.nodup_nil, List.disjoint_nil_left _⟩
  | cons line rest inductionHypothesis =>
    rcases inScope_cons_iff.mp checked with ⟨_, new, others⟩
    rcases inductionHypothesis others with ⟨once, different⟩
    rcases List.disjoint_append_right.mp different with ⟨apart, unknown⟩
    rw [List.flatMap_cons]
    exact ⟨(nodup_declaredNames line).append once apart.symm,
      List.disjoint_append_left.mpr ⟨new, unknown⟩⟩

/-- What a line uses was known or has been declared. -/
theorem known_of_inScope (checked : inScope known lines = true) {before after : List (List String)}
    (split : lines = before ++ line :: after) {name : String} (used : name ∈ usedNames line) :
    name ∈ known ∨ name ∈ before.flatMap declaredNames := by
  subst split
  induction before generalizing known with
  | nil => exact .inl ((inScope_cons_iff.mp checked).1 used)
  | cons first before inductionHypothesis =>
    rcases inScope_cons_iff.mp checked with ⟨_, _, others⟩
    rw [List.flatMap_cons, List.mem_append]
    rcases inductionHypothesis others with found | declared
    · exact (List.mem_append.mp found).elim (fun here => .inr (.inl here)) .inl
    · exact .inr (.inr declared)

theorem isWellScoped_of_inScope (checked : inScope known lines = true) :
    IsWellScoped known lines where
  declared_once := (nodup_of_inScope checked).1
  declared_before := fun _ _ _ split _ used => known_of_inScope checked split used

end

/-! ## Blocks -/

/-- A line of the shader that is a statement. -/
structure IsStatementLine (line : String) : Prop where
  one_line : Lacks '\n' line
  ends : Exists fun front => line = front ++ ";"
  balanced : Balanced line.toList

/-- Whether one of the lines assigns to a target. -/
def Assigns (target : String) (lines : List String) : Prop :=
  Exists fun line => line ∈ lines ∧ Exists fun value => line = target ++ (" = " ++ value)

theorem Statement.isEmpty_line (statement : Statement) : statement.line.isEmpty = false := by
  rw [← Bool.not_eq_true, String.isEmpty_iff]
  cases statement <;> simp [line]

namespace Block

def literals (block : Block) : List Single := block.flatMap Statement.literals

variable {block : Block}

theorem isStatementLine (plain : block.all Statement.isPlain = true)
    (spelled : block.all Statement.isWellSpelled = true) :
    forall line, line ∈ block.lines -> IsStatementLine line := by
  intro line member
  rcases List.mem_map.mp member with ⟨statement, within, rfl⟩
  have statement_spelled := List.all_eq_true.mp spelled statement within
  exact ⟨statement.lacks_line (List.all_eq_true.mp plain statement within),
    statement.exists_line statement_spelled, statement.balanced_line statement_spelled⟩

/-- The words of the lines are those of the statements. -/
theorem words_lines (spelled : block.all Statement.isWellSpelled = true)
    (finite : forall x, x ∈ block.literals -> x.isFinite = true) :
    block.lines.map (fun line => words line.toList) = block.map Statement.words := by
  rw [lines, List.map_map]
  refine List.map_congr_left fun statement within => ?_
  exact statement.words_line (List.all_eq_true.mp spelled statement within) fun x member =>
    finite x (List.mem_flatMap.mpr ⟨statement, within, member⟩)

theorem assigns_of_mem {target value : Expr} (within : .assign target value ∈ block) :
    Assigns target.text block.lines := by
  refine ⟨_, List.mem_map_of_mem within, value.text ++ ";", ?_⟩
  rw [Statement.line, String.append_assoc, String.append_assoc]

end Block

/-- The text of a block has each line behind four blanks and with a line break. -/
theorem blockText_eq_join {lines : List String} (some : lines ≠ [])
    (nonempty : forall line, line ∈ lines -> line.isEmpty = false) :
    blockText lines = String.join (lines.map fun line => "    " ++ line ++ "\n") := by
  induction lines with
  | nil => exact absurd rfl some
  | cons line rest inductionHypothesis =>
    have indented : indent line = "    " ++ line := by
      rw [indent, nonempty line List.mem_cons_self]
      rfl
    cases rest with
    | nil => simp [blockText, indented, String.join]
    | cons other rest =>
      have others := inductionHypothesis (List.cons_ne_nil other rest)
        fun line member => nonempty line (List.mem_cons_of_mem _ member)
      rw [List.map_cons, String.join_cons, ← others, blockText, List.map_cons, List.map_cons,
        String.intercalate_cons_cons, indented, blockText, List.map_cons, String.append_assoc]

end Wgsl
end ParticleEffects
