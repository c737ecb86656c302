import ParticleEffects.Proofs.PositionText

namespace ParticleEffects

/-!
Blocks and values read back from their texts.

A block is read line by line: its text is split at the line breaks, nothing follows the last one,
and a line that is not empty stands behind four blanks.  What is read is what was written, empty
lines included, as long as no line has a break of its own.  The text of a value tells whether it
is drawn, and its literals; a sign is told from an operator, which stands between blanks.
-/

open Number

namespace Wgsl

/-- A line without its indentation, which only an empty line lacks. -/
def readLine? : List Char -> Option String
  | [] => some ""
  | ' ' :: ' ' :: ' ' :: ' ' :: line => some (String.ofList line)
  | _ => none

/-- The lines of a block; no other text ends with a line break and is indented. -/
def readLines? (text : String) : Option (List String) :=
  let pieces := text.toList.splitOn '\n'
  if pieces.getLast? = some [] then pieces.dropLast.mapM readLine? else none

theorem readLine?_indent (line : String) : readLine? (indent line).toList = some line := by
  unfold indent
  split
  · rename_i empty
    rw [String.isEmpty_iff.mp empty]
    rfl
  · rw [String.toList_append]
    exact congrArg some String.ofList_toList

/-- The text of a block is split into its indented lines, behind which nothing is left. -/
theorem splitOn_blockText {lines : List String} (some_line : lines ≠ [])
    (oneLine : forall line, line ∈ lines -> Lacks '\n' line) :
    (blockText lines).toList.splitOn '\n' =
      (lines.map fun line => (indent line).toList) ++ [[]] := by
  have text : (blockText lines).toList = ("\n".intercalate (lines.map indent)).toList ++ ['\n'] :=
    String.toList_append
  rw [text, List.splitOn_eq_splitOnP, List.splitOnP_append_cons (p := (· == '\n')) _ _ rfl,
    ← List.splitOn_eq_splitOnP, splitOn_intercalate_indent some_line oneLine, List.map_map]
  rfl

/-- What was written as a block is read as its lines. -/
theorem readLines?_blockText {lines : List String} (some_line : lines ≠ [])
    (oneLine : forall line, line ∈ lines -> Lacks '\n' line) :
    readLines? (blockText lines) = some lines := by
  have read : readLine? ∘ (fun line => (indent line).toList) = fun line => some line :=
    funext readLine?_indent
  rw [readLines?, splitOn_blockText some_line oneLine, List.getLast?_concat, List.dropLast_concat,
    if_pos rfl, List.mapM_map, read]
  exact List.mapM_pure.trans (congrArg some (List.map_id lines))

/-- An empty line is read where it stands. -/
example : readLines? "    let a = 1.;\n\n    let b = a;\n" = some ["let a = 1.;", "", "let b = a;"] := by
  decide +kernel

end Wgsl

namespace Spawn

open Wgsl

/-- Blocks are read back as their lines.  Values have the same text only if they are of the same
kind with the same literals, and so have vectors of values. -/
theorem blocks_and_values_are_read_back :
    (forall lines : List String, lines ≠ [] -> (forall line, line ∈ lines -> Lacks '\n' line) ->
      readLines? (blockText lines) = some lines) ∧
    (forall value other : Value, value.expr.text = other.expr.text ↔ value.Alike other) ∧
    forall x y z x' y' z' : Value, (vectorExpr x y z).text = (vectorExpr x' y' z').text ↔
      x.Alike x' ∧ y.Alike y' ∧ z.Alike z' :=
  ⟨fun _ => readLines?_blockText, text_value_inj, text_vectorExpr_inj⟩

theorem statements_with_gap_are_read_back :
    ["let a = -1.;", "", "let b = a;"] ≠ [] ∧
      (forall line, line ∈ ["let a = -1.;", "", "let b = a;"] -> Lacks '\n' line) ∧
      readLines? (blockText ["let a = -1.;", "", "let b = a;"]) =
        some ["let a = -1.;", "", "let b = a;"] ∧
      (Value.uniform (-1) (1 / 0)).expr.text ≠ (Value.uniform 1 (1 / 0)).expr.text := by
  have some_line : ["let a = -1.;", "", "let b = a;"] ≠ [] := List.cons_ne_nil _ _
  have oneLine : forall line, line ∈ ["let a = -1.;", "", "let b = a;"] -> Lacks '\n' line := by
    decide
  have different : literalText (-1) ≠ literalText 1 := by decide +kernel
  rcases blocks_and_values_are_read_back with ⟨blocks, values, _⟩
  exact ⟨some_line, oneLine, blocks _ some_line oneLine,
    fun same => different ((values _ _).mp same).1⟩

end Spawn

end ParticleEffects
