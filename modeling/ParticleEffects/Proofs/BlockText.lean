import Mathlib.Data.List.Basic
import ParticleEffects.Proofs.LiteralText
import ParticleEffects.Wgsl.Block

namespace ParticleEffects
namespace Wgsl

/-!
What can be read back from the text of a block.

A text is taken apart at a character that its first part lacks.  A block is taken apart
into lines, since no statement has a line break; a call into its arguments, where these
lack commas; and literals lack every character that stands between two of them.
-/

open Number Spatial

/-! ## Parts of a text -/

/-- A text in which a character does not occur. -/
def Lacks (character : Char) (text : String) : Prop := character ∉ text.toList

instance (character : Char) (text : String) : Decidable (Lacks character text) :=
  inferInstanceAs (Decidable (character ∉ text.toList))

theorem lacks_append_iff {character : Char} {text rest : String} :
    Lacks character (text ++ rest) ↔ Lacks character text ∧ Lacks character rest := by
  simp [Lacks, not_or]

theorem Lacks.append {character : Char} {text rest : String} (first : Lacks character text)
    (second : Lacks character rest) : Lacks character (text ++ rest) :=
  lacks_append_iff.mpr ⟨first, second⟩

theorem append_cons_inj {character : Char} {text other rest rest' : List Char}
    (lacks : character ∉ text) (lacks' : character ∉ other)
    (same : text ++ character :: rest = other ++ character :: rest') :
    text = other ∧ rest = rest' := by
  induction text generalizing other with
  | nil =>
    cases other with
    | nil => exact ⟨rfl, (List.cons.inj same).2⟩
    | cons first others =>
      exact absurd (List.cons.inj same).1 (List.ne_of_not_mem_cons lacks')
  | cons first following inductionHypothesis =>
    cases other with
    | nil => exact absurd (List.cons.inj same).1.symm (List.ne_of_not_mem_cons lacks)
    | cons second others =>
      rcases List.cons.inj same with ⟨rfl, remaining⟩
      rcases inductionHypothesis (List.not_mem_of_not_mem_cons lacks)
        (List.not_mem_of_not_mem_cons lacks') remaining with ⟨rfl, rests⟩
      exact ⟨rfl, rests⟩

/-- Two parts are told apart by a separator that begins with a character that the first
part lacks. -/
theorem append_inj_of_lacks {character : Char} {separator : String}
    (begins : separator.toList.head? = some character) {text other rest rest' : String}
    (lacks : Lacks character text) (lacks' : Lacks character other) :
    text ++ (separator ++ rest) = other ++ (separator ++ rest') ↔ text = other ∧ rest = rest' := by
  constructor
  · intro same
    rcases List.head?_eq_some_iff.mp begins with ⟨following, split⟩
    have characters := congrArg String.toList same
    simp only [String.toList_append, split, List.cons_append] at characters
    rcases append_cons_inj lacks lacks' characters with ⟨first, second⟩
    exact ⟨String.toList_inj.mp first, String.toList_inj.mp (List.append_cancel_left second)⟩
  · rintro ⟨rfl, rfl⟩
    rfl

/-- Texts that begin in different ways are different. -/
theorem append_ne_append {first second : String} (count : Nat)
    (apart : first.toList.take count ≠ second.toList.take count ∧
      count <= first.toList.length ∧ count <= second.toList.length) (rest rest' : String) :
    first ++ rest ≠ second ++ rest' := by
  intro same
  have fronts := congrArg (fun text : String => text.toList.take count) same
  simp only [String.toList_append, List.take_append_of_le_length apart.2.1,
    List.take_append_of_le_length apart.2.2] at fronts
  exact apart.1 fronts

/-! ## Lines of a block -/

theorem indent_injective : Function.Injective indent := by
  intro line other same
  unfold indent at same
  split at same <;> split at same <;> rename_i first second
  · exact same
  · rw [String.isEmpty_iff.mp first] at same
    simp at same
  · rw [String.isEmpty_iff.mp second] at same
    simp at same
  · exact (String.append_right_inj _).mp same

theorem lacks_indent {line : String} (lacks : Lacks '\n' line) : Lacks '\n' (indent line) := by
  unfold indent
  split
  · exact lacks
  · exact Lacks.append (by decide) lacks

/-- A text of lines is taken apart at its line breaks. -/
theorem splitOn_intercalate_indent {lines : List String} (some : lines ≠ [])
    (oneLine : forall line, line ∈ lines -> Lacks '\n' line) :
    ("\n".intercalate (lines.map indent)).toList.splitOn '\n' =
      (lines.map indent).map String.toList := by
  rw [String.toList_intercalate]
  refine List.splitOn_intercalate '\n' (fun characters member => ?_) (by simpa using some)
  rcases List.mem_map.mp member with ⟨_, indented, rfl⟩
  rcases List.mem_map.mp indented with ⟨line, within, rfl⟩
  exact lacks_indent (oneLine line within)

/-- A block can be taken apart into its lines. -/
theorem blockText_inj {lines others : List String} (some : lines ≠ []) (some' : others ≠ [])
    (oneLine : forall line, line ∈ lines -> Lacks '\n' line)
    (oneLine' : forall line, line ∈ others -> Lacks '\n' line) :
    blockText lines = blockText others ↔ lines = others := by
  constructor
  · intro same
    have texts := congrArg String.toList ((String.append_left_inj _).mp same)
    have split := congrArg (List.splitOn '\n') texts
    rw [splitOn_intercalate_indent some oneLine, splitOn_intercalate_indent some' oneLine'] at split
    exact List.map_injective_iff.mpr indent_injective
      (List.map_injective_iff.mpr (fun _ _ => String.toList_inj.mp) split)
  · rintro rfl
    rfl

/-! ## Statements on one line -/

mutual

/-- Whether the names in an expression have no line breaks. -/
def Expr.isPlain : Expr -> Bool
  | .literal _ | .whole _ | .fraction .. | .unsigned _ | .ordinal _ => true
  | .name identifier => decide (Lacks '\n' identifier)
  | .member base field => base.isPlain && decide (Lacks '\n' field)
  | .element base index => base.isPlain && index.isPlain
  | .binary _ left right => left.isPlain && right.isPlain
  | .group inner => inner.isPlain
  | .call function arguments => decide (Lacks '\n' function) && argumentsPlain arguments

def argumentsPlain : List Expr -> Bool
  | [] => true
  | argument :: rest => argument.isPlain && argumentsPlain rest

end

def Statement.isPlain : Statement -> Bool
  | .comment text => decide (Lacks '\n' text)
  | .constant name value | .mutable name value => decide (Lacks '\n' name) && value.isPlain
  | .assign target value => target.isPlain && value.isPlain

/-- A literal lacks what no literal is written with. -/
theorem lacks_literal {character : Char} (special : isLiteralCharacter character = false)
    (x : Single) : Lacks character (Expr.literal x).text := by
  intro member
  rw [Expr.text, String.toList_ofList] at member
  exact absurd (ofLiteral_literal x character member) (Bool.eq_false_iff.mp special)

theorem lacks_natural {character : Char} (special : isLiteralCharacter character = false)
    (n : Nat) : Lacks character (toString n) := by
  intro member
  rw [Nat.toString_eq_repr, Nat.toList_repr] at member
  exact absurd (OfLiteral.toDigits n character member) (Bool.eq_false_iff.mp special)

theorem lacks_integer {character : Char} (special : isLiteralCharacter character = false)
    (n : Int) : Lacks character (toString n) := by
  cases n with
  | ofNat n => exact lacks_natural special n
  | negSucc n =>
    have sign : Lacks character "-" := by
      intro member
      rw [List.mem_singleton.mp member] at special
      cases special
    exact sign.append (lacks_natural special (n + 1))

theorem lacks_symbol (operator : Operator) : Lacks '\n' operator.symbol := by
  cases operator <;> decide

mutual

/-- The text of an expression is on one line, as its names are. -/
theorem Expr.lacks_text :
    forall expr : Expr, expr.isPlain = true -> Lacks '\n' expr.text
  | .literal x, _ => lacks_literal (by decide) x
  | .whole n, _ => (lacks_integer (by decide) n).append (by decide)
  | .fraction numerator denominator, _ =>
    (((lacks_natural (by decide) numerator).append (by decide)).append
      (lacks_natural (by decide) denominator)).append (by decide)
  | .unsigned n, _ => (lacks_natural (by decide) n).append (by decide)
  | .ordinal n, _ => lacks_natural (by decide) n
  | .name identifier, plain => of_decide_eq_true plain
  | .member base field, plain => by
    rcases Bool.and_eq_true_iff.mp plain with ⟨plainBase, plainField⟩
    exact ((Expr.lacks_text base plainBase).append (by decide)).append (of_decide_eq_true plainField)
  | .element base index, plain => by
    rcases Bool.and_eq_true_iff.mp plain with ⟨plainBase, plainIndex⟩
    exact (((Expr.lacks_text base plainBase).append (by decide)).append
      (Expr.lacks_text index plainIndex)).append (by decide)
  | .binary operator left right, plain => by
    rcases Bool.and_eq_true_iff.mp plain with ⟨plainLeft, plainRight⟩
    exact ((((Expr.lacks_text left plainLeft).append (by decide)).append
      (lacks_symbol operator)).append (by decide)).append (Expr.lacks_text right plainRight)
  | .group inner, plain =>
    ((by decide : Lacks '\n' "(").append (Expr.lacks_text inner plain)).append (by decide)
  | .call function arguments, plain => by
    rcases Bool.and_eq_true_iff.mp plain with ⟨plainFunction, plainArguments⟩
    exact (((of_decide_eq_true plainFunction).append (by decide)).append
      (lacks_argumentsText arguments plainArguments)).append (by decide)

theorem lacks_argumentsText :
    forall arguments : List Expr, argumentsPlain arguments = true ->
      Lacks '\n' (Expr.argumentsText arguments)
  | [], _ => by decide
  | [argument], plain => Expr.lacks_text argument (Bool.and_eq_true_iff.mp plain).1
  | argument :: other :: rest, plain => by
    rcases Bool.and_eq_true_iff.mp plain with ⟨first, others⟩
    exact ((Expr.lacks_text argument first).append (by decide)).append
      (lacks_argumentsText (other :: rest) others)

end

theorem Statement.lacks_line (statement : Statement) (plain : statement.isPlain = true) :
    Lacks '\n' statement.line := by
  have closing : Lacks '\n' ";" := by decide
  cases statement with
  | comment text => exact Lacks.append (by decide) (of_decide_eq_true plain)
  | constant name value =>
    rcases Bool.and_eq_true_iff.mp plain with ⟨plainName, plainValue⟩
    exact ((((by decide : Lacks '\n' "let ").append (of_decide_eq_true plainName)).append
      (by decide)).append (value.lacks_text plainValue)).append closing
  | mutable name value =>
    rcases Bool.and_eq_true_iff.mp plain with ⟨plainName, plainValue⟩
    exact ((((by decide : Lacks '\n' "var ").append (of_decide_eq_true plainName)).append
      (by decide)).append (value.lacks_text plainValue)).append closing
  | assign target value =>
    rcases Bool.and_eq_true_iff.mp plain with ⟨plainTarget, plainValue⟩
    exact (((target.lacks_text plainTarget).append (by decide)).append
      (value.lacks_text plainValue)).append closing

/-- The text of a block can be taken apart into its lines. -/
theorem Block.text_inj {block other : Block} (some : block ≠ []) (some' : other ≠ [])
    (plain : block.all Statement.isPlain = true) (plain' : other.all Statement.isPlain = true) :
    block.text = other.text ↔ block.lines = other.lines := by
  have oneLine {block : Block} (plain : block.all Statement.isPlain = true) :
      forall line, line ∈ block.lines -> Lacks '\n' line := by
    intro line member
    rcases List.mem_map.mp member with ⟨statement, within, rfl⟩
    exact statement.lacks_line (List.all_eq_true.mp plain statement within)
  exact blockText_inj (by simpa [lines] using some) (by simpa [lines] using some') (oneLine plain)
    (oneLine plain')

/-! ## Statements with the same target -/

namespace Statement

theorem line_constant_inj {name : String} {value other : Expr} :
    (constant name value).line = (constant name other).line ↔ value.text = other.text := by
  simp [line]

theorem line_assign_inj {target value other : Expr} :
    (assign target value).line = (assign target other).line ↔ value.text = other.text := by
  simp [line]

end Statement

/-! ## Arguments -/

namespace Expr

theorem text_vec3 (x y z : Expr) : (vec3 x y z).text =
    "vec3<f32>(" ++ (x.text ++ (", " ++ (y.text ++ (", " ++ z.text)))) ++ ")" := by
  simp [vec3, text, argumentsText, String.append_assoc]

theorem text_quat (x y z w : Expr) : (call "vec4<f32>" [x, y, z, w]).text =
    "vec4<f32>(" ++
      (x.text ++ (", " ++ (y.text ++ (", " ++ (z.text ++ (", " ++ w.text)))))) ++ ")" := by
  simp [text, argumentsText, String.append_assoc]

/-- What begins with another character is the text of no vector. -/
theorem append_ne_vec3 {front : String}
    (apart : front.toList.take 1 ≠ ['v'] ∧ 1 <= front.toList.length) (rest : String)
    (x y z : Expr) : front ++ rest ≠ (vec3 x y z).text := by
  rw [text_vec3, String.append_assoc]
  exact append_ne_append 1 ⟨apart.1, apart.2, by decide⟩ _ _

/-- A vector is taken apart at its commas. -/
theorem text_vec3_inj {x y z x' y' z' : Expr}
    (lacks : Lacks ',' x.text ∧ Lacks ',' y.text) (lacks' : Lacks ',' x'.text ∧ Lacks ',' y'.text) :
    (vec3 x y z).text = (vec3 x' y' z').text ↔
      x.text = x'.text ∧ y.text = y'.text ∧ z.text = z'.text := by
  rw [text_vec3, text_vec3, String.append_left_inj, String.append_right_inj,
    append_inj_of_lacks rfl lacks.1 lacks'.1, append_inj_of_lacks rfl lacks.2 lacks'.2]

/-- The literals of a vector can be read off its text. -/
theorem text_ofVec3_inj (v w : Vec3 Single) :
    (ofVec3 v).text = (ofVec3 w).text ↔
      v.map singleText = w.map singleText := by
  have comma := lacks_literal (by decide : isLiteralCharacter ',' = false)
  rw [ofVec3, ofVec3, text_vec3_inj ⟨comma _, comma _⟩ ⟨comma _, comma _⟩]
  simp [Vec3.map, text, singleText]

/-- The literals of a quaternion can be read off its text. -/
theorem text_ofQuat_inj (q r : Quat Single) :
    (ofQuat q).text = (ofQuat r).text ↔
      q.map singleText = r.map singleText := by
  have comma := lacks_literal (by decide : isLiteralCharacter ',' = false)
  rw [ofQuat, ofQuat, text_quat, text_quat, String.append_left_inj, String.append_right_inj,
    append_inj_of_lacks rfl (comma _) (comma _), append_inj_of_lacks rfl (comma _) (comma _),
    append_inj_of_lacks rfl (comma _) (comma _)]
  simp [Quat.map, text, singleText]

end Expr

end Wgsl
end ParticleEffects
