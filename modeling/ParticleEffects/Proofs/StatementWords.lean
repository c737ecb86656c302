import ParticleEffects.Proofs.ShaderWords

namespace ParticleEffects
namespace Wgsl

/-!
The words and the brackets of expressions and statements.

Expressions are printed from trees, and the words of a text are those of its tree from left to
right: the names are identifiers, what stands between them is delimiters, and finite numbers
have no words.
-/

open Number

/-! ## Spelling -/

mutual

/-- Whether the names in an expression are identifiers, members are only taken of names and
the name of a function has no brackets. -/
def Expr.isWellSpelled : Expr -> Bool
  | .literal _ | .whole _ | .fraction .. | .unsigned _ | .ordinal _ => true
  | .name identifier => isIdentifier identifier.toList
  | .member (.name base) field => isIdentifier base.toList && isIdentifier field.toList
  | .member _ _ => false
  | .element base index => base.isWellSpelled && index.isWellSpelled
  | .binary _ left right => left.isWellSpelled && right.isWellSpelled
  | .group inner => inner.isWellSpelled
  | .call function arguments =>
    function.toList.all (!isBracket ·) && argumentsWellSpelled arguments

def argumentsWellSpelled : List Expr -> Bool
  | [] => true
  | argument :: rest => argument.isWellSpelled && argumentsWellSpelled rest

end

/-! ## Words of expressions -/

mutual

/-- The numbers of single precision that an expression prints. -/
def Expr.literals : Expr -> List Single
  | .literal x => [x]
  | .whole _ | .fraction .. | .unsigned _ | .ordinal _ | .name _ => []
  | .member base _ => base.literals
  | .element base index => base.literals ++ index.literals
  | .binary _ left right => left.literals ++ right.literals
  | .group inner => inner.literals
  | .call _ arguments => argumentsLiterals arguments

def argumentsLiterals : List Expr -> List Single
  | [] => []
  | argument :: rest => argument.literals ++ argumentsLiterals rest

end

mutual

/-- The words of an expression from left to right. -/
def Expr.words : Expr -> List String
  | .literal _ | .whole _ | .fraction .. | .unsigned _ | .ordinal _ => []
  | .name identifier => [identifier]
  | .member base field => base.words ++ ["." ++ field]
  | .element base index => base.words ++ index.words
  | .binary _ left right => left.words ++ right.words
  | .group inner => inner.words
  | .call function arguments => Wgsl.words function.toList ++ argumentsWords arguments

def argumentsWords : List Expr -> List String
  | [] => []
  | argument :: rest => argument.words ++ argumentsWords rest

end

theorem words_whole (n : Int) : words (Expr.whole n).text.toList = [] := by
  rw [Expr.text, String.toList_append]
  cases n with
  | ofNat n => exact words_natural_append n rfl
  | negSucc n =>
    have sign : (toString (Int.negSucc n)).toList = '-' :: (toString (n + 1)).toList :=
      String.toList_append
    rw [sign, List.cons_append]
    exact words_natural_append (n + 1) rfl

theorem words_fraction (numerator denominator : Nat) :
    words (Expr.fraction numerator denominator).text.toList = [] := by
  have text : (Expr.fraction numerator denominator).text.toList =
      ((toString numerator).toList ++ ['.']) ++
        '/' :: ((toString denominator).toList ++ ['.']) := by
    simp [Expr.text]
  rw [text, words_append_delimiter (by decide), words_natural_append numerator rfl,
    words_natural_append denominator rfl]
  rfl

theorem words_symbol (operator : Operator) (rest : List Char) :
    words (operator.symbol.toList ++ ' ' :: rest) = words rest := by
  rw [words_append_delimiter (by decide)]
  cases operator <;> rfl

/-! ### Texts of composed expressions -/

namespace Expr

theorem toList_member (base : Expr) (field : String) :
    (member base field).text.toList = base.text.toList ++ '.' :: field.toList := by
  simp [text]

theorem toList_element (base index : Expr) :
    (element base index).text.toList =
      base.text.toList ++ '[' :: (index.text.toList ++ [']']) := by
  simp [text]

theorem toList_binary (operator : Operator) (left right : Expr) :
    (binary operator left right).text.toList =
      left.text.toList ++ ' ' :: (operator.symbol.toList ++ ' ' :: right.text.toList) := by
  simp [text]

theorem toList_group (inner : Expr) :
    (group inner).text.toList = '(' :: (inner.text.toList ++ [')']) := by
  simp [text]

theorem toList_call (function : String) (arguments : List Expr) :
    (call function arguments).text.toList =
      function.toList ++ '(' :: ((argumentsText arguments).toList ++ [')']) := by
  simp [text]

theorem toList_arguments (argument other : Expr) (rest : List Expr) :
    (argumentsText (argument :: other :: rest)).toList =
      argument.text.toList ++ ',' :: ' ' :: (argumentsText (other :: rest)).toList := by
  simp [argumentsText]

end Expr

mutual

/-- The words of an expression are those of its text, where all numbers are finite. -/
theorem Expr.words_text : forall expr : Expr, expr.isWellSpelled = true ->
    (forall x, x ∈ expr.literals -> x.isFinite = true) -> Wgsl.words expr.text.toList = expr.words
  | .literal x, _, finite => by
    rw [Expr.text, String.toList_ofList]
    exact words_literal (finite x List.mem_cons_self)
  | .whole n, _, _ => words_whole n
  | .fraction numerator denominator, _, _ => words_fraction numerator denominator
  | .unsigned n, _, _ => by
    rw [Expr.text, String.toList_append]
    exact words_natural_append n rfl
  | .ordinal n, _, _ => by
    rw [Expr.text, ← List.append_nil (toString n).toList]
    exact words_natural_append n rfl
  | .name identifier, spelled, _ => words_identifier spelled
  | .member (.name base) field, spelled, _ => by
    rcases Bool.and_eq_true_iff.mp spelled with ⟨base_spelled, field_spelled⟩
    rw [Expr.toList_member, Expr.text, words_member base_spelled field_spelled]
    rfl
  | .element base index, spelled, finite => by
    rcases Bool.and_eq_true_iff.mp spelled with ⟨base_spelled, index_spelled⟩
    rcases List.forall_mem_append.mp finite with ⟨base_finite, index_finite⟩
    rw [Expr.toList_element, words_append_delimiter (by decide), words_append_last (by decide),
      Expr.words_text base base_spelled base_finite,
      Expr.words_text index index_spelled index_finite]
    rfl
  | .binary operator left right, spelled, finite => by
    rcases Bool.and_eq_true_iff.mp spelled with ⟨left_spelled, right_spelled⟩
    rcases List.forall_mem_append.mp finite with ⟨left_finite, right_finite⟩
    rw [Expr.toList_binary, words_append_delimiter (by decide), words_symbol,
      Expr.words_text left left_spelled left_finite,
      Expr.words_text right right_spelled right_finite]
    rfl
  | .group inner, spelled, finite => by
    rw [Expr.toList_group, words_cons_delimiter (by decide), words_append_last (by decide),
      Expr.words_text inner spelled finite]
    rfl
  | .call function arguments, spelled, finite => by
    rcases Bool.and_eq_true_iff.mp spelled with ⟨_, arguments_spelled⟩
    rw [Expr.toList_call, words_append_delimiter (by decide), words_append_last (by decide),
      words_argumentsText arguments arguments_spelled finite]
    rfl

theorem words_argumentsText : forall arguments : List Expr, argumentsWellSpelled arguments = true ->
    (forall x, x ∈ argumentsLiterals arguments -> x.isFinite = true) ->
      Wgsl.words (Expr.argumentsText arguments).toList = argumentsWords arguments
  | [], _, _ => rfl
  | [argument], spelled, finite => by
    have first := Expr.words_text argument (Bool.and_eq_true_iff.mp spelled).1
      (List.forall_mem_append.mp finite).1
    exact first.trans (List.append_nil _).symm
  | argument :: other :: rest, spelled, finite => by
    rcases Bool.and_eq_true_iff.mp spelled with ⟨first_spelled, rest_spelled⟩
    rcases List.forall_mem_append.mp finite with ⟨first_finite, rest_finite⟩
    rw [Expr.toList_arguments, words_append_delimiter (by decide), words_cons_delimiter (by decide),
      Expr.words_text argument first_spelled first_finite,
      words_argumentsText (other :: rest) rest_spelled rest_finite]
    rfl

end

/-! ## Brackets of expressions -/

theorem Balanced.symbol (operator : Operator) : Balanced operator.symbol.toList := by
  cases operator <;> exact of_all rfl

mutual

/-- The brackets of an expression are closed. -/
theorem Expr.balanced_text : forall expr : Expr, expr.isWellSpelled = true ->
    Balanced expr.text.toList
  | .literal x, _ =>
    .of_lacks fun _ bracket => lacks_literal (not_isLiteralCharacter_of_isBracket bracket) x
  | .whole n, _ => by
    rw [Expr.text, String.toList_append]
    exact .append (.of_lacks fun _ bracket =>
      lacks_integer (not_isLiteralCharacter_of_isBracket bracket) n) (.of_all rfl)
  | .fraction numerator denominator, _ => by
    simp only [Expr.text, String.toList_append]
    exact (((balanced_natural numerator).append (.of_all rfl)).append
      (balanced_natural denominator)).append (.of_all rfl)
  | .unsigned n, _ => by
    rw [Expr.text, String.toList_append]
    exact (balanced_natural n).append (.of_all rfl)
  | .ordinal n, _ => balanced_natural n
  | .name identifier, spelled => balanced_identifier spelled
  | .member (.name base) field, spelled => by
    rcases Bool.and_eq_true_iff.mp spelled with ⟨base_spelled, field_spelled⟩
    rw [Expr.toList_member]
    exact (balanced_identifier base_spelled).append (.cons rfl (balanced_identifier field_spelled))
  | .element base index, spelled => by
    rcases Bool.and_eq_true_iff.mp spelled with ⟨base_spelled, index_spelled⟩
    rw [Expr.toList_element]
    exact (Expr.balanced_text base base_spelled).append
      (Expr.balanced_text index index_spelled).indexed
  | .binary operator left right, spelled => by
    rcases Bool.and_eq_true_iff.mp spelled with ⟨left_spelled, right_spelled⟩
    rw [Expr.toList_binary]
    exact (Expr.balanced_text left left_spelled).append (.cons rfl
      ((Balanced.symbol operator).append (.cons rfl (Expr.balanced_text right right_spelled))))
  | .group inner, spelled => by
    rw [Expr.toList_group]
    exact (Expr.balanced_text inner spelled).enclosed
  | .call function arguments, spelled => by
    rcases Bool.and_eq_true_iff.mp spelled with ⟨function_spelled, arguments_spelled⟩
    rw [Expr.toList_call]
    exact (Balanced.of_all function_spelled).append
      (balanced_argumentsText arguments arguments_spelled).enclosed

theorem balanced_argumentsText : forall arguments : List Expr,
    argumentsWellSpelled arguments = true -> Balanced (Expr.argumentsText arguments).toList
  | [], _ => .nil
  | [argument], spelled => Expr.balanced_text argument (Bool.and_eq_true_iff.mp spelled).1
  | argument :: other :: rest, spelled => by
    rcases Bool.and_eq_true_iff.mp spelled with ⟨first_spelled, rest_spelled⟩
    rw [Expr.toList_arguments]
    exact (Expr.balanced_text argument first_spelled).append
      (.cons rfl (.cons rfl (balanced_argumentsText (other :: rest) rest_spelled)))

end

/-! ## Statements -/

namespace Statement

def literals : Statement -> List Single
  | .comment _ => []
  | .constant _ value | .mutable _ value => value.literals
  | .assign target value => target.literals ++ value.literals

/-- The words of a statement, the first of which tells whether it declares the second. -/
def words : Statement -> List String
  | .comment _ => []
  | .constant name value => "let" :: name :: value.words
  | .mutable name value => "var" :: name :: value.words
  | .assign target value => target.words ++ value.words

/-- Whether this is no comment and its names are identifiers. -/
def isWellSpelled : Statement -> Bool
  | .comment _ => false
  | .constant name value | .mutable name value => isIdentifier name.toList && value.isWellSpelled
  | .assign target value => target.isWellSpelled && value.isWellSpelled

/-- What stands behind the name or the target of a statement. -/
def valueText (value : Expr) : List Char := ' ' :: '=' :: ' ' :: (value.text.toList ++ [';'])

/-- The text of a declaration, with the word that marks it as one. -/
def declarationText (mark name : String) (value : Expr) : List Char :=
  mark.toList ++ ' ' :: (name.toList ++ valueText value)

theorem toList_constant (name : String) (value : Expr) :
    (constant name value).line.toList = declarationText "let" name value := by
  simp [line, declarationText, valueText]

theorem toList_mutable (name : String) (value : Expr) :
    (mutable name value).line.toList = declarationText "var" name value := by
  simp [line, declarationText, valueText]

theorem toList_assign (target value : Expr) :
    (assign target value).line.toList = target.text.toList ++ valueText value := by
  simp [line, valueText]

section

variable {name : String} {value : Expr} (spelled : value.isWellSpelled = true)
include spelled

theorem words_append_valueText (text : List Char)
    (finite : forall x, x ∈ value.literals -> x.isFinite = true) :
    Wgsl.words (text ++ valueText value) = Wgsl.words text ++ value.words := by
  rw [valueText, words_append_delimiter (by decide), words_cons_delimiter (by decide),
    words_cons_delimiter (by decide), words_append_last (by decide),
    value.words_text spelled finite]

theorem words_declarationText (mark : String) (identifier : isIdentifier name.toList = true)
    (finite : forall x, x ∈ value.literals -> x.isFinite = true) :
    Wgsl.words (declarationText mark name value) =
      Wgsl.words mark.toList ++ name :: value.words := by
  rw [declarationText, words_append_delimiter (by decide),
    words_append_valueText spelled _ finite, words_identifier identifier, List.singleton_append]

theorem balanced_valueText : Balanced (valueText value) :=
  .cons rfl (.cons rfl (.cons rfl ((value.balanced_text spelled).append (.of_all rfl))))

theorem balanced_declarationText {mark : String} (closed : Balanced mark.toList)
    (identifier : isIdentifier name.toList = true) :
    Balanced (declarationText mark name value) :=
  closed.append
    (.cons rfl ((balanced_identifier identifier).append (balanced_valueText spelled)))

end

/-- The words of a line are those of its statement. -/
theorem words_line (statement : Statement) (spelled : statement.isWellSpelled = true)
    (finite : forall x, x ∈ statement.literals -> x.isFinite = true) :
    Wgsl.words statement.line.toList = statement.words := by
  cases statement with
  | comment text => cases spelled
  | constant name value =>
    rcases Bool.and_eq_true_iff.mp spelled with ⟨identifier, value_spelled⟩
    rw [toList_constant, words_declarationText value_spelled _ identifier finite]
    rfl
  | mutable name value =>
    rcases Bool.and_eq_true_iff.mp spelled with ⟨identifier, value_spelled⟩
    rw [toList_mutable, words_declarationText value_spelled _ identifier finite]
    rfl
  | assign target value =>
    rcases Bool.and_eq_true_iff.mp spelled with ⟨target_spelled, value_spelled⟩
    rcases List.forall_mem_append.mp finite with ⟨target_finite, value_finite⟩
    rw [toList_assign, words_append_valueText value_spelled _ value_finite,
      target.words_text target_spelled target_finite]
    rfl

theorem balanced_line (statement : Statement) (spelled : statement.isWellSpelled = true) :
    Balanced statement.line.toList := by
  cases statement with
  | comment text => cases spelled
  | constant name value =>
    rcases Bool.and_eq_true_iff.mp spelled with ⟨identifier, value_spelled⟩
    rw [toList_constant]
    exact balanced_declarationText value_spelled (.of_all rfl) identifier
  | mutable name value =>
    rcases Bool.and_eq_true_iff.mp spelled with ⟨identifier, value_spelled⟩
    rw [toList_mutable]
    exact balanced_declarationText value_spelled (.of_all rfl) identifier
  | assign target value =>
    rcases Bool.and_eq_true_iff.mp spelled with ⟨target_spelled, value_spelled⟩
    rw [toList_assign]
    exact (target.balanced_text target_spelled).append (balanced_valueText value_spelled)

/-- A statement that is no comment ends with a semicolon. -/
theorem exists_line (statement : Statement) (spelled : statement.isWellSpelled = true) :
    Exists fun front => statement.line = front ++ ";" := by
  cases statement with
  | comment text => cases spelled
  | _ => exact ⟨_, rfl⟩

end Statement

end Wgsl
end ParticleEffects