import ParticleEffects.Proofs.BlockScope

namespace ParticleEffects
namespace Wgsl

/-!
How often a call stands in a text.

A word may stand at any place of a text, within names and across parts that were written one
after the other.  The text of a call has one opening parenthesis, behind the name of its
function, and one closing parenthesis at its end, and nothing else in it separates words.  It
stands in the text of an expression as often as the tree has that call, because the brackets of
every part are closed.
-/

/-! ## Places of a word -/

/-- The number of places of a text at which a word stands. -/
def occurrences (word text : List Char) : Nat := text.tails.countP word.isPrefixOf

theorem occurrences_nil (word : List Char) :
    occurrences word [] = if word <+: [] then 1 else 0 := by
  simp [occurrences, List.countP_cons]

theorem occurrences_cons (word : List Char) (c : Char) (rest : List Char) :
    occurrences word (c :: rest) =
      (if word <+: c :: rest then 1 else 0) + occurrences word rest := by
  simp [occurrences, List.countP_cons, Nat.add_comm]

/-- A word does not stand in a text that lacks one of its characters. -/
theorem occurrences_eq_zero {word text : List Char} {c : Char} (within : c ∈ word)
    (lacks : c ∉ text) : occurrences word text = 0 := by
  refine List.countP_eq_zero.mpr fun tail member stands => lacks ?_
  have front : word <+: tail := List.isPrefixOf_iff_prefix.mp stands
  exact ((List.mem_tails _ _).mp member).subset (front.subset within)

theorem prefix_append_cons_iff {word : List Char} {c : Char} (outside : c ∉ word)
    (text rest : List Char) : word <+: text ++ c :: rest ↔ word <+: text := by
  constructor
  · rintro ⟨following, same⟩
    rcases List.append_eq_append_iff.mp same with ⟨back, split, _⟩ | ⟨back, split, others⟩
    · exact ⟨back, split.symm⟩
    · cases back with
      | nil => exact ⟨[], by rw [List.append_nil] at split ⊢; exact split⟩
      | cons first back =>
        cases (List.cons.inj others).1
        exact absurd (split ▸ List.mem_append_right _ List.mem_cons_self) outside
  · exact fun front => front.trans (List.prefix_append _ _)

/-- A text is cut at a character that the word lacks. -/
theorem occurrences_append_cons {word : List Char} {c : Char} (outside : c ∉ word)
    (text rest : List Char) :
    occurrences word (text ++ c :: rest) = occurrences word text + occurrences word rest := by
  induction text with
  | nil =>
    have front : word <+: c :: rest ↔ word <+: [] := prefix_append_cons_iff outside [] rest
    rw [List.nil_append, occurrences_cons, occurrences_nil]
    simp only [front]
  | cons first text inductionHypothesis =>
    rw [List.cons_append, occurrences_cons, occurrences_cons, inductionHypothesis,
      ← List.cons_append, Nat.add_assoc]
    simp only [prefix_append_cons_iff outside]

/-- One more character adds a place only if the word ends with it. -/
theorem occurrences_concat {word text : List Char} {c : Char} (apart : ¬ word <:+ text ++ [c]) :
    occurrences word (text ++ [c]) = occurrences word text := by
  have nonempty : word ≠ [] := fun empty => apart (empty ▸ List.nil_suffix)
  induction text with
  | nil =>
    have other : ¬ word <+: [c] := fun front => by
      rcases List.prefix_concat_iff.mp (show word <+: [] ++ [c] from front) with same | front
      · exact apart (same ▸ List.suffix_refl _)
      · exact nonempty (List.prefix_nil.mp front)
    rw [List.nil_append, occurrences_cons, if_neg other, Nat.zero_add]
  | cons first text inductionHypothesis =>
    have front : word <+: first :: text ++ [c] ↔ word <+: first :: text := by
      rw [List.prefix_concat_iff]
      exact or_iff_right fun same => apart (same ▸ List.suffix_refl _)
    have others := inductionHypothesis fun back =>
      apart (back.trans (List.suffix_cons first _))
    rw [List.cons_append, occurrences_cons, ← List.cons_append, others, occurrences_cons]
    simp only [front]

/-! ## Calls -/

/-- A call with a single word as its argument, or with none, as it is written. -/
structure PlainCall where
  function : String
  argument : String
  function_identifier : isIdentifier function.toList = true
  argument_word : argument.toList.all isWordCharacter = true

namespace PlainCall

variable (sought : PlainCall)

/-- What follows the opening parenthesis. -/
def ending : List Char := sought.argument.toList ++ [')']

def text : List Char := sought.function.toList ++ '(' :: sought.ending

theorem not_mem_function {c : Char} (special : isWordCharacter c = false) :
    c ∉ sought.function.toList := fun member =>
  Bool.false_ne_true (special.symm.trans
    (List.all_eq_true.mp (isIdentifier_all sought.function_identifier) c member))

theorem not_mem_argument {c : Char} (special : isWordCharacter c = false) :
    c ∉ sought.argument.toList := fun member =>
  Bool.false_ne_true (special.symm.trans (List.all_eq_true.mp sought.argument_word c member))

/-- What is no word and no parenthesis does not occur in a call. -/
theorem not_mem_text {c : Char} (special : isWordCharacter c = false)
    (other : c ≠ '(' ∧ c ≠ ')') : c ∉ sought.text := by
  simp [text, ending, sought.not_mem_function special, sought.not_mem_argument special, other]

theorem function_ne_nil : sought.function.toList ≠ [] := by
  intro empty
  have identifier := sought.function_identifier
  rw [empty] at identifier
  cases identifier

theorem opening_mem : '(' ∈ sought.text := List.mem_append_right _ List.mem_cons_self

theorem occurrences_of_lacks {text : String} (lacks : Lacks '(' text) :
    occurrences sought.text text.toList = 0 :=
  occurrences_eq_zero sought.opening_mem lacks

section

variable {c : Char} (separates : isWordCharacter c = false ∧ c ≠ '(' ∧ c ≠ ')')
include separates

/-- A text is cut at what is no word and no parenthesis. -/
theorem occurrences_append_separator (text rest : List Char) :
    occurrences sought.text (text ++ c :: rest) =
      occurrences sought.text text + occurrences sought.text rest :=
  occurrences_append_cons (sought.not_mem_text separates.1 separates.2) text rest

theorem occurrences_cons_separator (rest : List Char) :
    occurrences sought.text (c :: rest) = occurrences sought.text rest := by
  have cut := sought.occurrences_append_separator separates [] rest
  rwa [occurrences_eq_zero sought.opening_mem List.not_mem_nil, Nat.zero_add] at cut

theorem occurrences_concat_separator (text : List Char) :
    occurrences sought.text (text ++ [c]) = occurrences sought.text text := by
  rw [sought.occurrences_append_separator separates,
    occurrences_eq_zero sought.opening_mem List.not_mem_nil, Nat.add_zero]

end

/-- The call stands at the first parenthesis of a text where that is its own. -/
theorem prefix_opening_iff {text : List Char} (lacks : '(' ∉ text) (rest : List Char) :
    sought.text <+: text ++ '(' :: rest ↔
      sought.function.toList = text ∧ sought.ending <+: rest := by
  constructor
  · rintro ⟨following, same⟩
    rw [PlainCall.text, List.append_assoc, List.cons_append] at same
    rcases append_cons_inj (sought.not_mem_function rfl) lacks same with ⟨name, arguments⟩
    exact ⟨name, following, arguments⟩
  · rintro ⟨name, following, arguments⟩
    refine ⟨following, ?_⟩
    rw [PlainCall.text, List.append_assoc, List.cons_append, name, arguments]

/-- At the first parenthesis of a text the call stands if its function ends there. -/
theorem occurrences_opening {text : List Char} (lacks : '(' ∉ text) (rest : List Char) :
    occurrences sought.text (text ++ '(' :: rest) =
      (if sought.function.toList <:+ text ∧ sought.ending <+: rest then 1 else 0) +
        occurrences sought.text rest := by
  induction text with
  | nil =>
    rw [List.nil_append, occurrences_cons]
    simp only [List.suffix_nil, ← sought.prefix_opening_iff lacks rest, List.nil_append]
  | cons first text inductionHypothesis =>
    have shorter : ¬ (sought.function.toList = first :: text ∧
        sought.function.toList <:+ text) := by
      rintro ⟨whole, back⟩
      have short := back.length_le
      rw [whole, List.length_cons] at short
      omega
    rw [List.cons_append, occurrences_cons, ← List.cons_append,
      inductionHypothesis (List.not_mem_of_not_mem_cons lacks), ← Nat.add_assoc]
    simp only [sought.prefix_opening_iff lacks, List.suffix_cons_iff]
    congr 1
    by_cases whole : sought.function.toList = first :: text
    · have back : ¬ sought.function.toList <:+ text := fun back => shorter ⟨whole, back⟩
      simp only [whole, true_and, true_or, whole ▸ back, false_and, if_false, Nat.add_zero]
    · simp only [whole, false_and, false_or, if_false, Nat.zero_add]

end PlainCall

/-! ## Brackets -/

/-- A character of two parts stands in the first one or in the second one. -/
theorem append_eq_append_cons {first second front back : List Char} {c : Char}
    (same : first ++ second = front ++ c :: back) :
    (Exists fun following => first = front ++ c :: following ∧ back = following ++ second) ∨
      Exists fun before => front = first ++ before ∧ second = before ++ c :: back := by
  rcases List.append_eq_append_iff.mp same with ⟨before, split, others⟩ | ⟨following, split, others⟩
  · exact .inr ⟨before, split, others⟩
  · cases following with
    | nil => exact .inr ⟨[], by simpa using split.symm, by simpa using others.symm⟩
    | cons c' following =>
      rcases List.cons.inj others with ⟨rfl, rest⟩
      exact .inl ⟨following, split, rest⟩

namespace Balanced

variable {text : List Char}

/-- What is opened is closed behind it. -/
theorem closing_mem (balanced : Balanced text) {front back : List Char}
    (split : text = front ++ '(' :: back) : ')' ∈ back := by
  induction balanced generalizing front back with
  | nil => simp at split
  | cons plain _ inductionHypothesis =>
    rcases List.cons_eq_append_iff.mp split with ⟨_, same⟩ | ⟨front, _, rest⟩
    · cases same
      cases plain
    · exact inductionHypothesis rest
  | parentheses _ _ _ hypothesisRest =>
    rcases List.cons_eq_append_iff.mp split with ⟨_, same⟩ | ⟨front, _, others⟩
    · cases same
      exact List.mem_append_right _ List.mem_cons_self
    · rcases append_eq_append_cons others with ⟨following, _, rfl⟩ | ⟨before, _, rest⟩
      · exact List.mem_append_right _ List.mem_cons_self
      · rcases List.cons_eq_append_iff.mp rest with ⟨_, same⟩ | ⟨before, _, rest⟩
        · cases same
        · exact hypothesisRest rest
  | brackets _ _ hypothesisInner hypothesisRest =>
    rcases List.cons_eq_append_iff.mp split with ⟨_, same⟩ | ⟨front, _, others⟩
    · cases same
    · rcases append_eq_append_cons others with ⟨following, inner, rfl⟩ | ⟨before, _, rest⟩
      · exact List.mem_append_left _ (hypothesisInner inner)
      · rcases List.cons_eq_append_iff.mp rest with ⟨_, same⟩ | ⟨before, _, rest⟩
        · cases same
        · exact hypothesisRest rest

/-- What is closed was opened before. -/
theorem opening_mem (balanced : Balanced text) {front back : List Char}
    (split : text = front ++ ')' :: back) : '(' ∈ front := by
  induction balanced generalizing front back with
  | nil => simp at split
  | cons plain _ inductionHypothesis =>
    rcases List.cons_eq_append_iff.mp split with ⟨_, same⟩ | ⟨front, rfl, rest⟩
    · cases same
      cases plain
    · exact List.mem_cons_of_mem _ (inductionHypothesis rest)
  | parentheses _ _ _ _ =>
    rcases List.cons_eq_append_iff.mp split with ⟨_, same⟩ | ⟨front, rfl, _⟩
    · cases same
    · exact List.mem_cons_self
  | brackets _ _ hypothesisInner hypothesisRest =>
    rcases List.cons_eq_append_iff.mp split with ⟨_, same⟩ | ⟨front, rfl, others⟩
    · cases same
    · refine List.mem_cons_of_mem _ ?_
      rcases append_eq_append_cons others with ⟨following, inner, _⟩ | ⟨before, rfl, rest⟩
      · exact hypothesisInner inner
      · rcases List.cons_eq_append_iff.mp rest with ⟨_, same⟩ | ⟨before, rfl, remaining⟩
        · cases same
        · exact List.mem_append_right _ (List.mem_cons_of_mem _ (hypothesisRest remaining))

end Balanced

namespace PlainCall

variable (sought : PlainCall) {text : List Char} (balanced : Balanced text)
include balanced

/-- The closing parenthesis behind a part belongs to no call that the part begins. -/
theorem occurrences_closing :
    occurrences sought.text (text ++ [')']) = occurrences sought.text text := by
  refine occurrences_concat fun back => ?_
  rcases back with ⟨front, split⟩
  rw [PlainCall.text, ending, ← List.cons_append, ← List.append_assoc, ← List.append_assoc] at split
  exact sought.not_mem_argument rfl (balanced.closing_mem (List.append_cancel_right split).symm)

/-- Arguments between parentheses are those of the call only if they are the same. -/
theorem ending_prefix_iff : sought.ending <+: text ++ [')'] ↔ text = sought.argument.toList := by
  constructor
  · intro front
    rcases List.prefix_concat_iff.mp front with same | ⟨following, split⟩
    · exact (List.append_cancel_right same).symm
    · rw [ending, List.append_assoc, List.singleton_append] at split
      exact absurd (balanced.opening_mem split.symm) (sought.not_mem_argument rfl)
  · rintro rfl
    exact List.prefix_refl _

/-- A part between parentheses. -/
theorem occurrences_enclosed {front : List Char} (lacks : '(' ∉ front) :
    occurrences sought.text (front ++ '(' :: (text ++ [')'])) =
      (if sought.function.toList <:+ front ∧ text = sought.argument.toList then 1 else 0) +
        occurrences sought.text text := by
  rw [sought.occurrences_opening lacks, sought.occurrences_closing balanced]
  simp only [sought.ending_prefix_iff balanced]

end PlainCall

/-! ## Calls in trees -/

mutual

/-- The number of the calls in an expression that are written as a call is; members are only
taken of names. -/
def Expr.calls (sought : PlainCall) : Expr -> Nat
  | .literal _ | .whole _ | .fraction .. | .unsigned _ | .ordinal _ | .name _ | .member .. => 0
  | .element base index => base.calls sought + index.calls sought
  | .binary _ left right => left.calls sought + right.calls sought
  | .group inner => inner.calls sought
  | .call function arguments =>
    (if sought.function.toList <:+ function.toList ∧
      (Expr.argumentsText arguments).toList = sought.argument.toList then 1 else 0) +
        argumentsCalls sought arguments

def argumentsCalls (sought : PlainCall) : List Expr -> Nat
  | [] => 0
  | argument :: rest => argument.calls sought + argumentsCalls sought rest

end

theorem lacks_identifier {word : String} (identifier : isIdentifier word.toList = true) {c : Char}
    (special : isWordCharacter c = false) : Lacks c word := fun member =>
  Bool.false_ne_true
    (special.symm.trans (List.all_eq_true.mp (isIdentifier_all identifier) c member))

theorem lacks_function {function : String} (plain : function.toList.all (!isBracket ·) = true) :
    Lacks '(' function := fun member => by cases List.all_eq_true.mp plain '(' member

mutual

/-- A call stands in the text of an expression as often as in its tree. -/
theorem Expr.occurrences_text (sought : PlainCall) : forall expr : Expr,
    expr.isWellSpelled = true -> occurrences sought.text expr.text.toList = expr.calls sought
  | .literal x, _ => sought.occurrences_of_lacks (lacks_literal (by decide) x)
  | .whole n, _ => sought.occurrences_of_lacks ((lacks_integer (by decide) n).append (by decide))
  | .fraction numerator denominator, _ =>
    sought.occurrences_of_lacks ((((lacks_natural (by decide) numerator).append
      (by decide)).append (lacks_natural (by decide) denominator)).append (by decide))
  | .unsigned n, _ =>
    sought.occurrences_of_lacks ((lacks_natural (by decide) n).append (by decide))
  | .ordinal n, _ => sought.occurrences_of_lacks (lacks_natural (by decide) n)
  | .name identifier, spelled => sought.occurrences_of_lacks (lacks_identifier spelled rfl)
  | .member (.name base) field, spelled => by
    rcases Bool.and_eq_true_iff.mp spelled with ⟨base_spelled, field_spelled⟩
    exact sought.occurrences_of_lacks
      (((lacks_identifier base_spelled rfl).append (by decide)).append
        (lacks_identifier field_spelled rfl))
  | .element base index, spelled => by
    rcases Bool.and_eq_true_iff.mp spelled with ⟨base_spelled, index_spelled⟩
    rw [Expr.toList_element, sought.occurrences_append_separator (by decide),
      sought.occurrences_concat_separator (by decide),
      Expr.occurrences_text sought base base_spelled,
      Expr.occurrences_text sought index index_spelled]
    rfl
  | .binary operator left right, spelled => by
    rcases Bool.and_eq_true_iff.mp spelled with ⟨left_spelled, right_spelled⟩
    have plain : Lacks '(' operator.symbol := by cases operator <;> decide
    have symbol := sought.occurrences_of_lacks plain
    rw [Expr.toList_binary, sought.occurrences_append_separator (by decide),
      sought.occurrences_append_separator (by decide), symbol, Nat.zero_add,
      Expr.occurrences_text sought left left_spelled,
      Expr.occurrences_text sought right right_spelled]
    rfl
  | .group inner, spelled => by
    have unnamed : ¬ (sought.function.toList <:+ [] ∧
        inner.text.toList = sought.argument.toList) := fun named =>
      sought.function_ne_nil (List.suffix_nil.mp named.1)
    rw [Expr.toList_group, ← List.nil_append ('(' :: _),
      sought.occurrences_enclosed (inner.balanced_text spelled) List.not_mem_nil, if_neg unnamed,
      Nat.zero_add, Expr.occurrences_text sought inner spelled]
    rfl
  | .call function arguments, spelled => by
    rcases Bool.and_eq_true_iff.mp spelled with ⟨function_spelled, arguments_spelled⟩
    rw [Expr.toList_call, sought.occurrences_enclosed
      (balanced_argumentsText arguments arguments_spelled) (lacks_function function_spelled),
      occurrences_argumentsText sought arguments arguments_spelled]
    rfl

theorem occurrences_argumentsText (sought : PlainCall) : forall arguments : List Expr,
    argumentsWellSpelled arguments = true ->
      occurrences sought.text (Expr.argumentsText arguments).toList =
        argumentsCalls sought arguments
  | [], _ => occurrences_eq_zero sought.opening_mem List.not_mem_nil
  | [argument], spelled =>
    Expr.occurrences_text sought argument (Bool.and_eq_true_iff.mp spelled).1
  | argument :: other :: rest, spelled => by
    rcases Bool.and_eq_true_iff.mp spelled with ⟨first_spelled, rest_spelled⟩
    rw [Expr.toList_arguments, sought.occurrences_append_separator (by decide),
      sought.occurrences_cons_separator (by decide),
      Expr.occurrences_text sought argument first_spelled,
      occurrences_argumentsText sought (other :: rest) rest_spelled]
    rfl

end

/-! ## Calls in blocks -/

def Statement.calls (sought : PlainCall) : Statement -> Nat
  | .comment _ => 0
  | .constant _ value | .mutable _ value => value.calls sought
  | .assign target value => target.calls sought + value.calls sought

def Block.calls (sought : PlainCall) (block : Block) : Nat :=
  (block.map (Statement.calls sought)).sum

theorem Block.calls_cons (sought : PlainCall) (statement : Statement) (block : Block) :
    Block.calls sought (statement :: block) = statement.calls sought + Block.calls sought block :=
  List.sum_cons

theorem Block.calls_append (sought : PlainCall) (first second : Block) :
    Block.calls sought (first ++ second) = Block.calls sought first + Block.calls sought second := by
  rw [calls, List.map_append, List.sum_append, calls, calls]

namespace Statement

theorem occurrences_valueText (sought : PlainCall) {value : Expr}
    (spelled : value.isWellSpelled = true) (text : List Char) :
    occurrences sought.text (text ++ valueText value) =
      occurrences sought.text text + value.calls sought := by
  rw [valueText, sought.occurrences_append_separator (by decide),
    sought.occurrences_cons_separator (by decide), sought.occurrences_cons_separator (by decide),
    sought.occurrences_concat_separator (by decide), value.occurrences_text sought spelled]

theorem occurrences_declarationText (sought : PlainCall) {mark name : String} {value : Expr}
    (plain : Lacks '(' mark) (identifier : isIdentifier name.toList = true)
    (spelled : value.isWellSpelled = true) :
    occurrences sought.text (declarationText mark name value) = value.calls sought := by
  rw [declarationText, sought.occurrences_append_separator (by decide),
    occurrences_valueText sought spelled, sought.occurrences_of_lacks plain,
    sought.occurrences_of_lacks (lacks_identifier identifier rfl), Nat.zero_add, Nat.zero_add]

/-- A call stands in a line as often as in its statement. -/
theorem occurrences_line (sought : PlainCall) (statement : Statement)
    (spelled : statement.isWellSpelled = true) :
    occurrences sought.text statement.line.toList = statement.calls sought := by
  cases statement with
  | comment text => cases spelled
  | constant name value =>
    rcases Bool.and_eq_true_iff.mp spelled with ⟨identifier, value_spelled⟩
    rw [toList_constant]
    exact occurrences_declarationText sought (by decide) identifier value_spelled
  | mutable name value =>
    rcases Bool.and_eq_true_iff.mp spelled with ⟨identifier, value_spelled⟩
    rw [toList_mutable]
    exact occurrences_declarationText sought (by decide) identifier value_spelled
  | assign target value =>
    rcases Bool.and_eq_true_iff.mp spelled with ⟨target_spelled, value_spelled⟩
    rw [toList_assign, occurrences_valueText sought value_spelled,
      target.occurrences_text sought target_spelled]
    rfl

end Statement

/-- The indented lines of a block are looked through one by one. -/
theorem occurrences_join (sought : PlainCall) (lines : List String) :
    occurrences sought.text
        (String.join (lines.map fun line => "    " ++ line ++ "\n")).toList =
      (lines.map fun line => occurrences sought.text line.toList).sum := by
  induction lines with
  | nil => exact occurrences_eq_zero sought.opening_mem List.not_mem_nil
  | cons line rest inductionHypothesis =>
    have text : (String.join ((line :: rest).map fun line => "    " ++ line ++ "\n")).toList =
        (' ' :: ' ' :: ' ' :: ' ' :: line.toList) ++
          '\n' :: (String.join (rest.map fun line => "    " ++ line ++ "\n")).toList := by
      simp [String.join_cons]
    rw [text, sought.occurrences_append_separator (by decide), inductionHypothesis, List.map_cons,
      List.sum_cons]
    iterate 4 rw [sought.occurrences_cons_separator (by decide)]

/-- A call is also found at the end of a longer name. -/
example : occurrences "rand()".toList "rand() + grand() + rand(1u)".toList = 2 := by decide +kernel

end Wgsl
end ParticleEffects
