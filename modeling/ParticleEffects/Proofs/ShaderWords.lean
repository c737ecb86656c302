import ParticleEffects.Proofs.BlockText
import ParticleEffects.Proofs.LiteralGrammar

namespace ParticleEffects
namespace Wgsl

/-!
The words and the brackets of a text.

A text is scanned from its first character on.  Words are read as far as they go, a member
together with its point, and numbers are passed over with their exponents and suffixes.  The
literal of a number adds no word as long as the number is finite, and it never opens or closes
a bracket.
-/

open Number

/-! ## Scanning -/

/-- What has been read up to some character. -/
inductive Reading where
  | between
  | word (read : List Char)
  | number
  | exponent
  deriving DecidableEq

namespace Reading

/-- A character that does not go on with what was read begins something new. -/
def begin (c : Char) : Reading :=
  if isWordStart c || c == '.' then .word [c]
  else if c.isDigit then .number
  else .between

/-- What was read together with the next character, if that belongs to it. -/
def next? (reading : Reading) (c : Char) : Option Reading :=
  match reading with
  | .between => none
  | .word read => if isWordCharacter c then some (.word (read ++ [c])) else none
  | .number =>
    if c.isDigit || c == '.' then some .number
    else if isExponentMark c then some .exponent
    else if ['u', 'i', 'f', 'h'].contains c then some .between
    else none
  | .exponent => if c.isDigit || c == '+' || c == '-' then some .number else none

/-- The word that ends where nothing goes on with it. -/
def ended : Reading -> List String
  | .word read => [String.ofList read]
  | _ => []

end Reading

/-- The words of a text that goes on from what was read. -/
def wordsFrom (reading : Reading) : List Char -> List String
  | [] => reading.ended
  | c :: rest =>
    match reading.next? c with
    | some next => wordsFrom next rest
    | none => reading.ended ++ wordsFrom (.begin c) rest

/-- The words of a text, from the first to the last. -/
def words (text : List Char) : List String := wordsFrom .between text

section

variable {reading : Reading} {c : Char}

theorem wordsFrom_of_next {next : Reading} (taken : reading.next? c = some next)
    (rest : List Char) : wordsFrom reading (c :: rest) = wordsFrom next rest := by
  rw [wordsFrom, taken]

theorem wordsFrom_of_none (left : reading.next? c = none) (rest : List Char) :
    wordsFrom reading (c :: rest) = reading.ended ++ wordsFrom (.begin c) rest := by
  rw [wordsFrom, left]

end

theorem words_cons (c : Char) (rest : List Char) : words (c :: rest) = wordsFrom (.begin c) rest :=
  rfl

/-- A member is read with its point, and nothing of a number is read. -/
example : words "ret.pos[si[0]] = (rand() * 2. - 1.5e+3) % 3u;".toList =
    ["ret", ".pos", "si", "rand"] := by decide +kernel

/-! ## Delimiters -/

/-- Characters that belong to no word and to no number. -/
def delimiters : List Char := [' ', ',', ';', '(', ')', '[', ']', '<', '>', '=', '*', '/', '%']

section

variable {c : Char} (delimiter : c ∈ delimiters)
include delimiter

theorem begin_delimiter : Reading.begin c = .between := by
  have all : delimiters.all (Reading.begin · == .between) = true := by decide
  exact beq_iff_eq.mp (List.all_eq_true.mp all c delimiter)

theorem next?_delimiter (reading : Reading) : reading.next? c = none := by
  have plain : delimiters.all (!isWordCharacter ·) = true := by decide
  have number : delimiters.all (Reading.next? .number · == none) = true := by decide
  have exponent : delimiters.all (Reading.next? .exponent · == none) = true := by decide
  cases reading with
  | between => rfl
  | word read =>
    have other := List.all_eq_true.mp plain c delimiter
    rw [Bool.not_eq_true'] at other
    rw [Reading.next?, other]
    rfl
  | number => exact beq_iff_eq.mp (List.all_eq_true.mp number c delimiter)
  | exponent => exact beq_iff_eq.mp (List.all_eq_true.mp exponent c delimiter)

/-- A text is scanned up to a delimiter and from there on. -/
theorem wordsFrom_append_delimiter (reading : Reading) (text rest : List Char) :
    wordsFrom reading (text ++ c :: rest) = wordsFrom reading text ++ words rest := by
  induction text generalizing reading with
  | nil =>
    rw [List.nil_append, wordsFrom_of_none (next?_delimiter delimiter reading),
      begin_delimiter delimiter]
    rfl
  | cons first text inductionHypothesis =>
    rw [List.cons_append]
    cases taken : reading.next? first with
    | some next => rw [wordsFrom_of_next taken, wordsFrom_of_next taken, inductionHypothesis]
    | none =>
      rw [wordsFrom_of_none taken, wordsFrom_of_none taken, inductionHypothesis, List.append_assoc]

theorem words_append_delimiter (text rest : List Char) :
    words (text ++ c :: rest) = words text ++ words rest :=
  wordsFrom_append_delimiter delimiter .between text rest

theorem words_cons_delimiter (rest : List Char) : words (c :: rest) = words rest :=
  words_append_delimiter delimiter [] rest

theorem words_append_last (text : List Char) : words (text ++ [c]) = words text :=
  (words_append_delimiter delimiter text []).trans (List.append_nil _)

end

/-! ## Identifiers -/

theorem wordsFrom_word (read : List Char) {word : List Char}
    (plain : word.all isWordCharacter = true) (rest : List Char) :
    wordsFrom (.word read) (word ++ rest) = wordsFrom (.word (read ++ word)) rest := by
  induction word generalizing read with
  | nil => rw [List.nil_append, List.append_nil]
  | cons c word inductionHypothesis =>
    rcases Bool.and_eq_true_iff.mp plain with ⟨first, others⟩
    have taken : Reading.next? (.word read) c = some (.word (read ++ [c])) := if_pos first
    rw [List.cons_append, wordsFrom_of_next taken, inductionHypothesis _ others, List.append_assoc,
      List.singleton_append]

/-- An identifier begins as a word and goes on as one. -/
theorem isIdentifier_cons {first : Char} {others : List Char}
    (identifier : isIdentifier (first :: others) = true) :
    isWordStart first = true ∧ others.all isWordCharacter = true := by
  simp only [isIdentifier, Bool.and_eq_true] at identifier
  exact identifier.1.1.1

theorem isWordCharacter_of_isWordStart {c : Char} (start : isWordStart c = true) :
    isWordCharacter c = true := by
  rw [isWordStart, Bool.or_eq_true] at start
  rw [isWordCharacter, Char.isAlphanum, Bool.or_assoc, Bool.or_eq_true, Bool.or_eq_true]
  exact start.imp_right .inr

theorem isIdentifier_all {word : List Char} (identifier : isIdentifier word = true) :
    word.all isWordCharacter = true := by
  cases word with
  | nil => rfl
  | cons first others =>
    rcases isIdentifier_cons identifier with ⟨start, plain⟩
    exact Bool.and_eq_true_iff.mpr ⟨isWordCharacter_of_isWordStart start, plain⟩

/-- An identifier is read as one word, whatever follows it. -/
theorem words_identifier_append {word : List Char} (identifier : isIdentifier word = true)
    (rest : List Char) : words (word ++ rest) = wordsFrom (.word word) rest := by
  cases word with
  | nil => cases identifier
  | cons first others =>
    rcases isIdentifier_cons identifier with ⟨start, plain⟩
    have begun : Reading.begin first = .word [first] :=
      if_pos (Bool.or_eq_true_iff.mpr (.inl start))
    rw [List.cons_append, words_cons, begun, wordsFrom_word [first] plain, List.singleton_append]

theorem words_identifier {word : String} (identifier : isIdentifier word.toList = true) :
    words word.toList = [word] := by
  have read := words_identifier_append identifier []
  rw [List.append_nil] at read
  rw [read, wordsFrom, Reading.ended, String.ofList_toList]

/-- A member is read with its point. -/
theorem words_member {base field : String} (identifier : isIdentifier base.toList = true)
    (identifier' : isIdentifier field.toList = true) :
    words (base.toList ++ '.' :: field.toList) = [base, "." ++ field] := by
  have plain : field.toList.all isWordCharacter = true :=
    isIdentifier_all identifier'
  have read := wordsFrom_word ['.'] plain []
  rw [List.append_nil, List.singleton_append] at read
  rw [words_identifier_append identifier, wordsFrom_of_none rfl]
  change _ ++ wordsFrom (.word ['.']) _ = _
  rw [read]
  simp [wordsFrom, Reading.ended]

/-! ## Numbers -/

theorem wordsFrom_digits {digits : List Char} (plain : OfDigits digits) (rest : List Char) :
    wordsFrom .number (digits ++ rest) = wordsFrom .number rest := by
  induction digits with
  | nil => rfl
  | cons c digits inductionHypothesis =>
    have taken : Reading.next? .number c = some .number :=
      if_pos (Bool.or_eq_true_iff.mpr (.inl (plain c List.mem_cons_self)))
    rw [List.cons_append, wordsFrom_of_next taken]
    exact inductionHypothesis fun c member => plain c (List.mem_cons_of_mem _ member)

theorem not_isAlpha_of_isDigit {c : Char} (digit : c.isDigit = true) : c.isAlpha = false := by
  have most : c.toNat <= 57 := of_decide_eq_true (Bool.and_eq_true_iff.mp digit).2
  by_contra letter
  rcases Bool.or_eq_true_iff.mp (Bool.not_eq_false _ ▸ letter) with upper | lower
  · have least : 65 <= c.toNat := (of_decide_eq_true upper).1
    omega
  · have least : 97 <= c.toNat := of_decide_eq_true (Bool.and_eq_true_iff.mp lower).1
    omega

theorem begin_digit {c : Char} (digit : c.isDigit = true) : Reading.begin c = .number := by
  have notAlpha := not_isAlpha_of_isDigit digit
  have notStart : (isWordStart c || c == '.') = false := by
    rw [isWordStart, notAlpha, beq_false_of_ne (ne_of_isDigit digit rfl),
      beq_false_of_ne (ne_of_isDigit digit rfl)]
    rfl
  rw [Reading.begin, notStart, digit]
  rfl

theorem words_digits {digits : List Char} (digits_some : IsDigits digits) (rest : List Char) :
    words (digits ++ rest) = wordsFrom .number rest := by
  rcases digits_some with ⟨nonempty, plain⟩
  cases digits with
  | nil => exact absurd rfl nonempty
  | cons c digits =>
    rw [List.cons_append, words_cons, begin_digit (plain c List.mem_cons_self)]
    exact wordsFrom_digits (fun c member => plain c (List.mem_cons_of_mem _ member)) rest

theorem isDigits_toDigits (n : Nat) : IsDigits (Nat.toDigits 10 n) where
  nonempty := Nat.toDigits_ne_nil
  plain := .toDigits n

theorem toList_natural (n : Nat) : (toString n).toList = Nat.toDigits 10 n := by
  rw [Nat.toString_eq_repr, Nat.toList_repr]

/-- A whole number with what ends it. -/
theorem words_natural_append (n : Nat) {rest : List Char} (ends : wordsFrom .number rest = []) :
    words ((toString n).toList ++ rest) = [] := by
  rw [toList_natural, words_digits (isDigits_toDigits n), ends]

theorem words_signText_append (negative : Bool) (rest : List Char) :
    words (signText negative ++ rest) = words rest := by
  cases negative <;> rfl

theorem wordsFrom_exponentText {spelling : Spelling} (wellFormed : spelling.WellFormed) :
    wordsFrom .number spelling.exponentText = [] := by
  unfold Spelling.exponentText
  cases found : spelling.exponent? with
  | none => rfl
  | some exponent =>
    rcases exponent with ⟨negative, digits⟩
    have plain := (wellFormed.exponent_digits negative digits found).2
    have read : wordsFrom .number digits = [] := by
      rw [← List.append_nil digits, wordsFrom_digits plain]
      rfl
    cases negative
    · exact read
    · exact read

/-- A spelled decimal has no words. -/
theorem words_spelling {spelling : Spelling} (wellFormed : spelling.WellFormed) :
    words spelling.text = [] := by
  have fraction : wordsFrom .number (spelling.fractionText ++ spelling.exponentText) = [] := by
    have plain := wellFormed.fraction_digits
    rw [Spelling.fractionDigits] at plain
    rw [Spelling.fractionText]
    cases found : spelling.fraction? with
    | none => exact wordsFrom_exponentText wellFormed
    | some digits =>
      rw [found] at plain
      change OfDigits digits at plain
      dsimp only
      rw [List.cons_append, wordsFrom_of_next rfl, wordsFrom_digits plain,
        wordsFrom_exponentText wellFormed]
  rw [Spelling.text, words_signText_append, List.append_assoc,
    words_digits ⟨wellFormed.whole_ne_nil, wellFormed.whole_digits⟩, fraction]

/-- The literal of a finite number has no words. -/
theorem words_literal {x : Single} (finite : x.isFinite = true) : words (literal x) = [] := by
  rcases isFloatLiteral_literal finite with ⟨spelling, wellFormed, same, _⟩
  rw [same, words_spelling wellFormed]

/-- What is not finite would be read as a name. -/
example : words (literal (Single.ofFloat 1e39)) = ["Infinity"] := by decide +kernel

/-! ## Brackets -/

def isBracket (c : Char) : Bool := ['(', ')', '[', ']'].contains c

/-- A text in which every bracket is closed by its counterpart. -/
inductive Balanced : List Char -> Prop
  | nil : Balanced []
  | cons {c : Char} {rest : List Char} (plain : isBracket c = false) (balanced : Balanced rest) :
      Balanced (c :: rest)
  | parentheses {inner rest : List Char} (within : Balanced inner) (balanced : Balanced rest) :
      Balanced ('(' :: (inner ++ ')' :: rest))
  | brackets {inner rest : List Char} (within : Balanced inner) (balanced : Balanced rest) :
      Balanced ('[' :: (inner ++ ']' :: rest))

namespace Balanced

variable {text rest : List Char}

theorem append (first : Balanced text) (second : Balanced rest) : Balanced (text ++ rest) := by
  induction first with
  | nil => exact second
  | cons plain _ inductionHypothesis => exact .cons plain inductionHypothesis
  | @parentheses inner others within _ _ inductionHypothesis =>
    rw [List.cons_append, List.append_assoc, List.cons_append]
    exact .parentheses within inductionHypothesis
  | @brackets inner others within _ _ inductionHypothesis =>
    rw [List.cons_append, List.append_assoc, List.cons_append]
    exact .brackets within inductionHypothesis

theorem of_all (plain : text.all (!isBracket ·) = true) : Balanced text := by
  induction text with
  | nil => exact .nil
  | cons c text inductionHypothesis =>
    rcases Bool.and_eq_true_iff.mp plain with ⟨first, others⟩
    exact .cons (Bool.not_eq_true' _ ▸ first) (inductionHypothesis others)

theorem of_lacks {text : String} (lacks : forall c, isBracket c = true -> Lacks c text) :
    Balanced text.toList := by
  refine of_all (List.all_eq_true.mpr fun c member => ?_)
  rw [Bool.not_eq_true']
  by_contra bracket
  exact lacks c (Bool.not_eq_false _ ▸ bracket) member

theorem enclosed (within : Balanced text) : Balanced ('(' :: (text ++ [')'])) :=
  .parentheses within .nil

theorem indexed (within : Balanced text) : Balanced ('[' :: (text ++ [']'])) :=
  .brackets within .nil

end Balanced

theorem isBracket_iff (c : Char) : isBracket c = true ↔ c ∈ ['(', ')', '[', ']'] :=
  List.contains_iff_mem

theorem not_isLiteralCharacter_of_isBracket {c : Char} (bracket : isBracket c = true) :
    isLiteralCharacter c = false := by
  have all : ['(', ')', '[', ']'].all (!isLiteralCharacter ·) = true := by decide
  exact Bool.not_eq_true' _ ▸ List.all_eq_true.mp all c ((isBracket_iff c).mp bracket)

theorem not_isBracket_of_isWordCharacter {c : Char} (plain : isWordCharacter c = true) :
    isBracket c = false := by
  have all : ['(', ')', '[', ']'].all (!isWordCharacter ·) = true := by decide
  by_contra bracket
  have other := List.all_eq_true.mp all c ((isBracket_iff c).mp (Bool.not_eq_false _ ▸ bracket))
  rw [plain] at other
  cases other

theorem balanced_natural (n : Nat) : Balanced (toString n).toList :=
  .of_lacks fun _ bracket => lacks_natural (not_isLiteralCharacter_of_isBracket bracket) n

theorem balanced_identifier {word : List Char} (identifier : isIdentifier word = true) :
    Balanced word := by
  refine .of_all (List.all_eq_true.mpr fun c member => ?_)
  rw [Bool.not_eq_true']
  exact not_isBracket_of_isWordCharacter
    (List.all_eq_true.mp (isIdentifier_all identifier) c member)

end Wgsl
end ParticleEffects
