import Mathlib.Data.List.DropRight
import Mathlib.Data.Rat.Defs
import Mathlib.Algebra.Order.Field.Rat
import Mathlib.Tactic.FieldSimp
import Mathlib.Tactic.Ring
import ParticleEffects.Number.Decimal

namespace ParticleEffects
namespace Number

/-!
Decimals that are spelled out.

A decimal is spelled by a sign, the digits before its point, and perhaps those behind the
point and an exponent.  Reading such a text gives the decimal back, and leaving out the
zeros that a fraction ends in does not change what it denotes.
-/

/-- The rational number that a decimal denotes. -/
def Decimal.value (decimal : Decimal) : Rat :=
  (if decimal.negative then -1 else 1) * ((decimal.coefficient : Rat) * 10 ^ decimal.exponent)

/-! ## Digits -/

/-- A text of decimal digits only. -/
def OfDigits (text : List Char) : Prop := forall c, c ∈ text -> c.isDigit = true

namespace OfDigits

theorem toDigits (n : Nat) : OfDigits (Nat.toDigits 10 n) :=
  fun _ member => Nat.isDigit_of_mem_toDigits (by decide) (Nat.le_refl 10) member

theorem append {front back : List Char} (first : OfDigits front) (second : OfDigits back) :
    OfDigits (front ++ back) :=
  List.forall_mem_append.mpr ⟨first, second⟩

theorem leftpad {digits : List Char} (plain : OfDigits digits) (places : Nat) :
    OfDigits (digits.leftpad places '0') := by
  refine append (fun c member => ?_) plain
  rw [List.eq_of_mem_replicate member]
  rfl

theorem dropTrailingZeros {digits : List Char} (plain : OfDigits digits) :
    OfDigits (Number.dropTrailingZeros digits) :=
  fun c member => plain c ((List.rdropWhile_prefix (· == '0') (l := digits)).subset member)

end OfDigits

/-- The number that digits spell. -/
def spelled (digits : List Char) : Nat := Nat.ofDigitChars 10 digits 0

theorem spelled_toDigits (n : Nat) : spelled (Nat.toDigits 10 n) = n := Nat.ofDigitChars_ten_toDigits

theorem spelled_append (front back : List Char) :
    spelled (front ++ back) = spelled front * 10 ^ back.length + spelled back := by
  rw [spelled, Nat.ofDigitChars_eq_foldl, List.foldl_append, ← Nat.ofDigitChars_eq_foldl,
    ← Nat.ofDigitChars_eq_foldl, Nat.ofDigitChars_eq_ofDigitChars_zero, Nat.mul_comm]
  rfl

theorem spelled_replicate_zero (count : Nat) : spelled (List.replicate count '0') = 0 := by
  rw [spelled, Nat.ofDigitChars_replicate_zero, Nat.mul_zero]

theorem spelled_leftpad (places : Nat) (digits : List Char) :
    spelled (digits.leftpad places '0') = spelled digits := by
  rw [List.leftpad, spelled_append, spelled_replicate_zero, Nat.zero_mul, Nat.zero_add]

/-- Only zero is spelled with a zero in front. -/
theorem toDigits_of_head_zero (n : Nat) :
    (Nat.toDigits 10 n).head? = some '0' -> Nat.toDigits 10 n = ['0'] := by
  induction n using Nat.strong_induction_on with
  | h n inductionHypothesis =>
    rw [Nat.toDigits_eq_if (by decide)]
    split
    · rename_i small
      intro zero
      rw [List.head?_cons, Option.some_inj] at zero
      rw [zero]
    · rename_i large
      rw [List.head?_append_of_ne_nil _ Nat.toDigits_ne_nil]
      intro zero
      have front := inductionHypothesis (n / 10) (by omega) zero
      have none : n / 10 = 0 := by
        rw [← spelled_toDigits (n / 10), front]
        rfl
      omega

/-- What is too short is filled up to its places. -/
theorem length_leftpad_toDigits {places n : Nat} (some : 0 < places) (fits : n < 10 ^ places) :
    ((Nat.toDigits 10 n).leftpad places '0').length = places := by
  rw [List.length_leftpad]
  exact Nat.max_eq_left ((Nat.length_toDigits_le_iff (by decide) some).mpr fits)

/-! ## Trailing zeros -/

theorem exists_dropTrailingZeros (text : List Char) :
    Exists fun count => text = dropTrailingZeros text ++ List.replicate count '0' := by
  refine ⟨(text.rtakeWhile (· == '0')).length, ?_⟩
  have zeros : text.rtakeWhile (· == '0') =
      List.replicate (text.rtakeWhile (· == '0')).length '0' :=
    List.eq_replicate_of_mem fun c member =>
      beq_iff_eq.mp (List.mem_rtakeWhile_imp (p := (· == '0')) member)
  rw [← zeros]
  exact List.rdropWhile_append_rtakeWhile.symm

theorem getLast?_dropTrailingZeros (text : List Char) :
    (dropTrailingZeros text).getLast? ≠ some '0' := by
  intro last
  have nonempty : dropTrailingZeros text ≠ [] := by
    rintro empty
    rw [empty] at last
    cases last
  rw [List.getLast?_eq_some_getLast nonempty, Option.some_inj] at last
  exact List.rdropWhile_last_not (· == '0') text nonempty (beq_iff_eq.mpr last)

/-- No zero is taken from before something else. -/
theorem dropTrailingZeros_append_cons (front : List Char) {c : Char} (different : c ≠ '0')
    (back : List Char) :
    dropTrailingZeros (front ++ c :: back) = front ++ c :: dropTrailingZeros back := by
  have kept : (c == '0') = false := beq_false_of_ne different
  unfold dropTrailingZeros
  rw [List.reverse_append, List.reverse_cons, List.append_assoc, List.dropWhile_append]
  split
  · rename_i zeros
    rw [List.isEmpty_iff.mp zeros]
    simp [kept]
  · simp

/-! ## Texts -/

/-- The parts of a decimal that is spelled out: the digits before the point, those behind it
and the exponent with its sign. -/
structure Spelling where
  negative : Bool
  whole : List Char
  fraction? : Option (List Char)
  exponent? : Option (Bool × List Char)

def signText (negative : Bool) : List Char := if negative then ['-'] else []

namespace Spelling

def fractionDigits (spelling : Spelling) : List Char := spelling.fraction?.getD []

def fractionText (spelling : Spelling) : List Char :=
  match spelling.fraction? with
  | none => []
  | some digits => '.' :: digits

def exponentText (spelling : Spelling) : List Char :=
  match spelling.exponent? with
  | none => []
  | some (negative, digits) => 'e' :: (if negative then '-' else '+') :: digits

def text (spelling : Spelling) : List Char :=
  signText spelling.negative ++
    ((spelling.whole ++ spelling.fractionText) ++ spelling.exponentText)

def exponent (spelling : Spelling) : Int :=
  match spelling.exponent? with
  | none => 0
  | some (negative, digits) => if negative then -(spelled digits : Int) else spelled digits

/-- The decimal that is spelled. -/
def decimal (spelling : Spelling) : Decimal :=
  { negative := spelling.negative
    coefficient := spelled (spelling.whole ++ spelling.fractionDigits)
    exponent := spelling.exponent - spelling.fractionDigits.length }

/-- There are digits where they are expected, and nothing else. -/
structure WellFormed (spelling : Spelling) : Prop where
  whole_ne_nil : spelling.whole ≠ []
  whole_digits : OfDigits spelling.whole
  fraction_digits : OfDigits spelling.fractionDigits
  exponent_digits : forall negative digits, spelling.exponent? = some (negative, digits) ->
    digits ≠ [] ∧ OfDigits digits

end Spelling

/-! ## Reading -/

theorem digitValue?_of_isDigit {c : Char} (digit : c.isDigit = true) :
    digitValue? 10 c = some (c.toNat - 48) := by
  have bounds := Bool.and_eq_true_iff.mp digit
  have most : c.toNat <= 57 := of_decide_eq_true bounds.2
  have small : c.toNat - 48 < 10 := by omega
  simp only [digitValue?, digit, if_true]
  exact Option.filter_some_pos (decide_eq_true small)

theorem foldlM_digits {digits : List Char} (plain : OfDigits digits) :
    forall start : Nat,
      digits.foldlM (fun n c => (digitValue? 10 c).map (n * 10 + ·)) start =
        some (Nat.ofDigitChars 10 digits start) := by
  induction digits with
  | nil => exact fun _ => rfl
  | cons c digits inductionHypothesis =>
    intro start
    have rest := inductionHypothesis fun c member => plain c (List.mem_cons_of_mem _ member)
    rw [List.foldlM_cons, digitValue?_of_isDigit (plain c List.mem_cons_self),
      Nat.ofDigitChars_cons, Nat.mul_comm 10 start]
    exact rest _

/-- Digits are read as the number they spell. -/
theorem readNatural?_eq {digits : List Char} (nonempty : digits ≠ []) (plain : OfDigits digits) :
    readNatural? 10 digits = some (spelled digits) := by
  rw [readNatural?, if_neg (by simpa using nonempty)]
  exact foldlM_digits plain 0

theorem ne_of_isDigit {c mark : Char} (digit : c.isDigit = true)
    (other : mark.isDigit = false) : c ≠ mark := by
  rintro rfl
  rw [digit] at other
  cases other

theorem splitSign_of_digits {text rest : List Char} (nonempty : text ≠ [])
    (plain : OfDigits text) : splitSign (text ++ rest) = (false, text ++ rest) := by
  cases text with
  | nil => exact absurd rfl nonempty
  | cons c text =>
    have digit := plain c List.mem_cons_self
    have notMinus := ne_of_isDigit digit (show '-'.isDigit = false from rfl)
    have notPlus := ne_of_isDigit digit (show '+'.isDigit = false from rfl)
    simp [splitSign, notMinus, notPlus]

theorem splitSign_signText (negative : Bool) {text rest : List Char} (nonempty : text ≠ [])
    (plain : OfDigits text) :
    splitSign (signText negative ++ (text ++ rest)) = (negative, text ++ rest) := by
  cases negative with
  | false =>
    change splitSign (text ++ rest) = _
    exact splitSign_of_digits nonempty plain
  | true => rfl

theorem isExponentMark_of_isDigit {c : Char} (digit : c.isDigit = true) :
    isExponentMark c = false := by
  have lower := ne_of_isDigit digit (show 'e'.isDigit = false from rfl)
  have upper := ne_of_isDigit digit (show 'E'.isDigit = false from rfl)
  simp [isExponentMark, lower, upper]

namespace Spelling

variable {spelling : Spelling}

theorem not_isExponentMark (wellFormed : spelling.WellFormed) :
    forall c, c ∈ spelling.whole ++ spelling.fractionText -> (!isExponentMark c) = true := by
  refine List.forall_mem_append.mpr ⟨fun c member => ?_, ?_⟩
  · rw [isExponentMark_of_isDigit (wellFormed.whole_digits c member)]
    rfl
  · have plain := wellFormed.fraction_digits
    unfold fractionDigits at plain
    unfold fractionText
    cases found : spelling.fraction? with
    | none => exact fun c member => absurd member List.not_mem_nil
    | some digits =>
      rw [found] at plain
      refine List.forall_mem_cons.mpr ⟨rfl, fun c member => ?_⟩
      rw [isExponentMark_of_isDigit (plain c member)]
      rfl

/-- The mantissa ends where the exponent begins. -/
theorem takeWhile_mantissa (wellFormed : spelling.WellFormed) :
    (spelling.whole ++ spelling.fractionText ++ spelling.exponentText).takeWhile
      (!isExponentMark ·) = spelling.whole ++ spelling.fractionText := by
  rw [List.takeWhile_append_of_pos (not_isExponentMark wellFormed)]
  unfold exponentText
  cases spelling.exponent? with
  | none => exact List.append_nil _
  | some exponent => exact List.append_nil _

theorem dropWhile_mantissa (wellFormed : spelling.WellFormed) :
    (spelling.whole ++ spelling.fractionText ++ spelling.exponentText).dropWhile
      (!isExponentMark ·) = spelling.exponentText := by
  rw [List.dropWhile_append_of_pos (not_isExponentMark wellFormed)]
  unfold exponentText
  cases spelling.exponent? with
  | none => rfl
  | some exponent => rfl

theorem whole_ne_point (wellFormed : spelling.WellFormed) :
    forall c, c ∈ spelling.whole -> (c != '.') = true :=
  fun c member => bne_iff_ne.mpr
    (ne_of_isDigit (wellFormed.whole_digits c member) (show '.'.isDigit = false from rfl))

theorem takeWhile_whole (wellFormed : spelling.WellFormed) :
    (spelling.whole ++ spelling.fractionText).takeWhile (· != '.') = spelling.whole := by
  rw [List.takeWhile_append_of_pos (whole_ne_point wellFormed)]
  unfold fractionText
  cases spelling.fraction? with
  | none => exact List.append_nil _
  | some digits => exact List.append_nil _

theorem drop_dropWhile_whole (wellFormed : spelling.WellFormed) :
    ((spelling.whole ++ spelling.fractionText).dropWhile (· != '.')).drop 1 =
      spelling.fractionDigits := by
  rw [List.dropWhile_append_of_pos (whole_ne_point wellFormed)]
  unfold fractionText fractionDigits
  cases spelling.fraction? with
  | none => rfl
  | some digits => rfl

theorem readExponent?_exponentText (wellFormed : spelling.WellFormed) :
    readExponent? spelling.exponentText = some spelling.exponent := by
  have some_digits := wellFormed.exponent_digits
  unfold exponentText exponent
  cases found : spelling.exponent? with
  | none => rfl
  | some part =>
    rcases part with ⟨negative, digits⟩
    rcases some_digits negative digits found with ⟨nonempty, plain⟩
    cases negative <;> simp [readExponent?, splitSign, readNatural?_eq nonempty plain]

/-- Reading what is spelled gives the decimal back. -/
theorem readDecimal?_text (wellFormed : spelling.WellFormed) :
    readDecimal? spelling.text = some spelling.decimal := by
  have coefficient : readNatural? 10 (spelling.whole ++ spelling.fractionDigits) =
      some (spelled (spelling.whole ++ spelling.fractionDigits)) :=
    readNatural?_eq (by simp [wellFormed.whole_ne_nil])
      (wellFormed.whole_digits.append wellFormed.fraction_digits)
  have sign : splitSign spelling.text =
      (spelling.negative, spelling.whole ++ spelling.fractionText ++ spelling.exponentText) := by
    rw [text, List.append_assoc]
    exact splitSign_signText _ wellFormed.whole_ne_nil wellFormed.whole_digits
  simp only [readDecimal?, sign, takeWhile_mantissa wellFormed, dropWhile_mantissa wellFormed,
    takeWhile_whole wellFormed, drop_dropWhile_whole wellFormed, coefficient,
    readExponent?_exponentText wellFormed]
  rfl

end Spelling

end Number
end ParticleEffects
