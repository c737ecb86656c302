import Mathlib.Data.List.TakeWhile
import ParticleEffects.ForceField.Buffer
import ParticleEffects.Proofs.NumberPatterns

namespace ParticleEffects

/-!
What a shader evaluates of a packed force field.

A shader walks the slots of the buffer and stops at the first one whose mass is zero.
Sources are counted before they are packed, so that the count is the place where the
shader stops unless a mass vanishes when it is packed: a single has no room for less
than half of its least magnitude.
-/

namespace Number

/-! ## Magnitudes that vanish -/

theorem roundDiv_eq_zero_iff {numerator denominator : Nat} (positive : 0 < denominator) :
    roundDiv numerator denominator .toEven = 0 ↔ 2 * numerator <= denominator := by
  rcases Nat.lt_or_ge numerator denominator with less | atLeast
  · rw [roundDiv, Nat.div_eq_of_lt less, Nat.mod_eq_of_lt less]
    split
    case h_1 below => simp [Nat.le_of_lt (Nat.compare_eq_lt.mp below)]
    case h_2 beyond => simp [Nat.compare_eq_gt.mp beyond]
    case h_3 half => simp [Nat.compare_eq_eq.mp half]
  · have whole := Nat.div_pos atLeast positive
    have rounded := div_le_roundDiv numerator denominator .toEven
    omega

/-- What is at most half a step rounds to zero, and nothing else does. -/
theorem Format.nearest_eq_zero_iff {format : Format} (exponents : 0 < format.exponentBits)
    {numerator denominator : Nat} (positive : 0 < denominator) :
    format.nearest numerator denominator = 0 ↔ 2 * numerator <= denominator := by
  have infinity_pos : 0 < format.infinity :=
    Nat.mul_pos (Nat.sub_pos_of_lt (Nat.one_lt_two_pow (Nat.ne_of_gt exponents))) format.span_pos
  have span_pos := format.span_pos
  unfold nearest
  dsimp only
  constructor
  · intro vanishes
    have nothing : ((numerator / denominator).log2 - format.fractionBits) * format.span +
        roundDiv numerator (denominator *
          Nat.pow 2 ((numerator / denominator).log2 - format.fractionBits)) .toEven = 0 := by
      omega
    rcases Nat.add_eq_zero_iff.mp nothing with ⟨noSpans, rounded⟩
    have exponent := (Nat.mul_eq_zero.mp noSpans).resolve_right (Nat.ne_of_gt span_pos)
    rw [exponent] at rounded
    exact (roundDiv_eq_zero_iff positive).mp (by simpa using rounded)
  · intro small
    have below : numerator / denominator = 0 := Nat.div_eq_of_lt (by omega)
    have rounded := (roundDiv_eq_zero_iff positive).mpr small
    simp [below, rounded]

namespace Datum

variable {format : Format}

/-- Both zeros are zero. -/
def isZero (datum : Datum format) : Bool := datum.place? == some 0

/-- A magnitude that is at most half the least one of a single. -/
def isNegligible : Datum .double -> Bool
  | .nan => false
  | .signed _ pattern =>
    2 * (Format.double.steps pattern.val * Format.single.unit) <= Format.double.unit

theorem isZero_signed (negative : Bool) (pattern : Fin (format.infinity + 1)) :
    isZero (.signed negative pattern) = true ↔ pattern.val = 0 := by
  cases negative <;> simp [isZero, place?]

theorem isNegligible_of_isZero {datum : Datum .double} (zero : datum.isZero = true) :
    datum.isNegligible = true := by
  cases datum with
  | nan => cases zero
  | signed negative pattern =>
    rw [isNegligible, (isZero_signed negative pattern).mp zero, Format.steps_zero, Nat.zero_mul]
    exact decide_eq_true (Nat.zero_le _)

/-- The negligible numbers are those that become zero as singles. -/
theorem isZero_convert (datum : Datum .double) :
    (datum.convert .single).isZero = datum.isNegligible := by
  cases datum with
  | nan => rfl
  | signed negative pattern =>
    rw [Bool.eq_iff_iff, convert]
    split
    · rw [ofSteps, isZero_signed, isNegligible, decide_eq_true_iff]
      exact Format.nearest_eq_zero_iff (by decide) Format.double.unit_pos
    · have infinite : pattern.val = Format.double.infinity := by
        have bounded := pattern.isLt
        omega
      rw [isNegligible, infinite]
      cases negative <;> decide +kernel

theorem ofFloat_zero : (ofFloat 0).place? = some 0 := by decide +kernel

theorem isZero_ofFloat (x : Float) : (ofFloat x).isZero = (x == 0) := by
  rw [Bool.eq_iff_iff, beq_iff_place, ofFloat_zero, isZero, beq_iff_eq]
  constructor
  · exact fun zero => ⟨0, zero, rfl⟩
  · rintro ⟨place, found, zero⟩
    exact found.trans zero.symm

end Datum

end Number

namespace ForceField

open Number

/-! ## Sources of a buffer -/

/-- The singles that a field of a type takes. -/
def singlesOf (type : String) : Nat := if type = "vec3<f32>" then 3 else 1

/-- The place of the mass among the singles of a source. -/
def massOffset : Nat :=
  ((fields.takeWhile fun field => field.1 != "mass").map fun field => singlesOf field.2).sum

theorem massOffset_eq : massOffset = 5 := by decide

/-- Where a slot has its mass. -/
def massPlace (slot : Fin slotCount) : Fin (slotCount * sourceSingles) :=
  ⟨slot.val * sourceSingles + massOffset, by
    have inside := slot.isLt
    rw [massOffset_eq, sourceSingles]
    omega⟩

namespace Buffer

/-- The mass that a slot was packed with. -/
def mass (buffer : Buffer) (slot : Fin slotCount) : Single := buffer[massPlace slot]

/-- The slot in which the shader stops. -/
def stop (buffer : Buffer) : Nat :=
  ((List.ofFn buffer.mass).takeWhile fun mass => !mass.isZero).length

end Buffer

theorem mass_pack (slots : Slots) (n : Nat) (inside : n < slotCount) :
    slots.pack.mass ⟨n, inside⟩ = Single.ofFloat slots[n].mass := by
  have quotient : (n * sourceSingles + massOffset) / sourceSingles = n := by
    rw [massOffset_eq, sourceSingles]
    omega
  have remainder : (n * sourceSingles + massOffset) % sourceSingles = 5 := by
    rw [massOffset_eq, sourceSingles]
    omega
  simp only [Buffer.mass, massPlace, Slots.pack, Fin.getElem_fin, Vector.getElem_flatten, quotient,
    remainder, Vector.getElem_map]
  rfl

/-- A source whose mass becomes zero when it is packed. -/
def Source.vanishes (source : Source) : Bool := (Datum.ofFloat source.mass).isNegligible

theorem stop_pack (slots : Slots) :
    slots.pack.stop = (slots.toList.takeWhile fun source => !source.vanishes).length := by
  have masses : List.ofFn slots.pack.mass =
      slots.toList.map fun source => Single.ofFloat source.mass := by
    apply List.ext_getElem (by simp)
    intro slot inside _
    simp [mass_pack]
  rw [Buffer.stop, masses, List.takeWhile_map, List.length_map]
  simp only [Function.comp_def, Single.ofFloat, Datum.isZero_convert, Source.vanishes]

theorem toList_filled {sources : List Source} (fits : sources.length <= slotCount) :
    (Slots.filled sources).toList =
      sources ++ List.replicate (slotCount - sources.length) .empty := by
  apply List.ext_getElem (by simp; omega)
  intro slot inside _
  rw [Vector.getElem_toList, Slots.getElem_filled]
  by_cases given : slot < sources.length
  · rw [List.getElem?_eq_getElem given, List.getElem_append_left given]
    rfl
  · rw [List.getElem?_eq_none (Nat.not_lt.mp given),
      List.getElem_append_right (Nat.not_lt.mp given), List.getElem_replicate]
    rfl

/-- Empty slots behind the sources have no part in what is taken from the front. -/
theorem takeWhile_filled {taken : Source -> Bool} (stops : taken .empty = false)
    {sources : List Source} (fits : sources.length <= slotCount) :
    (Slots.filled sources).toList.takeWhile taken = sources.takeWhile taken := by
  rw [toList_filled fits, List.takeWhile_append]
  split
  · rename_i all
    have none : (List.replicate (slotCount - sources.length) Source.empty).takeWhile taken = [] := by
      rw [List.takeWhile_replicate, stops]
      rfl
    rw [none, List.append_nil]
    exact ((List.takeWhile_prefix taken).eq_of_length all).symm
  · rfl

theorem vanishes_empty : Source.empty.vanishes = true := by decide +kernel

theorem hasMass_of_not_vanishes {source : Source} (lasting : source.vanishes = false) :
    source.hasMass = true := by
  rw [PointSource.hasMass, ← Datum.isZero_ofFloat, Bool.not_eq_true']
  exact Bool.eq_false_iff.mpr fun zero =>
    Bool.eq_false_iff.mp lasting (Datum.isNegligible_of_isZero zero)

/-- The shader evaluates the active sources up to the first one whose mass vanishes when
it is packed. -/
theorem stop_eq_length_takeWhile {sources : List Source} (fits : sources.length <= slotCount) :
    (Slots.filled sources).pack.stop =
      ((activeSources sources).takeWhile fun source => !source.vanishes).length := by
  rw [stop_pack, takeWhile_filled (by rw [vanishes_empty]; rfl) fits, activeSources,
    List.take_of_length_le fits, List.takeWhile_takeWhile]
  congr 2
  funext source
  cases vanishes : source.vanishes with
  | true => simp
  | false => simp [hasMass_of_not_vanishes vanishes]

/-- The shader stops at the first source whose mass is zero as a single.  It evaluates no
more sources than are counted, and as many if no counted mass vanishes when it is packed. -/
theorem shader_stops_at_vanishing_mass {sources : List Source}
    (fits : sources.length <= slotCount) :
    Exists fun buffer : Buffer => pack sources = .ok buffer ∧
      buffer.stop = ((activeSources sources).takeWhile fun source => !source.vanishes).length ∧
      buffer.stop <= activeCount sources ∧
      (buffer.stop = activeCount sources ↔
        forall source, source ∈ activeSources sources -> source.vanishes = false) := by
  have stops := stop_eq_length_takeWhile fits
  have shorter := List.takeWhile_prefix (l := activeSources sources)
    fun source : Source => !source.vanishes
  refine ⟨(Slots.filled sources).pack, if_pos fits, stops, ?_, ?_⟩
  · rw [stops]
    exact shorter.length_le
  · rw [stops, activeCount]
    constructor
    · intro same source present
      rw [← shorter.eq_of_length same] at present
      simpa using List.mem_takeWhile_imp present
    · intro lasting
      rw [List.takeWhile_eq_self_iff.mpr fun source present => by simp [lasting source present]]

/-- A source with a mass that a single cannot hold. -/
def faintSource : Source := { Source.empty with mass := 1e-50 }

/-- A source of mass one. -/
def heavySource : Source := { Source.empty with mass := 1 }

/-- The shader does not reach what is behind a mass that vanishes. -/
theorem shader_stops_at_faintSource :
    Exists fun buffer : Buffer => pack [heavySource, faintSource, heavySource] = .ok buffer ∧
      buffer.stop = 1 ∧ activeCount [heavySource, faintSource, heavySource] = 3 := by
  rcases shader_stops_at_vanishing_mass
    (show [heavySource, faintSource, heavySource].length <= slotCount by decide) with
    ⟨buffer, packed, stops, _⟩
  exact ⟨buffer, packed, stops.trans (by decide +kernel), by decide +kernel⟩

/-- The count of sources is not the place where the shader stops. -/
theorem stop_ne_activeCount_of_faintSource :
    Exists fun buffer : Buffer => pack [faintSource] = .ok buffer ∧
      buffer.stop = 0 ∧ activeCount [faintSource] = 1 :=
  ⟨(Slots.filled [faintSource]).pack, rfl, by decide +kernel, by decide +kernel⟩

end ForceField
end ParticleEffects
