import ParticleEffects.Proofs.NumberArithmetic
import ParticleEffects.Proofs.PositionText
import ParticleEffects.Proofs.ShaderSources

namespace ParticleEffects

/-!
Equal values in place of each other.

Values are equal as floating-point numbers are: the two zeros are equal and what is not a
number differs from itself, so that equality is no equivalence.  What is printed of a value
does not tell equal ones apart, since both zeros have one literal.  In a speed a value may
therefore be replaced by an equal one, whatever the others are.
-/

open Number Wgsl Spatial

namespace Number

/-! ## Equal numbers -/

theorem beq_symm {x y : Float} (same : (x == y) = true) : (y == x) = true :=
  (beq_iff y x).mpr ((beq_iff x y).mp same).symm

theorem beq_trans {x y z : Float} (first : (x == y) = true) (second : (y == z) = true) :
    (x == z) = true := by
  rcases (beq_iff x y).mp first with ⟨below, above⟩
  rcases (beq_iff y z).mp second with ⟨below', above'⟩
  exact (beq_iff x z).mpr ⟨le_trans below below', le_trans above' above⟩

theorem beq_self_iff (x : Float) : (x == x) = true ↔ x.isNaN = false :=
  ⟨fun same => (isNaN_of_le ((beq_iff x x).mp same).1).1, beq_self⟩

/-- Equal numbers are the same single, or both of them are zero. -/
theorem Single.eq_or_isZero_of_beq {x y : Float} (same : (x == y) = true) :
    Single.ofFloat x = Single.ofFloat y ∨
      (Single.ofFloat x).isZero = true ∧ (Single.ofFloat y).isZero = true := by
  have isZero (z : Float) (zero : Exists fun sign => (Datum.ofFloat z).unpacked = .zero sign) :
      (Single.ofFloat z).isZero = true := by
    rw [← unpack_eq_unpacked, ← beq_zero_iff, ← Datum.isZero_ofFloat] at zero
    rw [Single.ofFloat, Datum.isZero_convert]
    exact Datum.isNegligible_of_isZero zero
  rcases (beq_iff_place x y).mp same with ⟨place, found, found'⟩
  rcases Datum.eq_or_zeros_of_place found found' with equal | ⟨sign, sign', zero, zero'⟩
  · exact .inl (congrArg (Datum.convert .single) equal)
  · exact .inr ⟨isZero x ⟨sign, zero⟩, isZero y ⟨sign', zero'⟩⟩

end Number

namespace Wgsl

/-- Zero is written without its sign. -/
theorem literal_of_isZero {x : Single} (zero : x.isZero = true) : literal x = ['0', '.'] := by
  cases x with
  | nan => cases zero
  | signed negative pattern =>
    have least : pattern = 0 := Fin.ext ((Datum.isZero_signed negative pattern).mp zero)
    rw [least]
    cases negative <;> decide +kernel

/-- Equal numbers have one literal. -/
theorem literalText_eq_of_beq {x y : Float} (same : (x == y) = true) :
    literalText x = literalText y := by
  rw [literalText, literalText]
  rcases Single.eq_or_isZero_of_beq same with equal | ⟨zero, zero'⟩
  · rw [equal]
  · rw [literal_of_isZero zero, literal_of_isZero zero']

end Wgsl

namespace Spawn

/-! ## Equal values -/

namespace Value

/-- A value all of whose numbers are numbers. -/
def IsNumeric : Value -> Prop
  | .single value => value.isNaN = false
  | .uniform min max => min.isNaN = false ∧ max.isNaN = false

theorem equals_symm {value other : Value} (same : value.equals other = true) :
    other.equals value = true := by
  cases value with
  | single x =>
    cases other with
    | single y => exact beq_symm same
    | uniform min' max' => cases same
  | uniform min max =>
    cases other with
    | single y => cases same
    | uniform min' max' =>
      rcases Bool.and_eq_true_iff.mp same with ⟨least, greatest⟩
      exact Bool.and_eq_true_iff.mpr ⟨beq_symm least, beq_symm greatest⟩

theorem equals_trans {value other third : Value} (first : value.equals other = true)
    (second : other.equals third = true) : value.equals third = true := by
  cases value with
  | single x =>
    cases other with
    | single y =>
      cases third with
      | single z => exact beq_trans first second
      | uniform min max => cases second
    | uniform min max => cases first
  | uniform min max =>
    cases other with
    | single y => cases first
    | uniform min' max' =>
      cases third with
      | single z => cases second
      | uniform min'' max'' =>
        rcases Bool.and_eq_true_iff.mp first with ⟨least, greatest⟩
        rcases Bool.and_eq_true_iff.mp second with ⟨least', greatest'⟩
        exact Bool.and_eq_true_iff.mpr ⟨beq_trans least least', beq_trans greatest greatest'⟩

theorem equals_self_iff (value : Value) : value.equals value = true ↔ value.IsNumeric := by
  cases value with
  | single x => exact beq_self_iff x
  | uniform min max =>
    rw [equals, Bool.and_eq_true_iff, beq_self_iff, beq_self_iff]
    exact Iff.rfl

/-- Equal values are printed alike. -/
theorem alike_of_equals {value other : Value} (same : value.equals other = true) :
    value.Alike other := by
  cases value with
  | single x =>
    cases other with
    | single y => exact literalText_eq_of_beq same
    | uniform min' max' => cases same
  | uniform min max =>
    cases other with
    | single y => cases same
    | uniform min' max' =>
      rcases Bool.and_eq_true_iff.mp same with ⟨least, greatest⟩
      exact ⟨literalText_eq_of_beq least, literalText_eq_of_beq greatest⟩

/-- A value in the place of another: that value itself, or an equal one. -/
def StandsFor (value other : Value) : Prop := value = other ∨ value.equals other = true

theorem StandsFor.alike {value other : Value} (stands : value.StandsFor other) :
    value.Alike other := by
  rcases stands with rfl | same
  · exact Alike.refl value
  · exact alike_of_equals same

end Value

/-! ## Speeds with values replaced -/

/-- A speed of the same rule, with any of its values replaced by equal ones. -/
inductive Speed.StandsFor : Speed -> Speed -> Prop where
  | normal {speed other : Value} : speed.StandsFor other ->
    StandsFor (.normal speed) (.normal other)
  | radial {speed other : Value} : speed.StandsFor other ->
    StandsFor (.radial speed) (.radial other)
  | frame {x y z x' y' z' : Value} : x.StandsFor x' -> y.StandsFor y' -> z.StandsFor z' ->
    StandsFor (.frame x y z) (.frame x' y' z')
  | world {x y z x' y' z' : Value} : x.StandsFor x' -> y.StandsFor y' -> z.StandsFor z' ->
    StandsFor (.world x y z) (.world x' y' z')

namespace Speed.StandsFor

variable {speed other : Speed}

theorem roundAlike (stands : speed.StandsFor other) (rotation : Components) :
    RoundAlike rotation rotation speed other := by
  cases stands with
  | normal value => exact value.alike
  | radial value => exact value.alike
  | frame x y z => exact ⟨rfl, x.alike, y.alike, z.alike⟩
  | world x y z => exact ⟨x.alike, y.alike, z.alike⟩

theorem boxAlike (stands : speed.StandsFor other) : BoxAlike speed other := by
  cases stands with
  | normal value => exact value.alike
  | radial value => exact value.alike
  | frame x y z => exact ⟨x.alike, y.alike, z.alike⟩
  | world x y z => exact ⟨x.alike, y.alike, z.alike⟩

/-- Nothing else of a description is printed in another way. -/
theorem spawner_alike {spawner : Spawner Components} (stands : speed.StandsFor spawner.speed) :
    { spawner with speed := speed }.Alike spawner where
  dimension := rfl
  center := rfl
  shape := by
    unfold ShapeAlike
    dsimp only
    cases spawner.shape with
    | circle radius => exact ⟨rfl, rfl, rfl, stands.roundAlike _⟩
    | sphere radius => exact ⟨rfl, stands.roundAlike _⟩
    | cube extents => exact ⟨rfl, rfl, stands.boxAlike⟩

end Speed.StandsFor

/-- Equality of values is symmetric and transitive, and reflexive where all is a number.
Equal values have one text, and where one of them stands for the other in a speed, the code
of every shape is the same. -/
theorem equal_values_are_interchangeable :
    (forall value other : Value, value.equals other = true -> other.equals value = true) ∧
    (forall value other third : Value, value.equals other = true ->
      other.equals third = true -> value.equals third = true) ∧
    (forall value : Value, value.equals value = true ↔ value.IsNumeric) ∧
    (forall value other : Value, value.equals other = true ->
      value.expr.text = other.expr.text) ∧
    forall (spawner : Spawner Components) (speed : Speed), speed.StandsFor spawner.speed ->
      { spawner with speed := speed }.positionCode = spawner.positionCode := by
  refine ⟨fun _ _ => Value.equals_symm, fun _ _ _ => Value.equals_trans, Value.equals_self_iff,
    fun value other same => (text_value_inj value other).mpr (Value.alike_of_equals same),
    fun spawner speed stands => ?_⟩
  rw [positionCode_inj, lines_block_inj, statements_inj]
  exact stands.spawner_alike

/-- A box whose particles start in a direction of which one component is no number. -/
def driftingBox : Spawner Components := .ofOptions {
  shape := .cube none
  speed := some (.world (.uniform (-0.0) 1) (.single (0 / 0)) (.single 2)) }

/-- A zero is replaced beside what is no number. -/
theorem driftingBox_with_other_zero :
    (Value.uniform 0 1).equals (.uniform (-0.0) 1) = true ∧
      (Value.uniform (-0.0) 1).equals (.uniform 0 1) = true ∧
      (Value.single (0 / 0)).equals (.single (0 / 0)) = false ∧
      (Value.uniform 0 1).expr.text = (Value.uniform (-0.0) 1).expr.text ∧
      { driftingBox with
        speed := (.world (.uniform 0 1) (.single (0 / 0)) (.single 2) : Speed) }.positionCode =
        driftingBox.positionCode := by
  have same : (Value.uniform 0 1).equals (.uniform (-0.0) 1) = true := by decide +kernel
  have different : (Value.single (0 / 0)).equals (.single (0 / 0)) = false := by decide +kernel
  rcases equal_values_are_interchangeable with ⟨symmetric, _, _, texts, codes⟩
  exact ⟨same, symmetric _ _ same, different, texts _ _ same,
    codes driftingBox _ (.world (.inr same) (.inl rfl) (.inl rfl))⟩

end Spawn
end ParticleEffects
