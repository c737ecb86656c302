import ParticleEffects.Proofs.NumberBits
import ParticleEffects.Proofs.ShaderSources

namespace ParticleEffects

/-!
What the buffer of a force field tells of its sources.

A shader lays out the fields of a structure one after the other, each at the next multiple of
its alignment, and the elements of an array at multiples of the largest one.  At these places it
finds the sources that were packed, with every number rounded to a single.

Nothing else is lost: a decoder that reads the buffer as the shader does gives sources that are
packed in the same way, and gives back what a single can hold.
-/

namespace Number

/-- The number that is left when it is kept as a single. -/
def Single.round (x : Float) : Float := toFloat (ofFloat x)

/-- A number that a single can hold. -/
def IsSingle (x : Float) : Prop := Exists fun single : Single => Single.toFloat single = x

theorem isSingle_iff {x : Float} : IsSingle x ↔ Single.round x = x := by
  constructor
  · rintro ⟨single, rfl⟩
    rw [Single.round, Single.ofFloat_toFloat]
  · exact fun kept => ⟨Single.ofFloat x, kept⟩

theorem Single.ofFloat_round (x : Float) : ofFloat (round x) = ofFloat x :=
  ofFloat_toFloat (ofFloat x)

end Number

namespace ForceField

open Number Spatial

/-! ## The places of fields -/

/-- The next multiple of an alignment. -/
def alignUp (place alignment : Nat) : Nat := (place + (alignment - 1)) / alignment * alignment

/-- The alignment of a type, in singles. -/
def alignmentOf (type : String) : Nat := if type = "vec3<f32>" then 4 else 1

/-- Where fields begin that follow a place, in singles. -/
def placesFrom : Nat -> List (String × String) -> List (String × Nat)
  | _, [] => []
  | place, (name, type) :: rest =>
    (name, alignUp place (alignmentOf type)) ::
      placesFrom (alignUp place (alignmentOf type) + singlesOf type) rest

/-- The place behind fields that follow a place. -/
def endFrom (place : Nat) (fields : List (String × String)) : Nat :=
  fields.foldl (fun place field => alignUp place (alignmentOf field.2) + singlesOf field.2) place

/-- The singles from one source to the next. -/
def stride : Nat :=
  alignUp (endFrom 0 fields) ((fields.map fun field => alignmentOf field.2).foldl max 1)

/-- Where a field of a source begins; what is no field is not within a source. -/
def offsetOf (name : String) : Nat := ((placesFrom 0 fields).lookup name).getD stride

/-- Sources are packed as densely as the shader reads them. -/
theorem stride_eq : stride = sourceSingles := by decide

/-- What a shader reads of a source. -/
structure ShaderSource where
  position : Vec3 Single
  maxRadius : Single
  minRadius : Single
  mass : Single
  forceExponent : Single
  conformToSphere : Single

theorem place_lt_sourceSingles (place : Fin stride) : place.val < sourceSingles :=
  Nat.lt_of_lt_of_eq place.isLt stride_eq

/-- The places of the slots follow each other. -/
theorem place_of_slot (slot : Fin slotCount) (place : Fin stride) :
    slot.val * stride + place.val < slotCount * sourceSingles ∧
      (slot.val * stride + place.val) / sourceSingles = slot.val ∧
      (slot.val * stride + place.val) % sourceSingles = place.val := by
  have begins : slot.val * stride = slot.val * 8 := congrArg (slot.val * ·) stride_eq
  have inside : slot.val < 16 := slot.isLt
  have within : place.val < 8 := place_lt_sourceSingles place
  change slot.val * stride + place.val < 16 * 8 ∧ (slot.val * stride + place.val) / 8 = slot.val ∧
    (slot.val * stride + place.val) % 8 = place.val
  omega

namespace Buffer

/-- The single at a place of a slot. -/
def single (buffer : Buffer) (slot : Fin slotCount) (place : Fin stride) : Single :=
  buffer.get ⟨slot.val * stride + place.val, (place_of_slot slot place).1⟩

/-- The source in a slot, each field where the shader has it. -/
def source (buffer : Buffer) (slot : Fin slotCount) : ShaderSource where
  position := {
    x := buffer.single slot ⟨offsetOf "position", by decide⟩
    y := buffer.single slot ⟨offsetOf "position" + 1, by decide⟩
    z := buffer.single slot ⟨offsetOf "position" + 2, by decide⟩ }
  maxRadius := buffer.single slot ⟨offsetOf "max_radius", by decide⟩
  minRadius := buffer.single slot ⟨offsetOf "min_radius", by decide⟩
  mass := buffer.single slot ⟨offsetOf "mass", by decide⟩
  forceExponent := buffer.single slot ⟨offsetOf "force_exponent", by decide⟩
  conformToSphere := buffer.single slot ⟨offsetOf "conform_to_sphere", by decide⟩

end Buffer

/-- The source in single precision; whether particles stick is told by one and zero. -/
def ShaderSource.ofSource (source : Source) : ShaderSource where
  position := source.position.map Component.single
  maxRadius := Single.ofFloat source.maxRadius
  minRadius := Single.ofFloat source.minRadius
  mass := Single.ofFloat source.mass
  forceExponent := Single.ofFloat source.forceExponent
  conformToSphere := Single.ofFloat (if source.conformToSphere then 1 else 0)

theorem single_pack (slots : Slots) (slot : Fin slotCount) (place : Fin stride) :
    slots.pack.single slot place =
      (slots.get slot).pack.get ⟨place.val, place_lt_sourceSingles place⟩ := by
  rcases place_of_slot slot place with ⟨_, quotient, remainder⟩
  simp only [Buffer.single, Slots.pack, Vector.get_eq_getElem, Vector.getElem_flatten, quotient,
    remainder, Vector.getElem_map]

/-- A shader finds every field of a packed source where it looks for it. -/
theorem source_pack (slots : Slots) (slot : Fin slotCount) :
    slots.pack.source slot = .ofSource (slots.get slot) := by
  simp only [Buffer.source, single_pack]
  rfl

/-! ## Sources that are read back -/

/-- The source with every number as a single has it. -/
def Source.round (source : Source) : Source where
  position := source.position.map fun entry => .number (Single.round entry.toFloat)
  maxRadius := Single.round source.maxRadius
  minRadius := Single.round source.minRadius
  mass := Single.round source.mass
  forceExponent := Single.round source.forceExponent
  conformToSphere := source.conformToSphere

/-- The source that a shader reads, with its singles as numbers. -/
def ShaderSource.toSource (source : ShaderSource) : Source where
  position := source.position.map fun single => .number (Single.toFloat single)
  maxRadius := Single.toFloat source.maxRadius
  minRadius := Single.toFloat source.minRadius
  mass := Single.toFloat source.mass
  forceExponent := Single.toFloat source.forceExponent
  conformToSphere := !source.conformToSphere.isZero

/-- The sources of all slots. -/
def Buffer.decode (buffer : Buffer) : List Source :=
  List.ofFn fun slot => (buffer.source slot).toSource

theorem toSource_ofSource (source : Source) :
    (ShaderSource.ofSource source).toSource = source.round := by
  have sticks : (!(Single.ofFloat (if source.conformToSphere then 1 else 0)).isZero) =
      source.conformToSphere := by
    cases source.conformToSphere <;> decide +kernel
  rw [ShaderSource.toSource, Source.round]
  exact congrArg _ sticks

theorem decode_pack (slots : Slots) : slots.pack.decode = slots.toList.map Source.round := by
  apply List.ext_getElem (by simp [Buffer.decode])
  intro slot inside _
  simp only [Buffer.decode, List.getElem_ofFn, source_pack, toSource_ofSource, List.getElem_map,
    Vector.getElem_toList]
  rfl

theorem single_round (entry : Component) :
    (Component.number (Single.round entry.toFloat)).single = entry.single :=
  Single.ofFloat_round entry.toFloat

/-- Packing rounds, and rounding twice is rounding once. -/
theorem pack_round (source : Source) : source.round.pack = source.pack := by
  simp only [Source.pack, Source.round, Vec3.map, single_round, Single.ofFloat_round]
  rfl

theorem pack_map_round (slots : Slots) : Slots.pack (slots.map Source.round) = slots.pack := by
  have same : Source.pack ∘ Source.round = Source.pack := funext pack_round
  rw [Slots.pack, Vector.map_map, same, Slots.pack]

theorem pack_decode (slots : Slots) : pack slots.pack.decode = .ok slots.pack := by
  have rounded : slots.toList.map Source.round = Vector.toList (slots.map Source.round) :=
    Vector.toList_map.symm
  rw [decode_pack, rounded, pack, if_pos (Nat.le_of_eq Vector.length_toList), Slots.filled_toList,
    pack_map_round]

/-- Empty slots may be given or left out. -/
theorem filled_append_replicate (sources : List Source) (count : Nat) :
    Slots.filled (sources ++ List.replicate count .empty) = Slots.filled sources := by
  ext slot inside
  rw [Slots.getElem_filled, Slots.getElem_filled]
  rcases Nat.lt_or_ge slot sources.length with given | beyond
  · rw [List.getElem?_append_left given]
  · rw [List.getElem?_append_right beyond, List.getElem?_eq_none beyond, List.getElem?_replicate]
    split <;> rfl

/-- A source of numbers that singles can hold. -/
structure Source.Representable (source : Source) : Prop where
  position : forall entry, entry ∈ source.position.toList ->
    Exists fun x => entry = .number x ∧ IsSingle x
  numbers : forall x,
    x ∈ [source.maxRadius, source.minRadius, source.mass, source.forceExponent] -> IsSingle x

theorem Source.Representable.round_eq {source : Source} (representable : source.Representable) :
    source.round = source := by
  rcases source with ⟨⟨x, y, z⟩, maxRadius, minRadius, mass, forceExponent, conformToSphere⟩
  have entries (entry : Component) (present : entry ∈ [x, y, z]) :
      .number (Single.round entry.toFloat) = entry := by
    rcases representable.position entry present with ⟨number, rfl, isSingle⟩
    exact congrArg Component.number (isSingle_iff.mp isSingle)
  have numbers (number : Float) (present : number ∈ [maxRadius, minRadius, mass, forceExponent]) :
      Single.round number = number :=
    isSingle_iff.mp (representable.numbers number present)
  simp only [Source.round, Vec3.map, entries x (by simp), entries y (by simp), entries z (by simp),
    numbers maxRadius (by simp), numbers minRadius (by simp), numbers mass (by simp),
    numbers forceExponent (by simp)]

/-- Full slots of representable sources are read back as they were. -/
theorem decode_pack_filled {sources : List Source} (full : sources.length = slotCount)
    (representable : forall source, source ∈ sources -> source.Representable) :
    (Slots.filled sources).pack.decode = sources := by
  have same : sources.map Source.round = sources := by
    have fixed := List.map_congr_left fun source present =>
      Source.Representable.round_eq (representable source present)
    exact fixed.trans (List.map_id sources)
  rw [decode_pack, toList_filled (Nat.le_of_eq full), full, Nat.sub_self, List.replicate_zero,
    List.append_nil, same]

/-- What is packed is found by the shader with every number rounded to a single, and nothing
else is lost. -/
theorem packing_loses_only_precision :
    (stride = 8 ∧ placesFrom 0 fields = [("position", 0), ("max_radius", 3), ("min_radius", 4),
      ("mass", 5), ("force_exponent", 6), ("conform_to_sphere", 7)]) ∧
    (forall sources : List Source,
      (slotCount < sources.length -> pack sources = .error (.unpackable sources.length)) ∧
      (sources.length <= slotCount -> Exists fun buffer : Buffer =>
        pack sources = .ok buffer ∧ buffer.toList.length = 128 ∧
        (forall slot : Fin slotCount,
          buffer.source slot = .ofSource (sources[slot.val]?.getD .empty) ∧
          (buffer.source slot).toSource = (sources[slot.val]?.getD .empty).round) ∧
        pack buffer.decode = .ok buffer ∧
        forall count, sources.length + count <= slotCount ->
          pack (sources ++ List.replicate count .empty) = .ok buffer)) ∧
    forall sources : List Source, sources.length = slotCount ->
      (forall source, source ∈ sources -> source.Representable) ->
      (Exists fun buffer : Buffer => pack sources = .ok buffer ∧ buffer.decode = sources) ∧
      forall others : List Source, others.length = slotCount ->
        (forall source, source ∈ others -> source.Representable) ->
        pack sources = pack others -> sources = others := by
  refine ⟨⟨by decide, by decide⟩,
    fun sources => ⟨fun many => if_neg (Nat.not_le.mpr many), fun fits => ?_⟩,
    fun sources full representable => ⟨?_, fun others full' representable' same => ?_⟩⟩
  · refine ⟨(Slots.filled sources).pack, if_pos fits, Vector.length_toList, fun slot => ?_,
      pack_decode _, fun count fits' => ?_⟩
    · have held : (Slots.filled sources).get slot = sources[slot.val]?.getD .empty :=
        Slots.getElem_filled sources slot.val slot.isLt
      rw [source_pack, toSource_ofSource, held]
      exact ⟨rfl, rfl⟩
    · rw [pack, filled_append_replicate]
      apply if_pos
      rw [List.length_append, List.length_replicate]
      exact fits'
  · exact ⟨_, if_pos (Nat.le_of_eq full), decode_pack_filled full representable⟩
  · rw [pack, if_pos (Nat.le_of_eq full), pack, if_pos (Nat.le_of_eq full'),
      Except.ok.injEq] at same
    rw [← decode_pack_filled full representable, same, decode_pack_filled full' representable']

/-- A source of numbers that singles can hold. -/
def beacon : Source where
  position := { x := .number 1, y := .number 2, z := .number (-0.5) }
  maxRadius := 10
  minRadius := 0.5
  mass := 4
  forceExponent := 2
  conformToSphere := true

theorem beacons_are_read_back :
    (Exists fun buffer : Buffer => pack [beacon] = .ok buffer ∧
      buffer.source ⟨0, by decide⟩ = .ofSource beacon ∧
      buffer.source ⟨1, by decide⟩ = .ofSource .empty ∧
      pack [beacon, .empty] = .ok buffer) ∧
    Exists fun buffer : Buffer => pack (List.replicate 16 beacon) = .ok buffer ∧
      buffer.decode = List.replicate 16 beacon := by
  refine ⟨?_, ?_⟩
  · rcases (packing_loses_only_precision.2.1 [beacon]).2 (by decide) with
      ⟨buffer, packed, _, slots, _, padded⟩
    exact ⟨buffer, packed, (slots ⟨0, by decide⟩).1, (slots ⟨1, by decide⟩).1, padded 1 (by decide)⟩
  · refine (packing_loses_only_precision.2.2 (List.replicate 16 beacon) (by decide) ?_).1
    intro source present
    cases List.eq_of_mem_replicate present
    refine ⟨fun entry present => ?_, fun x present => ?_⟩
    · have kept : forall entry, entry ∈ beacon.position.toList ->
          entry = .number entry.toFloat ∧ Single.round entry.toFloat = entry.toFloat := by
        decide +kernel
      exact ⟨_, (kept entry present).1, isSingle_iff.mpr (kept entry present).2⟩
    · have kept : forall x,
          x ∈ [beacon.maxRadius, beacon.minRadius, beacon.mass, beacon.forceExponent] ->
          Single.round x = x := by
        decide +kernel
      exact isSingle_iff.mpr (kept x present)

end ForceField
end ParticleEffects
