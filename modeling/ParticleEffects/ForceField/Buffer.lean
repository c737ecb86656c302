import ParticleEffects.ForceField.Slots

namespace ParticleEffects
namespace ForceField

/-!
The buffer through which a shader reads a force field.

Every source takes eight singles in the order of the declared fields, slot after
slot, and absent sources are packed as empty slots.
-/

open Number

/-- The fields of a source in the shader, with their types. -/
def fields : List (String × String) :=
  [("position", "vec3<f32>"), ("max_radius", "f32"), ("min_radius", "f32"),
    ("mass", "f32"), ("force_exponent", "f32"), ("conform_to_sphere", "f32")]

/-- The declaration that a shader reads the buffer with. -/
def declaration : String :=
  "\nconst FFNUM: u32 = " ++ toString slotCount ++ "u;\n\nstruct ForceFieldSource \x7b\n"
    ++ String.join (fields.map fun field => "    " ++ field.1 ++ ": " ++ field.2 ++ ",\n")
    ++ "\x7d"

/-- The singles that one source takes. -/
def sourceSingles : Nat := 8

/-- The size of the buffer in bytes. -/
def bufferBytes : Nat := slotCount * sourceSingles * 4

def Source.pack (source : Source) : Vector Single sourceSingles :=
  #v[source.position.x.single, source.position.y.single, source.position.z.single,
    Single.ofFloat source.maxRadius, Single.ofFloat source.minRadius,
    Single.ofFloat source.mass, Single.ofFloat source.forceExponent,
    Single.ofFloat (if source.conformToSphere then 1 else 0)]

abbrev Buffer := Vector Single (slotCount * sourceSingles)

def Slots.pack (slots : Slots) : Buffer := (slots.map Source.pack).flatten

def pack (sources : List Source) : Except SlotError Buffer :=
  if sources.length <= slotCount then .ok (Slots.filled sources).pack
  else .error (.unpackable sources.length)

end ForceField
end ParticleEffects
