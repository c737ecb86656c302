import ParticleEffects.Number.Datum
import ParticleEffects.Spatial.Vec

namespace ParticleEffects
namespace Spatial

/-!
Vectors that are open to writes at any place.

Such a vector may have any length, and entries of it that were never written are
missing.  A copy takes a fixed number of entries from the front, and what is
missing there is missing in the copy; only where an entry is computed with does a
missing one count as no number.
-/

open Number

/-- One entry of a vector. -/
inductive Component where
  /-- Nothing was written. -/
  | missing
  | number (x : Float)
  deriving DecidableEq

namespace Component

/-- The number that is computed with. -/
def toFloat : Component -> Float
  | .missing => 0 / 0
  | .number x => x

def single (component : Component) : Single := Single.ofFloat component.toFloat

instance : Add Component where
  add a b := .number (a.toFloat + b.toFloat)

instance : Sub Component where
  sub a b := .number (a.toFloat - b.toFloat)

instance : HMul Component Float Component where
  hMul a factor := .number (a.toFloat * factor)

end Component

/-- The entries of a vector of any length. -/
abbrev Components := List Component

/-- The length that no list reaches. -/
def lengthLimit : Nat := Nat.pow 2 32

/-- A list cut off or filled up to a length. -/
def resize {α : Type} (filler : α) (entries : List α) (length : Nat) : List α :=
  entries.take length ++ List.replicate (length - entries.length) filler

/-- A list with one entry written, and filled up to it where it was shorter. -/
def writeAt {α : Type} (filler : α) (entries : List α) (place : Nat) (entry : α) : List α :=
  (entries ++ List.replicate (place + 1 - entries.length) filler).set place entry

namespace Components

def ofNumbers (xs : List Float) : Components := xs.map .number

def ofVec3 (v : Vec3 Component) : Components := v.toList

/-- The entry at a place, missing where there is none. -/
def entry (entries : Components) (place : Nat) : Component := entries[place]?.getD .missing

/-- The first three entries. -/
def vec3 (entries : Components) : Vec3 Component :=
  { x := entries.entry 0, y := entries.entry 1, z := entries.entry 2 }

/-- The first four entries. -/
def quat (entries : Components) : Quat Component :=
  { x := entries.entry 0, y := entries.entry 1, z := entries.entry 2, w := entries.entry 3 }

/-- The first `n` entries. -/
def toVector (n : Nat) (entries : Components) : Vector Component n :=
  Vector.ofFn fun place => entries.entry place

/-- The vector of the first `n` entries. -/
def copy (n : Nat) (entries : Components) : Components := (entries.toVector n).toList

/-- The vector with one entry written, and the entries up to it missing where there
were none. -/
def write (entries : Components) (place : Nat) (x : Float) : Components :=
  writeAt .missing entries place (.number x)

/-- The first three entries increased by a vector. -/
def add (entries : Components) (v : Vec3 Component) : Components :=
  ofVec3 (entries.vec3 + v) ++ entries.drop 3

@[simp]
theorem length_copy (n : Nat) (entries : Components) : (entries.copy n).length = n := by
  simp [copy]

/-- A vector of just the length of the copy is copied as it is. -/
theorem copy_of_length {n : Nat} {entries : Components} (complete : entries.length = n) :
    entries.copy n = entries := by
  subst complete
  apply List.ext_getElem (length_copy _ _)
  intro place _ _
  simp [copy, toVector, entry]

end Components

end Spatial
end ParticleEffects
