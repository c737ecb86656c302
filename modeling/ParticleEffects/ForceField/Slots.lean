import ParticleEffects.ForceField.Source
import ParticleEffects.Number.Shortest

namespace ParticleEffects
namespace ForceField

/-!
The sixteen slots of a force field.

Sources fill the slots from the front and the rest stay empty.  A slot is
addressed by a number, which has to be a whole one below the number of slots;
a refused address leaves the slots alone, since it yields none.
-/

inductive SlotError where
  /-- More sources than slots were given. -/
  | tooManySources
  /-- More sources than slots were to be packed. -/
  | unpackable (count : Nat)
  | outOfRange (index : Float)
  deriving DecidableEq

def SlotError.message : SlotError -> String
  | .tooManySources =>
    "Too many point attractors: a force field holds at most " ++ toString slotCount
  | .unpackable count =>
    "Force field has " ++ toString count ++ " sources, the GPU layout holds "
      ++ toString slotCount
  | .outOfRange index =>
    "Force field slot " ++ Number.text index ++ " is out of range [0, "
      ++ toString slotCount ++ ")"

abbrev Slots := Vector Source slotCount

namespace Slots

def empty : Slots := Vector.replicate slotCount .empty

/-- The slots that begin with the given sources. -/
def filled (sources : List Source) : Slots :=
  Vector.ofFn fun slot => sources[slot.val]?.getD .empty

def ofSources (sources : List Source) : Except SlotError Slots :=
  if sources.length <= slotCount then .ok (filled sources) else .error .tooManySources

/-- The slots of a list that holds one source for each. -/
def ofList? (sources : List Source) : Option Slots :=
  if complete : sources.length = slotCount then
    some { toArray := sources.toArray, size_toArray := complete }
  else
    none

/-- The slot that a number addresses. -/
def address? (index : Float) : Option (Fin slotCount) :=
  match Number.natural? index with
  | some slot => if inside : slot < slotCount then some ⟨slot, inside⟩ else none
  | none => none

def address (index : Float) : Except SlotError (Fin slotCount) :=
  match address? index with
  | some slot => .ok slot
  | none => .error (.outOfRange index)

def activeSources (slots : Slots) : List Source := ForceField.activeSources slots.toList

def activeCount (slots : Slots) : Nat := ForceField.activeCount slots.toList

@[simp]
theorem getElem_filled (sources : List Source) (slot : Nat) (inside : slot < slotCount) :
    (filled sources)[slot] = sources[slot]?.getD .empty := by
  simp [filled]

theorem filled_toList (slots : Slots) : filled slots.toList = slots := by
  ext slot inside
  rw [getElem_filled, Vector.getElem?_toList, Vector.getElem?_eq_getElem inside]
  rfl

theorem ofList?_toList (slots : Slots) : ofList? slots.toList = some slots := by
  rw [ofList?, dif_pos slots.length_toList]
  simp [Vector.toList]

end Slots

end ForceField
end ParticleEffects
