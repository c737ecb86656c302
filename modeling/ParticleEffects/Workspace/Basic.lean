import ParticleEffects.Workspace.Object

namespace ParticleEffects

/-!
A workspace: the objects that one session has made, and the names it gave to some
of them.

Objects are never removed, and one that is added is referred to by nothing yet.  A
name can be given to an object in place of another one, and two names can stand for
one object.
-/

open Spatial ForceField Spawn

namespace Workspace

/-- Why a command could not be carried out. -/
inductive Failure where
  | unknownName (name : String)
  /-- The asset is not one that the command applies to. -/
  | unsuitable
  /-- A list cannot be given what was assigned as its length. -/
  | invalidLength
  | configuration (error : ConfigError)
  | slots (error : SlotError)
  | sampling (error : Gradient.SampleError)

def invalidLengthMessage : String := "Invalid array length"

end Workspace

structure Workspace where
  objects : Array Workspace.Object := #[]
  /-- The assets by name; of several assets of one name the first one counts. -/
  names : List (String × Workspace.Asset) := []

namespace Workspace

section Objects

variable {α β : Type} [Storable α] [Storable β]

def get? (workspace : Workspace) (handle : Handle α) : Option α :=
  workspace.objects[handle.address]?.bind Storable.content?

/-- Adds an object that nothing refers to yet. -/
def add (workspace : Workspace) (content : α) : Workspace × Handle α :=
  ({ workspace with objects := workspace.objects.push (Storable.object content) },
    { address := workspace.objects.size })

/-- Assigns to an object, which is seen wherever it is referred to. -/
def set (workspace : Workspace) (handle : Handle α) (content : α) : Workspace :=
  { workspace with
    objects := workspace.objects.setIfInBounds handle.address (Storable.object content) }

theorem get?_add_self (workspace : Workspace) (content : α) :
    (workspace.add content).1.get? (workspace.add content).2 = some content := by
  simp [get?, add, Storable.content?_object]

theorem get?_eq_some_iff {workspace : Workspace} {handle : Handle α} {content : α} :
    workspace.get? handle = some content ↔
      workspace.objects[handle.address]? = some (Storable.object content) := by
  constructor
  · intro present
    obtain ⟨held, found, same⟩ := Option.bind_eq_some_iff.mp present
    rw [found, Storable.eq_object same]
  · intro found
    rw [get?, found, Option.bind_some, Storable.content?_object]

theorem address_lt_of_get? {workspace : Workspace} {handle : Handle α} {content : α}
    (present : workspace.get? handle = some content) :
    handle.address < workspace.objects.size :=
  (Array.getElem?_eq_some_iff.mp (get?_eq_some_iff.mp present)).choose

theorem get?_set_self {workspace : Workspace} {handle : Handle α} {held : α}
    (present : workspace.get? handle = some held) (content : α) :
    (workspace.set handle content).get? handle = some content := by
  simp [get?, set, address_lt_of_get? present, Storable.content?_object]

theorem get?_set_ne (workspace : Workspace) {changed : Handle α} {handle : Handle β}
    (different : changed.address ≠ handle.address) (content : α) :
    (workspace.set changed content).get? handle = workspace.get? handle := by
  simp [get?, set, Array.getElem?_setIfInBounds_ne different]

end Objects

/-- Adds an object for each of several contents, one after the other. -/
def addEach {Content Result : Type} (add : Workspace -> Content -> Workspace × Result) :
    Workspace -> List Content -> Workspace × List Result
  | workspace, [] => (workspace, [])
  | workspace, content :: rest =>
    let (extended, result) := add workspace content
    let (final, results) := addEach add extended rest
    (final, result :: results)

def lookup (workspace : Workspace) (name : String) : Option Asset :=
  workspace.names.lookup name

/-- Gives a name to an asset, in place of what had the name. -/
def bind (workspace : Workspace) (name : String) (asset : Asset) : Workspace :=
  { workspace with names := (name, asset) :: workspace.names }

@[simp]
theorem lookup_bind_self (workspace : Workspace) (name : String) (asset : Asset) :
    (workspace.bind name asset).lookup name = some asset := by
  simp [lookup, bind]

theorem lookup_bind_ne (workspace : Workspace) {bound name : String} (asset : Asset)
    (different : name ≠ bound) :
    (workspace.bind bound asset).lookup name = workspace.lookup name := by
  simp [lookup, bind, List.lookup_cons, beq_false_of_ne different]

/-- What is there, or the failure that the asset is not suitable. -/
def orUnsuitable {α : Type} : Option α -> Except Failure α
  | some found => .ok found
  | none => .error .unsuitable

def find (workspace : Workspace) (name : String) : Except Failure Asset :=
  match workspace.lookup name with
  | some asset => .ok asset
  | none => .error (.unknownName name)

def findVector (workspace : Workspace) (name : String) :
    Except Failure (Handle Components) := do
  match <- workspace.find name with
  | .vector handle => .ok handle
  | _ => .error .unsuitable

def findSource (workspace : Workspace) (name : String) :
    Except Failure (Handle StoredSource) := do
  match <- workspace.find name with
  | .source handle => .ok handle
  | _ => .error .unsuitable

def findGradient (workspace : Workspace) (name : String) :
    Except Failure (Handle StoredGradient) := do
  match <- workspace.find name with
  | .gradient handle => .ok handle
  | _ => .error .unsuitable

def findValue (workspace : Workspace) (name : String) : Except Failure (Handle Value) := do
  match <- workspace.find name with
  | .value handle => .ok handle
  | _ => .error .unsuitable

def findSpeed (workspace : Workspace) (name : String) :
    Except Failure (Handle StoredSpeed) := do
  match <- workspace.find name with
  | .speed handle => .ok handle
  | _ => .error .unsuitable

def findModifier (workspace : Workspace) (name : String) :
    Except Failure (Handle StoredModifier) := do
  match <- workspace.find name with
  | .modifier handle => .ok handle
  | _ => .error .unsuitable

def findEffect (workspace : Workspace) (name : String) :
    Except Failure (Handle StoredEffect) := do
  match <- workspace.find name with
  | .effect handle => .ok handle
  | _ => .error .unsuitable

/-- The slots that the force field modifier of a name refers to. -/
def findSlots (workspace : Workspace) (name : String) :
    Except Failure (Handle StoredSlots) := do
  match workspace.get? (<- workspace.findModifier name) with
  | some (.forceField slots) => .ok slots
  | _ => .error .unsuitable

end Workspace

end ParticleEffects
