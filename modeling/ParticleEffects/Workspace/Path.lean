import ParticleEffects.Number.Decimal
import ParticleEffects.Workspace.Basic

namespace ParticleEffects
namespace Workspace

/-!
Paths into a value, what can be assigned at their end, and assignment inside a
value that an asset hands out.

Such a value is a copy.  An assignment inside it ends with it, so that of the
value only its outline matters: what can be reached in it decides whether the
assignment can be made at all.
-/

open Spatial ForceField

inductive PathStep where
  /-- The place of an entry in a list. -/
  | index (n : Nat)
  | member (name : String)
  deriving DecidableEq

namespace PathStep

/-- The step of a name.  The decimal text of a natural number is a place as long as a
list can have an entry there; any other name is that of a member. -/
def ofName (name : String) : PathStep :=
  match Number.readNatural? 10 name.toList with
  | some n =>
    if Nat.toDigits 10 n = name.toList && n + 1 < lengthLimit then .index n else .member name
  | none => .member name

/-- A number is the step of its text. -/
def ofNumber (x : Float) : PathStep := .ofName (Number.text x)

end PathStep

abbrev Path := List PathStep

/-- What can be assigned. -/
inductive Content where
  | number (x : Float)
  | flag (b : Bool)
  | text (s : String)

/-- The whole number that a content counts as.  A flag counts as one or zero, and
a text as the number it spells. -/
def Content.natural? : Content -> Option Nat
  | .number x => Number.natural? x
  | .flag b => some b.toNat
  | .text s => (Number.readNumber? s.toList).bind fun decimal => decimal.datum.natural?

/-- The length of a list that a content stands for. -/
def Content.length (content : Content) : Except Failure Nat :=
  match content.natural? with
  | some n => if n < lengthLimit then .ok n else .error .invalidLength
  | none => .error .invalidLength

/-- A record with an assignment to none of its members.  A member that the record
does not have is added, and nothing of the record depends on it. -/
def assignUnused {Record : Type} (record : Record) (members : List String) (path : Path) :
    Except Failure Record :=
  match path with
  | [.index _] => .ok record
  | [.member name] => if members.contains name then .error .unsuitable else .ok record
  | _ => .error .unsuitable

/-- A vector of any length with an assignment made in it. -/
def assignComponents (entries : Components) (path : Path) (content : Content) :
    Except Failure Components :=
  match path, content with
  | [.index place], .number x => .ok (entries.write place x)
  | [.index _], _ => .error .unsuitable
  | [.member "length"], content => do return resize .missing entries (<- content.length)
  | path, _ => assignUnused entries [] path

/-- What can be reached inside a value. -/
inductive Outline where
  | scalar
  | list (entries : List Outline)
  | record (members : List (String × Outline))

namespace Outline

def vector (length : Nat) : Outline := .list (List.replicate length .scalar)

def source : Outline :=
  .record [("position", vector 3), ("maxRadius", .scalar), ("minRadius", .scalar),
    ("mass", .scalar), ("forceExponent", .scalar), ("conformToSphere", .scalar)]

def sources (count : Nat) : Outline := .list (List.replicate count source)

/-- The keys of a gradient whose values have `width` components. -/
def keys (count width : Nat) : Outline :=
  .list (List.replicate count (.record [("ratio", .scalar), ("value", vector width)]))

def inside? : Outline -> PathStep -> Option Outline
  | .list entries, .index n => entries[n]?
  | .list _, .member "length" => some .scalar
  | .record members, .member name => members.lookup name
  | _, _ => none

/-- Whether a path leads to a number or a flag that is there.  The length of a list is
none. -/
def holds : Outline -> Path -> Bool
  | .scalar, [] => true
  | _, [] => false
  | _, .member "length" :: _ => false
  | outline, step :: rest =>
    match outline.inside? step with
    | some inner => inner.holds rest
    | none => false

/-- Whether the last step of a path can be assigned to.  Lists and records take
anything at any place, only the length of a list has to be one. -/
def accept : Outline -> PathStep -> Content -> Except Failure Unit
  | .scalar, _, _ => .error .unsuitable
  | .list _, .member "length", content => do
    let _ <- content.length
    return ()
  | _, _, _ => .ok ()

/-- Whether an assignment can be made inside a value of this outline. -/
def assign (outline : Outline) : Path -> Content -> Except Failure Unit
  | [], _ => .error .unsuitable
  | [last], content => outline.accept last content
  | step :: rest, content =>
    match outline.inside? step with
    | some inner => inner.assign rest content
    | none => .error .unsuitable

end Outline

end Workspace
end ParticleEffects
