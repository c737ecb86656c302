import ParticleEffects.Effect.Compile
import ParticleEffects.Workspace.Draft

namespace ParticleEffects
namespace Workspace

/-!
The objects of a workspace.

An object holds its numbers, flags and texts itself and refers to every other
object by a handle, so that several objects may refer to one.  An assignment to an
object is seen wherever it is referred to.  Handles carry the type of what they
lead to, and objects of all types share one sequence of addresses.
-/

open Spatial ForceField Spawn

structure Handle (α : Type) where
  address : Nat

instance {α : Type} : DecidableEq (Handle α) := fun first second =>
  if same : first.address = second.address then
    isTrue (by cases first; cases second; exact congrArg _ same)
  else
    isFalse (fun equal => same (congrArg _ equal))

/-- A source with its position as an object of its own. -/
abbrev StoredSource := PointSource (Handle Components)

/-- The slots of a force field; a slot that was never filled is missing. -/
abbrev StoredSlots := List (Option (Handle StoredSource))

/-- A gradient with the values of its keys as objects of their own. -/
structure StoredGradient where
  kind : GradientKind
  gradient : Gradient Float (Handle Components)

/-- A speed with its scalars as objects of their own. -/
abbrev StoredSpeed := Speed (Handle Value)

abbrev StoredModifier :=
  Modifier (Handle Components) (Handle StoredSlots) (Handle StoredGradient) StoredHooks
    (Handle StoredSpeed)

abbrev StoredEffect := Effect (Handle StoredModifier)

structure StoredUpdate where
  accel : Handle Components
  forceField : Handle StoredSlots

structure StoredRender where
  particleTexture : Option Float := none
  colorGradient : Option (Handle StoredGradient) := none
  sizeGradient : Option (Handle StoredGradient) := none

inductive Object where
  | vector (entries : Components)
  | source (source : StoredSource)
  | slots (slots : StoredSlots)
  | gradient (gradient : StoredGradient)
  | value (value : Value)
  | speed (speed : StoredSpeed)
  | modifier (modifier : StoredModifier)
  | effect (effect : StoredEffect)
  | initLayout (layout : InitLayout)
  | updateLayout (layout : StoredUpdate)
  | renderLayout (layout : StoredRender)

/-- The kinds of objects. -/
inductive Kind where
  | vector
  | source
  | slots
  | gradient
  | value
  | speed
  | modifier
  | effect
  | initLayout
  | updateLayout
  | renderLayout
  deriving DecidableEq

def Object.kind : Object -> Kind
  | .vector _ => .vector
  | .source _ => .source
  | .slots _ => .slots
  | .gradient _ => .gradient
  | .value _ => .value
  | .speed _ => .speed
  | .modifier _ => .modifier
  | .effect _ => .effect
  | .initLayout _ => .initLayout
  | .updateLayout _ => .updateLayout
  | .renderLayout _ => .renderLayout

/-- What an object of a kind holds. -/
def Kind.Content : Kind -> Type
  | .vector => Components
  | .source => StoredSource
  | .slots => StoredSlots
  | .gradient => StoredGradient
  | .value => Value
  | .speed => StoredSpeed
  | .modifier => StoredModifier
  | .effect => StoredEffect
  | .initLayout => InitLayout
  | .updateLayout => StoredUpdate
  | .renderLayout => StoredRender

def Kind.object : (kind : Kind) -> kind.Content -> Object
  | .vector => Object.vector
  | .source => Object.source
  | .slots => Object.slots
  | .gradient => Object.gradient
  | .value => Object.value
  | .speed => Object.speed
  | .modifier => Object.modifier
  | .effect => Object.effect
  | .initLayout => Object.initLayout
  | .updateLayout => Object.updateLayout
  | .renderLayout => Object.renderLayout

def Object.content : (held : Object) -> held.kind.Content
  | .vector content => content
  | .source content => content
  | .slots content => content
  | .gradient content => content
  | .value content => content
  | .speed content => content
  | .modifier content => content
  | .effect content => content
  | .initLayout content => content
  | .updateLayout content => content
  | .renderLayout content => content

theorem Kind.kind_object (kind : Kind) (content : kind.Content) :
    (kind.object content).kind = kind := by
  cases kind <;> rfl

theorem Object.object_content (held : Object) : held.kind.object held.content = held := by
  cases held <;> rfl

/-- The types of what objects hold, each of one kind. -/
class Storable (α : Type) where
  kind : Kind
  content_eq : kind.Content = α

namespace Storable

variable {α : Type} [stored : Storable α]

def object (content : α) : Object := (kind α).object (cast stored.content_eq.symm content)

/-- What an object holds, if it is of the right kind. -/
def content? (held : Object) : Option α :=
  if same : held.kind = kind α then
    some (cast ((congrArg Kind.Content same).trans stored.content_eq) held.content)
  else
    none

theorem object_kind (content : α) : (object content).kind = kind α := Kind.kind_object _ _

theorem eq_object {held : Object} {content : α} (found : content? held = some content) :
    held = object content := by
  obtain ⟨kind, rfl⟩ := stored
  by_cases same : held.kind = kind
  · subst same
    have holds : some held.content = some content := (dif_pos rfl).symm.trans found
    cases holds
    exact held.object_content.symm
  · cases (dif_neg same).symm.trans found

theorem exists_content {held : Object} (same : held.kind = kind α) :
    Exists fun content : α => held = object content :=
  ⟨_, eq_object (dif_pos same)⟩

theorem content?_object (content : α) : content? (object content) = some content := by
  obtain ⟨kind, rfl⟩ := stored
  cases kind <;> rfl

end Storable

instance : Storable Components := ⟨.vector, rfl⟩

instance : Storable StoredSource := ⟨.source, rfl⟩

instance : Storable StoredSlots := ⟨.slots, rfl⟩

instance : Storable StoredGradient := ⟨.gradient, rfl⟩

instance : Storable Value := ⟨.value, rfl⟩

instance : Storable StoredSpeed := ⟨.speed, rfl⟩

instance : Storable StoredModifier := ⟨.modifier, rfl⟩

instance : Storable StoredEffect := ⟨.effect, rfl⟩

instance : Storable InitLayout := ⟨.initLayout, rfl⟩

instance : Storable StoredUpdate := ⟨.updateLayout, rfl⟩

instance : Storable StoredRender := ⟨.renderLayout, rfl⟩

/-- What a name stands for. -/
inductive Asset where
  | vector (handle : Handle Components)
  | source (handle : Handle StoredSource)
  | gradient (handle : Handle StoredGradient)
  | value (handle : Handle Value)
  | speed (handle : Handle StoredSpeed)
  | modifier (handle : Handle StoredModifier)
  | effect (handle : Handle StoredEffect)
  | initLayout (handle : Handle InitLayout)
  | updateLayout (handle : Handle StoredUpdate)
  | renderLayout (handle : Handle StoredRender)
  deriving DecidableEq

end Workspace
end ParticleEffects
