import ParticleEffects.Modifier.Edit

namespace ParticleEffects
namespace Workspace

/-!
Drafts: assets as a command describes them, before they exist.

A part of a draft is given in place or refers to a named asset.  Drafts are read
when the asset is made, with one exception: edits that a custom modifier describes
are kept as they were described and read whenever the modifier is used.
-/

open Spatial Spawn

inductive Operand (α : Type) where
  | given (value : α)
  | named (name : String)

abbrev VectorOperand := Operand Components

/-- A source that may leave things out. -/
structure SourceDraft where
  position : Option VectorOperand := none
  maxRadius : Option Float := none
  minRadius : Option Float := none
  mass : Option Float := none
  forceExponent : Option Float := none
  conformToSphere : Option Bool := none

abbrev SourceOperand := Operand SourceDraft

inductive GradientStart where
  | empty
  | constant (value : VectorOperand)
  | linear (start stop : VectorOperand)

structure GradientDraft where
  kind : GradientKind
  start : GradientStart
  keys : List (Float × VectorOperand)

abbrev GradientOperand := Operand GradientDraft

abbrev ValueOperand := Operand Value

abbrev SpeedOperand := Operand (Speed ValueOperand)

abbrev SpawnerDraft := SpawnerOptions VectorOperand SpeedOperand

/-- The speed of a draft as an operand, the default one where it is left out. -/
def speedOperand (draft : SpawnerDraft) : SpeedOperand :=
  draft.speed.getD (.given (Speed.default.map .given))

structure RenderEditDraft where
  texture : Option Float := none
  colorKey : Option (Float × VectorOperand) := none
  sizeKey : Option (Float × VectorOperand) := none

/-- The hooks of a custom modifier, as the edits they make. -/
structure EditHooks where
  init : Option InitEdit := none
  update : Option UpdateEdit := none
  render : Option RenderEditDraft := none
  /-- The stage whose hook fails, and the message it fails with. -/
  failure : Option (Stage × String) := none

/-- The message with which the hook of a stage fails. -/
def EditHooks.failureAt (hooks : EditHooks) (stage : Stage) : Option String :=
  match hooks.failure with
  | some (failing, message) => if failing = stage then some message else none
  | none => none

structure Roles where
  init : Bool := false
  update : Bool := false
  render : Bool := false
  deriving DecidableEq

def Roles.ofModifier (modifier : LoadedModifier) : Roles where
  init := modifier.hasRole .init
  update := modifier.hasRole .update
  render := modifier.hasRole .render

/-- Hooks that leave their layouts alone and are not reported. -/
def Roles.hooks (roles : Roles) : Hooks where
  init := if roles.init then some .done else none
  update := if roles.update then some .done else none
  render := if roles.render then some .done else none

/-- The hooks of a custom modifier, as they are kept. -/
inductive StoredHooks where
  /-- Edits, reported under a label. -/
  | edits (label : String) (hooks : EditHooks)
  /-- Hooks that refer to nothing but the layout they are given. -/
  | given (hooks : Hooks)

inductive ModifierDraft where
  | position (draft : SpawnerDraft)
  | accel (vector : VectorOperand)
  | forceField (sources : List SourceOperand)
  | texture (handle : Float)
  | color (gradient : GradientOperand)
  | size (gradient : GradientOperand)
  | custom (hooks : EditHooks)
  | hooks (hooks : Hooks)

/-- A modifier that does nothing in its roles. -/
def ModifierDraft.idle (roles : Roles) : ModifierDraft := .hooks roles.hooks

end Workspace
end ParticleEffects
