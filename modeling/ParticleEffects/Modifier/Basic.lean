import ParticleEffects.Layout
import ParticleEffects.Spawn.Position

namespace ParticleEffects

/-!
Modifiers, and what each of them writes at the three stages of an effect.

A built-in modifier has one stage and replaces one field of its layout.  A
custom modifier has a hook for each stage it takes part in; a hook may fail, and
what it wrote before stays in the layout.  How a modifier holds its vectors, its
slots, its gradient, its hooks and its speed are parameters, so that it may refer to
them and share with others what it reads when it is applied.
-/

open Spatial Spawn ForceField

inductive Stage where
  | init
  | update
  | render
  deriving DecidableEq

def Stage.name : Stage -> String
  | .init => "init"
  | .update => "update"
  | .render => "render"

inductive ApplyError where
  /-- The modifier takes no part in the stage. -/
  | noRole
  /-- The hook of a custom modifier failed. -/
  | failed (message : String)
  /-- What the hook of a custom modifier refers to is not there. -/
  | unreachable
  deriving DecidableEq

/-- What an application leads to: the layout as it is left, and the error with which
the application stopped, if it did. -/
structure Applied (Layout : Type) where
  layout : Layout
  error : Option ApplyError := none

namespace Applied

variable {Layout Target : Type}

def done (layout : Layout) : Applied Layout := { layout := layout }

def stopped (layout : Layout) (error : ApplyError) : Applied Layout :=
  { layout := layout, error := some error }

def map (f : Layout -> Target) (applied : Applied Layout) : Applied Target :=
  { layout := f applied.layout, error := applied.error }

/-- Goes on with the layout, unless the application stopped. -/
def andThen (applied : Applied Layout) (next : Layout -> Applied Layout) : Applied Layout :=
  match applied.error with
  | none => next applied.layout
  | some _ => applied

/-- The layout of an application that did not stop. -/
def outcome (applied : Applied Layout) : Except ApplyError Layout :=
  match applied.error with
  | none => .ok applied.layout
  | some error => .error error

@[simp]
theorem outcome_done (layout : Layout) : (done layout).outcome = .ok layout := rfl

end Applied

/-- What a custom modifier does to one layout. -/
abbrev Hook (Layout : Type) := Layout -> Applied Layout

structure Hooks where
  /-- The name under which calls of the hooks are reported, if they are. -/
  label : Option String := none
  init : Option (Hook InitLayout) := none
  update : Option (Hook UpdateLayout) := none
  render : Option (Hook RenderLayout) := none

inductive Modifier (Entries SlotList Held Custom : Type) (Rate : Type := Speed) where
  | position (spawner : Spawner Entries Rate)
  | accel (vector : Entries)
  | forceField (slots : SlotList)
  | texture (handle : Float)
  | color (gradient : Held)
  | size (gradient : Held)
  | custom (hooks : Custom)

/-- A modifier that holds all its contents itself. -/
abbrev LoadedModifier := Modifier Components Slots AnyGradient Hooks

namespace Modifier

/-- Whether the modifier takes part in a stage. -/
def hasRole (modifier : LoadedModifier) : Stage -> Bool
  | .init =>
    match modifier with
    | .position _ => true
    | .custom hooks => hooks.init.isSome
    | _ => false
  | .update =>
    match modifier with
    | .accel _ | .forceField _ => true
    | .custom hooks => hooks.update.isSome
    | _ => false
  | .render =>
    match modifier with
    | .texture _ | .color _ | .size _ => true
    | .custom hooks => hooks.render.isSome
    | _ => false

/-- How the contents of a modifier are given in another way, where that way
exists. -/
structure Loader (Entries SlotList Held Custom Rate : Type)
    (Entries' SlotList' Held' Custom' Rate' : Type) where
  entries : Entries -> Option Entries'
  slots : SlotList -> Option SlotList'
  held : Held -> Option Held'
  custom : Custom -> Custom'
  speed : Rate -> Option Rate'

/-- The modifier with all its contents given in another way. -/
def mapM? {Entries SlotList Held Custom Rate Entries' SlotList' Held' Custom' Rate' : Type}
    (load : Loader Entries SlotList Held Custom Rate Entries' SlotList' Held' Custom' Rate') :
    Modifier Entries SlotList Held Custom Rate ->
      Option (Modifier Entries' SlotList' Held' Custom' Rate')
  | .position spawner => (spawner.mapM? load.entries load.speed).map .position
  | .accel vector => (load.entries vector).map .accel
  | .forceField slots => (load.slots slots).map .forceField
  | .texture handle => some (.texture handle)
  | .color gradient => (load.held gradient).map .color
  | .size gradient => (load.held gradient).map .size
  | .custom hooks => some (.custom (load.custom hooks))

/-- Runs a hook, if there is one. -/
def runHook {Layout : Type} (hook : Option (Hook Layout)) (layout : Layout) :
    Applied Layout :=
  match hook with
  | some run => run layout
  | none => .stopped layout .noRole

def applyInit (modifier : LoadedModifier) (layout : InitLayout) : Applied InitLayout :=
  match modifier with
  | .position spawner => .done { layout with positionCode := spawner.positionCode }
  | .custom hooks => runHook hooks.init layout
  | _ => .stopped layout .noRole

/-- A layout receives copies of a vector and of slots. -/
def applyUpdate (modifier : LoadedModifier) (layout : UpdateLayout) : Applied UpdateLayout :=
  match modifier with
  | .accel vector => .done { layout with accel := vector.copy 3 }
  | .forceField slots => .done { layout with forceField := layoutSlots slots.toList }
  | .custom hooks => runHook hooks.update layout
  | _ => .stopped layout .noRole

/-- A layout receives a copy of a gradient. -/
def applyRender (modifier : LoadedModifier) (layout : RenderLayout) : Applied RenderLayout :=
  match modifier with
  | .texture handle => .done { layout with particleTexture := some handle }
  | .color gradient => .done { layout with colorGradient := some gradient.copy }
  | .size gradient => .done { layout with sizeGradient := some gradient.copy }
  | .custom hooks => runHook hooks.render layout
  | _ => .stopped layout .noRole

/-- The report of a call at a stage, for hooks that are reported. -/
def report? (modifier : LoadedModifier) (stage : Stage) : Option String :=
  match modifier with
  | .custom hooks =>
    if modifier.hasRole stage then
      hooks.label.map fun label => label ++ ":" ++ stage.name
    else
      none
  | _ => none

end Modifier

end ParticleEffects
