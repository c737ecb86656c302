import ParticleEffects.Workspace.Basic

namespace ParticleEffects
namespace Workspace

/-!
What objects hold, with everything that they refer to.

There is nothing to load where a reference leads nowhere or to an object of another
kind.
-/

open Spatial ForceField Spawn

variable (workspace : Workspace)

def loadSource? (handle : Handle StoredSource) : Option LayoutSource := do
  let stored <- workspace.get? handle
  let position <- workspace.get? stored.position
  return stored.moveTo position

def loadSlots? (handle : Handle StoredSlots) : Option (List (Option LayoutSource)) := do
  let slots <- workspace.get? handle
  slots.mapM fun slot => slot.mapM workspace.loadSource?

/-- The slots of a force field modifier, none of which is missing. -/
def loadField? (handle : Handle StoredSlots) : Option Slots := do
  let slots <- workspace.loadSlots? handle
  let sources <- seenSources? slots
  Slots.ofList? sources

/-- The value of a key, from the entries of the vector it refers to. -/
def loadValue? (kind : GradientKind) (handle : Handle Components) :
    Option (Vector Component kind.width) :=
  (workspace.get? handle).map (Components.toVector kind.width)

def loadGradient? (handle : Handle StoredGradient) : Option AnyGradient := do
  let stored <- workspace.get? handle
  let gradient <- stored.gradient.mapM? (workspace.loadValue? stored.kind)
  return { kind := stored.kind, gradient := gradient }

def loadSpeed? (handle : Handle StoredSpeed) : Option Speed := do
  let stored <- workspace.get? handle
  stored.mapM workspace.get?

def loadUpdate? (handle : Handle StoredUpdate) : Option UpdateLayout := do
  let stored <- workspace.get? handle
  let accel <- workspace.get? stored.accel
  let forceField <- workspace.loadSlots? stored.forceField
  return { accel := accel, forceField := forceField }

def loadRender? (handle : Handle StoredRender) : Option RenderLayout := do
  let stored <- workspace.get? handle
  let colorGradient <- stored.colorGradient.mapM workspace.loadGradient?
  let sizeGradient <- stored.sizeGradient.mapM workspace.loadGradient?
  return {
    particleTexture := stored.particleTexture
    colorGradient := colorGradient
    sizeGradient := sizeGradient }

/-- The entries of a vector.  What is no vector has none. -/
def components : VectorOperand -> Except Failure Components
  | .given value => .ok value
  | .named name => do
    match <- workspace.find name with
    | .vector handle => orUnsuitable (workspace.get? handle)
    | _ => return []

def readKeyEdit (key : Float × VectorOperand) : KeyEdit :=
  match workspace.components key.2 with
  | .ok entries => .ok (key.1, entries)
  | .error _ => .error .unreachable

def readRenderEdit (draft : RenderEditDraft) : RenderEdit where
  texture := draft.texture
  colorKey := draft.colorKey.map workspace.readKeyEdit
  sizeKey := draft.sizeKey.map workspace.readKeyEdit

/-- The hooks of a custom modifier with the vectors it refers to, as they are
now. -/
def loadHooks : StoredHooks -> Hooks
  | .edits label hooks => {
      label := some label
      init := hooks.init.map fun edit => editHook (hooks.failureAt .init) edit.apply
      update := hooks.update.map fun edit => editHook (hooks.failureAt .update) edit.apply
      render := hooks.render.map fun draft =>
        editHook (hooks.failureAt .render) (workspace.readRenderEdit draft).apply }
  | .given hooks => hooks

/-- A modifier with all that it refers to, as it is now. -/
def loadModifier? (stored : StoredModifier) : Option LoadedModifier :=
  stored.mapM? {
    entries := workspace.get?
    slots := workspace.loadField?
    held := workspace.loadGradient?
    custom := workspace.loadHooks
    speed := workspace.loadSpeed? }

def modifierAt? (handle : Handle StoredModifier) : Option LoadedModifier := do
  let stored <- workspace.get? handle
  workspace.loadModifier? stored

end Workspace
end ParticleEffects
