import ParticleEffects.Workspace.Store

namespace ParticleEffects
namespace Workspace

/-!
Application of modifiers to layouts.

A built-in modifier puts a copy of what it refers to into one field of a layout, as
a new object.  A custom modifier sees the whole layout and writes to the objects
that the layout refers to, in place.
-/

open Spatial ForceField Spawn

/-- An application that cannot be made because something it refers to is not there. -/
def orUnreachable (workspace : Workspace) (applied : Option (Applied Workspace)) :
    Applied Workspace :=
  applied.getD (.stopped workspace .unreachable)

variable (workspace : Workspace)

/-- A new layout for the first stage. -/
def newInit : Workspace × Handle InitLayout := workspace.add ({} : InitLayout)

/-- A new layout for the second stage, with objects of its own for its vector and its
slots. -/
def newUpdate : Workspace × Handle StoredUpdate := workspace.addUpdate {}

/-- A new layout for the last stage. -/
def newRender : Workspace × Handle StoredRender := workspace.add ({} : StoredRender)

def applyInit (layout : Handle InitLayout) (modifier : Handle StoredModifier) :
    Applied Workspace :=
  workspace.orUnreachable do
    let stored <- workspace.get? modifier
    let current <- workspace.get? layout
    match stored with
    | .position spawner => do
      let loaded <- spawner.mapM? workspace.get? workspace.loadSpeed?
      return .done (workspace.set layout { current with positionCode := loaded.positionCode })
    | .custom hooks =>
      return (Modifier.runHook (workspace.loadHooks hooks).init current).map
        (workspace.set layout)
    | _ => return .stopped workspace .noRole

def applyUpdate (layout : Handle StoredUpdate) (modifier : Handle StoredModifier) :
    Applied Workspace :=
  workspace.orUnreachable do
    let stored <- workspace.get? modifier
    let current <- workspace.get? layout
    match stored with
    | .accel vector => do
      let entries <- workspace.get? vector
      let (extended, accel) := workspace.add (entries.copy 3)
      return .done (extended.set layout { current with accel := accel })
    | .forceField slots => do
      let held <- workspace.loadSlots? slots
      let (extended, forceField) := workspace.addSlots (held.map (Option.map LayoutSource.copy))
      return .done (extended.set layout { current with forceField := forceField })
    | .custom hooks => do
      let seen <- workspace.loadUpdate? layout
      return (Modifier.runHook (workspace.loadHooks hooks).update seen).map
        (workspace.writeUpdate layout)
    | _ => return .stopped workspace .noRole

def applyRender (layout : Handle StoredRender) (modifier : Handle StoredModifier) :
    Applied Workspace :=
  workspace.orUnreachable do
    let stored <- workspace.get? modifier
    let current <- workspace.get? layout
    match stored with
    | .texture handle =>
      return .done (workspace.set layout { current with particleTexture := some handle })
    | .color gradient => do
      let any <- workspace.loadGradient? gradient
      let (extended, copy) := workspace.addGradient any.copy
      return .done (extended.set layout { current with colorGradient := some copy })
    | .size gradient => do
      let any <- workspace.loadGradient? gradient
      let (extended, copy) := workspace.addGradient any.copy
      return .done (extended.set layout { current with sizeGradient := some copy })
    | .custom hooks => do
      let seen <- workspace.loadRender? layout
      return (Modifier.runHook (workspace.loadHooks hooks).render seen).map
        (workspace.writeRender layout)
    | _ => return .stopped workspace .noRole

/-- The stage of a layout, and the application of a modifier to it. -/
def applyTo? (modifier : Handle StoredModifier) : Asset -> Option (Stage × Applied Workspace)
  | .initLayout layout => some (.init, workspace.applyInit layout modifier)
  | .updateLayout layout => some (.update, workspace.applyUpdate layout modifier)
  | .renderLayout layout => some (.render, workspace.applyRender layout modifier)
  | _ => none

end Workspace
end ParticleEffects
