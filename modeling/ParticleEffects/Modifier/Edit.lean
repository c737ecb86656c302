import ParticleEffects.Modifier.Basic

namespace ParticleEffects

/-!
Hooks that are described by the edits they make.

An edit writes only to the layout it is given, and what it leaves out stays as
it was.  Its writes are made in a fixed order, and a write that cannot be made
ends it; those before it stay.
-/

open Spatial ForceField

structure InitEdit where
  /-- A text that replaces the code. -/
  replacement : Option String := none
  /-- A text that is added to the code after that. -/
  addition : String := ""

def InitEdit.apply (edit : InitEdit) : Hook InitLayout := fun layout =>
  .done { positionCode := edit.replacement.getD layout.positionCode ++ edit.addition }

structure UpdateEdit where
  /-- A vector added to the acceleration. -/
  acceleration : Option (Vec3 Component) := none
  /-- A slot and the mass it is given. -/
  slotMass : Option (Int × Float) := none

/-- The slots with the mass in one of them changed, if there is a source in it. -/
def setMass? (slots : List (Option LayoutSource)) (slot : Int) (mass : Float) :
    Option (List (Option LayoutSource)) := do
  let place <- slot.toNat?
  let source <- slots[place]?.join
  return slots.set place (some { source with mass := mass })

def UpdateEdit.accelerate (edit : UpdateEdit) : Hook UpdateLayout := fun layout =>
  match edit.acceleration with
  | some acceleration => .done { layout with accel := layout.accel.add acceleration }
  | none => .done layout

def UpdateEdit.setSlotMass (edit : UpdateEdit) : Hook UpdateLayout := fun layout =>
  match edit.slotMass with
  | some (slot, mass) =>
    match setMass? layout.forceField slot mass with
    | some forceField => .done { layout with forceField := forceField }
    | none => .stopped layout .unreachable
  | none => .done layout

def UpdateEdit.apply (edit : UpdateEdit) : Hook UpdateLayout := fun layout =>
  (edit.accelerate layout).andThen edit.setSlotMass

/-- A key for a gradient, or the reason why it cannot be read. -/
abbrev KeyEdit := Except ApplyError (Float × Components)

structure RenderEdit where
  texture : Option Float := none
  /-- A key for the color gradient, where there is one. -/
  colorKey : Option KeyEdit := none
  /-- A key for the size gradient, where there is one. -/
  sizeKey : Option KeyEdit := none

/-- A gradient with a key added, where there are both.  Without a gradient the key
does not matter. -/
def addKeyEdit (key : Option KeyEdit) (gradient : Option AnyGradient) :
    Except ApplyError (Option AnyGradient) :=
  match key, gradient with
  | some key, some gradient => key.map fun (ratio, value) => some (gradient.addKey ratio value)
  | _, gradient => .ok gradient

def RenderEdit.setTexture (edit : RenderEdit) : Hook RenderLayout := fun layout =>
  .done { layout with particleTexture := edit.texture.or layout.particleTexture }

def RenderEdit.addColorKey (edit : RenderEdit) : Hook RenderLayout := fun layout =>
  match addKeyEdit edit.colorKey layout.colorGradient with
  | .ok gradient => .done { layout with colorGradient := gradient }
  | .error error => .stopped layout error

def RenderEdit.addSizeKey (edit : RenderEdit) : Hook RenderLayout := fun layout =>
  match addKeyEdit edit.sizeKey layout.sizeGradient with
  | .ok gradient => .done { layout with sizeGradient := gradient }
  | .error error => .stopped layout error

def RenderEdit.apply (edit : RenderEdit) : Hook RenderLayout := fun layout =>
  ((edit.setTexture layout).andThen edit.addColorKey).andThen edit.addSizeKey

/-- A hook fails before it writes anything, or makes its edit. -/
def editHook {Layout : Type} (failure : Option String) (edit : Hook Layout) : Hook Layout :=
  fun layout =>
    match failure with
    | some message => .stopped layout (.failed message)
    | none => edit layout

end ParticleEffects
