import ParticleEffects.ForceField.Slots
import ParticleEffects.Gradient.Kind
import ParticleEffects.Spatial.Components

namespace ParticleEffects

/-!
What a compilation collects for each stage of an effect.  A later write to a
field replaces the earlier one.

The vectors and the slots of an update layout are open to writes at any place, so
that they may become more or fewer than a modifier wrote.  The gradients of a
render layout are copies of those that modifiers hold, whatever their kinds.
-/

open Spatial ForceField

/-- The code that places a new particle. -/
structure InitLayout where
  positionCode : String := ""

/-- A source as a layout holds it. -/
abbrev LayoutSource := PointSource Components

namespace LayoutSource

def ofSource (source : Source) : LayoutSource := source.moveTo (.ofVec3 source.position)

/-- The source that is seen. -/
def seen (source : LayoutSource) : Source := source.moveTo source.position.vec3

/-- A copy, with what is seen of the position. -/
def copy (source : LayoutSource) : LayoutSource := ofSource source.seen

end LayoutSource

/-- Slots that hold the given sources. -/
def layoutSlots (sources : List Source) : List (Option LayoutSource) :=
  sources.map fun source => some (.ofSource source)

/-- The sources that are seen in slots, if none of them is missing. -/
def seenSources? (slots : List (Option LayoutSource)) : Option (List Source) :=
  slots.mapM fun slot => slot.map LayoutSource.seen

/-- What moves a particle in each frame. -/
structure UpdateLayout where
  accel : Components := .ofNumbers [0, 0, 0]
  /-- The sources of the force field, slot by slot.  A slot that was never filled
  is missing. -/
  forceField : List (Option LayoutSource) := layoutSlots Slots.empty.toList

theorem seenSources?_layoutSlots (sources : List Source) :
    seenSources? (layoutSlots sources) = some sources := by
  induction sources with
  | nil => rfl
  | cons source rest inductionHypothesis =>
    simp only [seenSources?, layoutSlots, List.map_cons, List.mapM_cons] at inductionHypothesis ⊢
    rw [inductionHypothesis]
    rfl

/-- What draws a particle. -/
structure RenderLayout where
  particleTexture : Option Float := none
  colorGradient : Option AnyGradient := none
  sizeGradient : Option AnyGradient := none

end ParticleEffects
