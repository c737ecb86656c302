import ParticleEffects.Effect.Config
import ParticleEffects.Modifier.Basic

namespace ParticleEffects

/-!
Effects, and how a compilation goes through their modifiers.

An effect keeps one list of modifiers for each stage, in the order of
registration.  The modifiers of a list are applied one after the other, and the
first one that fails ends the list.  What the applications change is a parameter,
as is the way in which modifiers are given.
-/

/-- An effect whose modifiers are given as `Registered`. -/
structure Effect (Registered : Type) where
  config : EffectConfig
  initModifiers : List Registered := []
  updateModifiers : List Registered := []
  renderModifiers : List Registered := []

/-- The report that several modifiers write the position code. -/
structure OverwriteReport where
  effectName : String
  count : Nat
  deriving DecidableEq

def OverwriteReport.warning (report : OverwriteReport) : String :=
  "[Effect] '" ++ report.effectName ++ "' has " ++ toString report.count
    ++ " init modifiers. Each one replaces the position code of the previous; "
    ++ "only the last is kept."

namespace Effect

variable {Registered Target : Type}

def modifiers (effect : Effect Registered) : Stage -> List Registered
  | .init => effect.initModifiers
  | .update => effect.updateModifiers
  | .render => effect.renderModifiers

/-- Registration puts a modifier behind those of its stage. -/
def register (effect : Effect Registered) (stage : Stage) (modifier : Registered) :
    Effect Registered :=
  match stage with
  | .init => { effect with initModifiers := effect.initModifiers ++ [modifier] }
  | .update => { effect with updateModifiers := effect.updateModifiers ++ [modifier] }
  | .render => { effect with renderModifiers := effect.renderModifiers ++ [modifier] }

/-- Registration of several modifiers for one stage, one after the other. -/
def registerAll (effect : Effect Registered) (stage : Stage) (modifiers : List Registered) :
    Effect Registered :=
  modifiers.foldl (fun effect modifier => effect.register stage modifier) effect

/-- More than one modifier for the position code is reported. -/
def overwriteReport? (effect : Effect Registered) : Option OverwriteReport :=
  if 1 < effect.initModifiers.length then
    some { effectName := effect.config.name, count := effect.initModifiers.length }
  else
    none

end Effect

/-- The layouts of one compilation. -/
structure Layouts where
  init : InitLayout
  update : UpdateLayout
  render : RenderLayout

/-- What applications lead to: the modifiers that were applied, in order, and what they
left. -/
structure Progress (Registered State : Type) where
  called : List Registered
  left : Applied State

/-- The modifiers of a list, applied in order up to the first one that fails. -/
def applyAll {Registered State : Type} (apply : Registered -> State -> Applied State) :
    State -> List Registered -> Progress Registered State
  | state, [] => { called := [], left := .done state }
  | state, modifier :: rest =>
    let applied := apply modifier state
    match applied.error with
    | none =>
      let progress := applyAll apply applied.layout rest
      { called := modifier :: progress.called, left := progress.left }
    | some _ => { called := [modifier], left := applied }

end ParticleEffects
