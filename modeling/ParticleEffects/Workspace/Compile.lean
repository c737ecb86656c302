import ParticleEffects.Workspace.Apply

namespace ParticleEffects
namespace Workspace

/-!
Compilation of an effect.

Its modifiers are applied to new layouts, all of one stage before the next, up to
the first failure.  What is reported and which modifiers are called is recorded in
the order in which it happens, also where the compilation fails.
-/

/-- What happens during a compilation. -/
inductive Event where
  | overwrite (report : OverwriteReport)
  | call (stage : Stage) (modifier : Handle StoredModifier)
  deriving DecidableEq

/-- What a part of a compilation leads to. -/
structure Recorded (Result : Type) where
  events : List Event
  workspace : Workspace
  outcome : Except ApplyError Result

namespace Recorded

variable {Result Next : Type}

/-- Goes on after a success, and stops after a failure. -/
def andThen (recorded : Recorded Result) (next : Workspace -> Result -> Recorded Next) :
    Recorded Next :=
  match recorded.outcome with
  | .ok result =>
    let continued := next recorded.workspace result
    { continued with events := recorded.events ++ continued.events }
  | .error error =>
    { events := recorded.events, workspace := recorded.workspace, outcome := .error error }

def map (f : Result -> Next) (recorded : Recorded Result) : Recorded Next where
  events := recorded.events
  workspace := recorded.workspace
  outcome := recorded.outcome.map f

end Recorded

/-- The layouts that a compilation made. -/
structure LayoutHandles where
  init : Handle InitLayout
  update : Handle StoredUpdate
  render : Handle StoredRender

/-- The modifiers of one stage, applied in order to the layout that was made for it. -/
def runStage {Layout : Type} (stage : Stage)
    (apply : Workspace -> Handle Layout -> Handle StoredModifier -> Applied Workspace)
    (modifiers : List (Handle StoredModifier)) (made : Workspace × Handle Layout) :
    Recorded (Handle Layout) :=
  let progress := applyAll (fun modifier workspace => apply workspace made.2 modifier)
    made.1 modifiers
  { events := progress.called.map (Event.call stage)
    workspace := progress.left.layout
    outcome := progress.left.outcome.map fun _ => made.2 }

/-- The report before anything is applied. -/
def report (overwrites : Option OverwriteReport) (workspace : Workspace) : Recorded Unit where
  events := overwrites.toList.map Event.overwrite
  workspace := workspace
  outcome := .ok ()

variable (workspace : Workspace)

/-- Everything that one compilation does. -/
def compileEffect (effect : StoredEffect) : Recorded LayoutHandles :=
  (report effect.overwriteReport? workspace).andThen fun workspace _ =>
  (runStage .init applyInit effect.initModifiers workspace.newInit).andThen
    fun workspace init =>
  (runStage .update applyUpdate effect.updateModifiers workspace.newUpdate).andThen
    fun workspace update =>
  (runStage .render applyRender effect.renderModifiers workspace.newRender).map
    fun render => { init := init, update := update, render := render }

def loadLayouts? (layouts : LayoutHandles) : Option Layouts := do
  let init <- workspace.get? layouts.init
  let update <- workspace.loadUpdate? layouts.update
  let render <- workspace.loadRender? layouts.render
  return { init := init, update := update, render := render }

/-- What is seen of a compilation. -/
structure Compilation where
  events : List Event
  outcome : Except ApplyError Layouts

def Event.report? : Event -> Option OverwriteReport
  | .overwrite report => some report
  | .call .. => none

/-- The reports of a compilation that several modifiers write the position code. -/
def Compilation.overwrites (compilation : Compilation) : List OverwriteReport :=
  compilation.events.filterMap Event.report?

end Workspace
end ParticleEffects
