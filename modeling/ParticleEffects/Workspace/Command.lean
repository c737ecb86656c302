import ParticleEffects.ForceField.Buffer
import ParticleEffects.Workspace.Assign
import ParticleEffects.Workspace.Compile

namespace ParticleEffects
namespace Workspace

/-!
The commands of a workspace, what they answer, and what each of them changes.

A command that fails leaves the workspace as it was; an application that stops is
no failure of its command, and what it wrote before stays in the layout.  What an
asset hands out is a copy; only a layout hands out its slots themselves.
-/

open Spatial ForceField Spawn

/-- What is asked of an asset that hands out a value. -/
inductive HandoutRequest where
  | keys
  | slots
  | activeSources
  | sample (ratio : Float)
  | copy
  deriving DecidableEq

/-- A new asset. -/
inductive Draft where
  | vector (components : Components)
  | source (operand : SourceOperand)
  | gradient (operand : GradientOperand)
  | value (operand : ValueOperand)
  | speed (operand : SpeedOperand)
  | modifier (draft : ModifierDraft)
  | effect (request : EffectRequest)
  | layout (stage : Stage)

inductive Command where
  | put (name : String) (draft : Draft)
  | observe (name : String)
  | assign (name : String) (path : Path) (content : Content)
  /-- Assigns inside a value that the asset hands out. -/
  | assignHandout (name : String) (request : HandoutRequest) (path : Path) (content : Content)
  | addKey (name : String) (ratio : Float) (value : VectorOperand)
  | sample (name : String) (ratios : List Float)
  | copy (name newName : String)
  | replaceSource (name : String) (source : SourceOperand) (index : Float)
  /-- Lets a member of a speed refer to another value. -/
  | replaceValue (name member : String) (value : ValueOperand)
  | pack (name : String)
  | apply (name layoutName : String)
  | roles (name : String)
  | register (name : String) (stage : Stage) (modifierNames : List String)
  | compile (name : String) (layoutsName : Option String)

/-- What is seen of an asset. -/
inductive Observation where
  | vector (components : Components)
  | source (source : PointSource Components)
  | gradient (gradient : AnyGradient)
  | value (value : Value)
  | speed (speed : Speed)
  | modifier (modifier : LoadedModifier)
  | effect (config : EffectConfig)
  | initLayout (layout : InitLayout)
  | updateLayout (layout : UpdateLayout)
  | renderLayout (layout : RenderLayout)

inductive Answer where
  | observed (observation : Observation)
  /-- The command can be chained: it returns the asset that it changed. -/
  | chained (observation : Observation)
  | samples (values : List (Except Gradient.SampleError Components))
  /-- The modifier after a replacement that may have been refused. -/
  | replaced (observation : Observation) (refused : Option SlotError)
  | packed (buffer : Buffer)
  /-- The layout after an application that may have failed. -/
  | applied (outcome : Except ApplyError Observation)
  | roles (roles : Roles)
  | compiled (compilation : Compilation) (reporting : OverwriteReporting)

/-- What a command leads to. -/
structure Step where
  workspace : Workspace
  answer : Answer
  /-- The calls of modifiers that are reported. -/
  reports : List String := []

variable (workspace : Workspace)

def view : Asset -> Except Failure Observation
  | .vector handle => do return .vector (<- orUnsuitable (workspace.get? handle))
  | .source handle => do return .source (<- orUnsuitable (workspace.loadSource? handle))
  | .gradient handle => do return .gradient (<- orUnsuitable (workspace.loadGradient? handle))
  | .value handle => do return .value (<- orUnsuitable (workspace.get? handle))
  | .speed handle => do return .speed (<- orUnsuitable (workspace.loadSpeed? handle))
  | .modifier handle => do return .modifier (<- orUnsuitable (workspace.modifierAt? handle))
  | .effect handle => do return .effect (<- orUnsuitable (workspace.get? handle)).config
  | .initLayout handle => do return .initLayout (<- orUnsuitable (workspace.get? handle))
  | .updateLayout handle => do
    return .updateLayout (<- orUnsuitable (workspace.loadUpdate? handle))
  | .renderLayout handle => do
    return .renderLayout (<- orUnsuitable (workspace.loadRender? handle))

def observe (name : String) : Except Failure Observation := do
  workspace.view (<- workspace.find name)

/-- The step that leads to a workspace and answers with one of its assets. -/
def stepTo (name : String) : Except Failure Step := do
  return { workspace := workspace, answer := .observed (<- workspace.observe name) }

/-- A new asset, or another name for one. -/
def make (name : String) : Draft -> Except Failure (Workspace × Asset)
  | .vector components =>
    let (extended, handle) := workspace.add components
    .ok (extended, .vector handle)
  | .source (.named source) => do return (workspace, .source (<- workspace.findSource source))
  | .source (.given draft) => do
    let (extended, position) <- workspace.vectorHandle draft.positionOperand
    let (extended, handle) := extended.add (draft.at position)
    return (extended, .source handle)
  | .gradient operand => do
    let (extended, handle) <- workspace.gradientHandle operand
    return (extended, .gradient handle)
  | .value operand => do
    let (extended, handle) <- workspace.valueHandle operand
    return (extended, .value handle)
  | .speed operand => do
    let (extended, handle) <- workspace.speedHandle operand
    return (extended, .speed handle)
  | .modifier draft => do
    let (extended, stored) <- workspace.readModifier name draft
    let (extended, handle) := extended.add stored
    return (extended, .modifier handle)
  | .effect request => do
    let config <- request.accept.mapError .configuration
    let (extended, handle) := workspace.add ({ config := config } : StoredEffect)
    return (extended, .effect handle)
  | .layout .init =>
    let (extended, handle) := workspace.newInit
    .ok (extended, .initLayout handle)
  | .layout .update =>
    let (extended, handle) := workspace.newUpdate
    .ok (extended, .updateLayout handle)
  | .layout .render =>
    let (extended, handle) := workspace.newRender
    .ok (extended, .renderLayout handle)

def put (name : String) (draft : Draft) : Except Failure Workspace := do
  let (extended, asset) <- workspace.make name draft
  return extended.bind name asset

/-- The copy that an asset hands out. -/
def handOut (name : String) (request : HandoutRequest) : Except Failure HandedOut := do
  match <- workspace.observe name, request with
  | .gradient any, .keys => return workspace.handOutKeys any
  | .gradient any, .sample ratio =>
    return workspace.handOutVector (<- (any.sample ratio).mapError .sampling)
  | .modifier (.forceField slots), .slots => return workspace.handOutSources slots.toList
  | .modifier (.forceField slots), .activeSources =>
    return workspace.handOutSources slots.activeSources
  | .source source, .copy => return workspace.handOutSource source
  | _, _ => .error .unsuitable

/-- The workspace after an assignment inside a value that an asset hands out.  Only
the slots of a layout are its own, and an empty path leads to no place in what is
handed out. -/
def assignHandout (name : String) (request : HandoutRequest) (path : Path)
    (content : Content) : Except Failure Workspace := do
  match <- workspace.find name, request with
  | .updateLayout handle, .slots =>
    let stored <- orUnsuitable (workspace.get? handle)
    if path.isEmpty then return workspace
    else workspace.assignSlots stored.forceField path content
  | _, _ =>
    let copy <- workspace.handOut name request
    if path.isEmpty then return workspace else copy.assign path content

/-- The roles of what is seen; only a modifier has any. -/
def rolesOf : Observation -> Roles
  | .modifier modifier => .ofModifier modifier
  | _ => {}

/-- The buffer of what has a force field, a modifier or a layout.  Too many slots
are refused whether or not they are filled. -/
def packBuffer (name : String) : Except Failure Buffer := do
  match <- workspace.observe name with
  | .modifier (.forceField slots) => (ForceField.pack slots.toList).mapError .slots
  | .updateLayout layout =>
    if slotCount < layout.forceField.length then
      .error (.slots (.unpackable layout.forceField.length))
    else
      (ForceField.pack (<- orUnsuitable (seenSources? layout.forceField))).mapError .slots
  | _ => .error .unsuitable

/-- A new key, with an object of its own for its value. -/
def insertKey (handle : Handle StoredGradient) (ratio : Float) (entries : Components) :
    Except Failure Workspace := do
  let stored <- orUnsuitable (workspace.get? handle)
  let (extended, value) := workspace.add (entries.copy stored.kind.width)
  return extended.set handle { stored with gradient := stored.gradient.addKey ratio value }

def addKey (name : String) (ratio : Float) (value : VectorOperand) :
    Except Failure Workspace := do
  let handle <- workspace.findGradient name
  let entries <- workspace.components value
  workspace.insertKey handle ratio entries

/-- A slot filled with a copy of a source. -/
def replaceSlot (handle : Handle StoredSlots) (source : Source) (slot : Nat) :
    Except Failure Workspace := do
  let slots <- orUnsuitable (workspace.get? handle)
  let (extended, copy) := workspace.addSource (.ofSource source)
  return extended.set handle (writeAt none slots slot (some copy))

/-- A speed with another value for one of its members, which all that refer to the speed
share. -/
def replaceValue (name member : String) (value : ValueOperand) : Except Failure Workspace := do
  let handle <- workspace.findSpeed name
  let stored <- orUnsuitable (workspace.get? handle)
  let _ <- orUnsuitable (stored.members.lookup member)
  let (extended, value) <- workspace.valueHandle value
  return extended.set handle (stored.modify member fun _ => value)

def apply (name layoutName : String) : Except Failure Step := do
  let handle <- workspace.findModifier name
  let modifier <- orUnsuitable (workspace.modifierAt? handle)
  let asset <- workspace.find layoutName
  let (stage, applied) <- orUnsuitable (workspace.applyTo? handle asset)
  let observation <- applied.layout.view asset
  return {
    workspace := applied.layout
    answer := .applied (applied.outcome.map fun _ => observation)
    reports := (modifier.report? stage).toList }

def register (name : String) (stage : Stage) (modifierNames : List String) :
    Except Failure Workspace := do
  let handle <- workspace.findEffect name
  let effect <- orUnsuitable (workspace.get? handle)
  let modifiers <- modifierNames.mapM workspace.findModifier
  return workspace.set handle (effect.registerAll stage modifiers)

/-- The name under which a layout of a compilation is kept. -/
def layoutName (name : String) (stage : Stage) : String := name ++ "." ++ stage.name

/-- Keeps the layouts of a compilation. -/
def keepLayouts (name : Option String) (layouts : LayoutHandles) : Workspace :=
  match name with
  | some name =>
    ((workspace.bind (layoutName name .init) (.initLayout layouts.init)).bind
      (layoutName name .update) (.updateLayout layouts.update)).bind
      (layoutName name .render) (.renderLayout layouts.render)
  | none => workspace

/-- The report of an event, for hooks that are reported. -/
def eventReport? : Event -> Option String
  | .overwrite _ => none
  | .call stage modifier => do
    let loaded <- workspace.modifierAt? modifier
    loaded.report? stage

def compile (name : String) (layoutsName : Option String) : Except Failure Step := do
  let effect <- orUnsuitable (workspace.get? (<- workspace.findEffect name))
  let recorded := workspace.compileEffect effect
  let reports := recorded.events.filterMap workspace.eventReport?
  match recorded.outcome with
  | .ok handles =>
    let layouts <- orUnsuitable (recorded.workspace.loadLayouts? handles)
    return {
      workspace := recorded.workspace.keepLayouts layoutsName handles
      answer := .compiled { events := recorded.events, outcome := .ok layouts }
        effect.config.reporting
      reports := reports }
  | .error error =>
    return {
      workspace := recorded.workspace
      answer := .compiled { events := recorded.events, outcome := .error error }
        effect.config.reporting
      reports := reports }

def step : Command -> Except Failure Step
  | .put name draft => do (<- workspace.put name draft).stepTo name
  | .observe name => workspace.stepTo name
  | .assign name path content => do (<- workspace.assign name path content).stepTo name
  | .assignHandout name request path content => do
    (<- workspace.assignHandout name request path content).stepTo name
  | .addKey name ratio value => do
    let changed <- workspace.addKey name ratio value
    return { workspace := changed, answer := .chained (<- changed.observe name) }
  | .sample name ratios => do
    let any <- orUnsuitable (workspace.loadGradient? (<- workspace.findGradient name))
    return { workspace := workspace, answer := .samples (ratios.map any.sample) }
  | .copy name newName => do
    let any <- orUnsuitable (workspace.loadGradient? (<- workspace.findGradient name))
    let (extended, handle) := workspace.addGradient any.copy
    (extended.bind newName (.gradient handle)).stepTo newName
  | .replaceSource name operand index => do
    let source <- workspace.readSource operand
    let slots <- workspace.findSlots name
    match Slots.address index with
    | .ok slot =>
      let changed <- workspace.replaceSlot slots source slot
      return { workspace := changed, answer := .replaced (<- changed.observe name) none }
    | .error refused =>
      return {
        workspace := workspace
        answer := .replaced (<- workspace.observe name) (some refused) }
  | .replaceValue name member value => do
    (<- workspace.replaceValue name member value).stepTo name
  | .pack name => do
    return { workspace := workspace, answer := .packed (<- workspace.packBuffer name) }
  | .apply name layoutName => workspace.apply name layoutName
  | .roles name => do
    return { workspace := workspace, answer := .roles (rolesOf (<- workspace.observe name)) }
  | .register name stage modifierNames => do
    let changed <- workspace.register name stage modifierNames
    return { workspace := changed, answer := .chained (<- changed.observe name) }
  | .compile name layoutsName => workspace.compile name layoutsName

end Workspace
end ParticleEffects
