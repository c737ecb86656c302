import ParticleEffects.Workspace.Path
import ParticleEffects.Workspace.Read

namespace ParticleEffects
namespace Workspace

/-!
Assignment to a place inside an asset.

An assignment is made in place, in the one object that its path leads to.  It fails
where the path leads nowhere or the place holds another kind of content.  Where a
path leads through a copy that the asset hands out, only that copy is assigned to,
and a member that the asset does not have is added without effect.  A path through the
speed of a modifier leads to the speed itself, which other modifiers may refer to as
well; the numbers of its values are open to writes, and its rule and the kinds of the
values are taken as fixed.
-/

open Spatial ForceField Spawn

def sourceMembers : List String :=
  ["position", "maxRadius", "minRadius", "mass", "forceExponent", "conformToSphere"]

/-- A source with a place other than its position assigned. -/
def assignScalar {Position : Type} (source : PointSource Position) (path : Path)
    (content : Content) : Except Failure (PointSource Position) :=
  match path, content with
  | [.member "maxRadius"], .number x => .ok { source with maxRadius := x }
  | [.member "minRadius"], .number x => .ok { source with minRadius := x }
  | [.member "mass"], .number x => .ok { source with mass := x }
  | [.member "forceExponent"], .number x => .ok { source with forceExponent := x }
  | [.member "conformToSphere"], .flag b => .ok { source with conformToSphere := b }
  | path, _ => assignUnused source sourceMembers path

def shapeMember {Entries : Type} : Shape Entries -> String
  | .circle _ | .sphere _ => "radius"
  | .cube _ => "extents"

def valueMembers : Value -> List String
  | .single _ => ["kind", "value"]
  | .uniform .. => ["kind", "min", "max"]

/-- A value with one of its numbers assigned. -/
def assignNumber (value : Value) (path : Path) (content : Content) : Except Failure Value :=
  match value, path, content with
  | .single _, [.member "value"], .number x => .ok (.single x)
  | .uniform _ max, [.member "min"], .number x => .ok (.uniform x max)
  | .uniform min _, [.member "max"], .number x => .ok (.uniform min x)
  | value, path, _ => assignUnused value (valueMembers value) path

/-- The members that a modifier has. -/
def modifierMembers : StoredModifier -> List String
  | .position spawner =>
    ["center", "rotation", shapeMember spawner.shape, "speed", "dimension", "applyInit"]
  | .accel _ => ["accel", "applyUpdate"]
  | .forceField _ => ["forceField", "activeCount", "activeSources", "applyUpdate"]
  | .texture _ => ["texture", "applyRender"]
  | .color _ | .size _ => ["gradient", "applyRender"]
  | .custom _ => ["applyInit", "applyUpdate", "applyRender"]

def assignInit (layout : InitLayout) (path : Path) (content : Content) :
    Except Failure InitLayout :=
  match path, content with
  | [.member "positionCode"], .text code => .ok { layout with positionCode := code }
  | path, _ => assignUnused layout ["positionCode"] path

/-- What was accepted as a configuration can be changed to anything. -/
def assignConfig (config : EffectConfig) (path : Path) (content : Content) :
    Except Failure EffectConfig :=
  match path, content with
  | [.member "config", .member "name"], .text name => .ok { config with name := name }
  | [.member "config", .member "capacity"], .number capacity =>
    .ok { config with capacity := capacity }
  | .member "config" :: rest, _ => assignUnused config ["name", "capacity"] rest
  | path, _ => assignUnused config ["config", "name", "capacity"] path

variable (workspace : Workspace)

/-! ## Vectors, sources, slots and speeds -/

def assignVector (handle : Handle Components) (path : Path) (content : Content) :
    Except Failure Workspace := do
  let entries <- orUnsuitable (workspace.get? handle)
  return workspace.set handle (<- assignComponents entries path content)

/-- The position of a source is an object of its own. -/
def assignSource (handle : Handle StoredSource) (path : Path) (content : Content) :
    Except Failure Workspace := do
  let stored <- orUnsuitable (workspace.get? handle)
  match path with
  | .member "position" :: rest => workspace.assignVector stored.position rest content
  | path => return workspace.set handle (<- assignScalar stored path content)

/-- Only slots that are there have places. -/
def assignSlots (handle : Handle StoredSlots) (path : Path) (content : Content) :
    Except Failure Workspace := do
  let slots <- orUnsuitable (workspace.get? handle)
  match path with
  | [.member "length"] => return workspace.set handle (resize none slots (<- content.length))
  | .index place :: rest =>
    workspace.assignSource (<- orUnsuitable slots[place]?.join) rest content
  | path => assignUnused workspace [] path

def assignValue (handle : Handle Value) (path : Path) (content : Content) :
    Except Failure Workspace := do
  let value <- orUnsuitable (workspace.get? handle)
  return workspace.set handle (<- assignNumber value path content)

/-- The values that a speed refers to are objects of their own. -/
def assignSpeed (handle : Handle StoredSpeed) (path : Path) (content : Content) :
    Except Failure Workspace := do
  let stored <- orUnsuitable (workspace.get? handle)
  match path with
  | .member name :: rest =>
    match stored.members.lookup name with
    | some value => workspace.assignValue value rest content
    | none => assignUnused workspace ["kind"] path
  | path => assignUnused workspace [] path

/-! ## Copies -/

/-- What an asset hands out, in objects of its own. -/
inductive Handout where
  | vector (handle : Handle Components)
  | source (handle : Handle StoredSource)
  | slots (handle : Handle StoredSlots)
  | keys (keys : List (GradientKey Float (Handle Components)))

/-- A copy that is handed out, with the outline of its contents. -/
structure HandedOut where
  workspace : Workspace
  handout : Handout
  outline : Outline

def handOutVector (entries : Components) : HandedOut :=
  let (extended, handle) := workspace.add entries
  { workspace := extended, handout := .vector handle, outline := .vector entries.length }

def handOutSource (source : LayoutSource) : HandedOut :=
  let (extended, handle) := workspace.addSource source.copy
  { workspace := extended, handout := .source handle, outline := .source }

def handOutSources (sources : List Source) : HandedOut :=
  let (extended, handle) := workspace.addSlots (layoutSlots sources)
  { workspace := extended, handout := .slots handle, outline := .sources sources.length }

def handOutKeys (any : AnyGradient) : HandedOut :=
  let (extended, keys) := addEach addKeyValue workspace any.gradient.toList
  { workspace := extended
    handout := .keys keys
    outline := .keys any.gradient.size any.kind.width }

/-- An assignment inside a copy.  What its place cannot hold is not kept. -/
def assignCopy (handout : Handout) (path : Path) (content : Content) : Workspace :=
  let assigned : Except Failure Workspace :=
    match handout, path with
    | .vector handle, path => workspace.assignVector handle path content
    | .source handle, path => workspace.assignSource handle path content
    | .slots handle, path => workspace.assignSlots handle path content
    | .keys keys, .index place :: .member "value" :: rest =>
      match keys[place]? with
      | some key => workspace.assignVector key.value rest content
      | none => .error .unsuitable
    | .keys _, _ => .error .unsuitable
  match assigned with
  | .ok changed => changed
  | .error _ => workspace

/-- An assignment inside what was handed out, where it can be made.  What it adds to
the copy ends with it. -/
def HandedOut.assign (copy : HandedOut) (path : Path) (content : Content) :
    Except Failure Workspace := do
  copy.outline.assign path content
  if copy.outline.holds path then
    return copy.workspace.assignCopy copy.handout path content
  else
    return copy.workspace

/-- A gradient hands out its keys as a copy, and nothing else of it can be
reached. -/
def assignKeys (handle : Handle StoredGradient) (path : Path) (content : Content) :
    Except Failure Workspace := do
  let any <- orUnsuitable (workspace.loadGradient? handle)
  match path with
  | .member "keys" :: rest => (workspace.handOutKeys any).assign rest content
  | path => assignUnused workspace ["length"] path

/-! ## Modifiers and layouts -/

def assignSpawner (handle : Handle StoredModifier)
    (spawner : Spawner (Handle Components) (Handle StoredSpeed)) (path : Path)
    (content : Content) : Except Failure Workspace :=
  match path, spawner.shape, content with
  | .member "center" :: rest, _, content => workspace.assignVector spawner.center rest content
  | .member "rotation" :: rest, _, content => workspace.assignVector spawner.rotation rest content
  | .member "extents" :: rest, .cube extents, content =>
    workspace.assignVector extents rest content
  | .member "speed" :: rest, _, content => workspace.assignSpeed spawner.speed rest content
  | [.member "radius"], .circle _, .number x =>
    .ok (workspace.set handle (.position { spawner with shape := .circle x } : StoredModifier))
  | [.member "radius"], .sphere _, .number x =>
    .ok (workspace.set handle (.position { spawner with shape := .sphere x } : StoredModifier))
  | path, _, _ => assignUnused workspace (modifierMembers (.position spawner)) path

/-- Only the vectors and the numbers of a modifier can be assigned to. -/
def assignModifier (handle : Handle StoredModifier) (path : Path) (content : Content) :
    Except Failure Workspace := do
  match <- orUnsuitable (workspace.get? handle), path, content with
  | .accel vector, .member "accel" :: rest, content => workspace.assignVector vector rest content
  | .texture _, [.member "texture"], .number texture =>
    return workspace.set handle (.texture texture : StoredModifier)
  | .position spawner, path, content => workspace.assignSpawner handle spawner path content
  | .forceField slots, .member "forceField" :: rest, content => do
    let held <- orUnsuitable (workspace.loadField? slots)
    (workspace.handOutSources held.toList).assign rest content
  | .color gradient, .member "gradient" :: rest, content
  | .size gradient, .member "gradient" :: rest, content =>
    workspace.assignKeys gradient rest content
  | modifier, path, _ => assignUnused workspace (modifierMembers modifier) path

def assignUpdate (handle : Handle StoredUpdate) (path : Path) (content : Content) :
    Except Failure Workspace := do
  let stored <- orUnsuitable (workspace.get? handle)
  match path with
  | .member "accel" :: rest => workspace.assignVector stored.accel rest content
  | .member "forceField" :: rest => workspace.assignSlots stored.forceField rest content
  | path => assignUnused workspace ["accel", "forceField"] path

def assignRender (handle : Handle StoredRender) (path : Path) (content : Content) :
    Except Failure Workspace := do
  let stored <- orUnsuitable (workspace.get? handle)
  match path, content with
  | [.member "particleTexture"], .number texture =>
    return workspace.set handle { stored with particleTexture := some texture }
  | .member "lifetimeColorGradient" :: rest, content => do
    workspace.assignKeys (<- orUnsuitable stored.colorGradient) rest content
  | .member "sizeGradient" :: rest, content => do
    workspace.assignKeys (<- orUnsuitable stored.sizeGradient) rest content
  | path, _ =>
    assignUnused workspace ["particleTexture", "lifetimeColorGradient", "sizeGradient"] path

/-- The workspace after an assignment to a place of an asset. -/
def assignInside (asset : Asset) (path : Path) (content : Content) :
    Except Failure Workspace := do
  match asset with
  | .vector handle => workspace.assignVector handle path content
  | .source handle => workspace.assignSource handle path content
  | .gradient handle => workspace.assignKeys handle path content
  | .value handle => workspace.assignValue handle path content
  | .speed handle => workspace.assignSpeed handle path content
  | .modifier handle => workspace.assignModifier handle path content
  | .effect handle =>
    let effect <- orUnsuitable (workspace.get? handle)
    let config <- assignConfig effect.config path content
    return workspace.set handle { effect with config := config }
  | .initLayout handle =>
    let layout <- orUnsuitable (workspace.get? handle)
    return workspace.set handle (<- assignInit layout path content)
  | .updateLayout handle => workspace.assignUpdate handle path content
  | .renderLayout handle => workspace.assignRender handle path content

/-- An empty path leads to no place, so that nothing changes. -/
def assign (name : String) (path : Path) (content : Content) : Except Failure Workspace := do
  let asset <- workspace.find name
  if path.isEmpty then return workspace
  else workspace.assignInside asset path content

end Workspace
end ParticleEffects
