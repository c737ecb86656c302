import ParticleEffects.Proofs.Assignment

namespace ParticleEffects
namespace Workspace

/-!
Mutations: the changes that are seen of an asset.

A mutation carries the contents that it brings and refers to nothing, so that what is
seen of an asset after some mutations is told by what was seen before and by them.  A
gradient gets keys and a force field gets sources.  A vector, a source and the vectors
and numbers of a modifier are assigned in place, as are the values of a speed, which
can get other values as well; what a gradient or a modifier only hands out is a copy, so
that an assignment inside of it is not seen.
-/

open Spatial ForceField Spawn

/-! ## Assignments, as they are seen -/

/-- What an assignment makes of a value, which stays as it is where that fails. -/
def orKept {Record : Type} (kept : Record) (assigned : Except Failure Record) : Record :=
  assigned.toOption.getD kept

theorem orKept_assignUnused {Record : Type} (record : Record) (members : List String) (path : Path) :
    orKept record (assignUnused record members path) = record := by
  cases assigned : assignUnused record members path with
  | error failure => rfl
  | ok changed => exact assignUnused_eq assigned

def assignedEntries (entries : Components) (path : Path) (content : Content) : Components :=
  orKept entries (assignComponents entries path content)

def assignedSource (source : LayoutSource) (path : Path) (content : Content) : LayoutSource :=
  match path, content with
  | .member "position" :: rest, content =>
    source.moveTo (assignedEntries source.position rest content)
  | path, content => orKept source (assignScalar source path content)

def assignedValue (value : Value) (path : Path) (content : Content) : Value :=
  orKept value (assignNumber value path content)

/-- A speed keeps its rule. -/
def assignedSpeed (speed : Speed) (path : Path) (content : Content) : Speed :=
  match path with
  | .member name :: rest => speed.modify name fun value => assignedValue value rest content
  | _ => speed

def assignedSpawner (spawner : Spawner Components) (path : Path) (content : Content) :
    Spawner Components :=
  match path, spawner.shape, content with
  | .member "center" :: rest, _, content =>
    { spawner with center := assignedEntries spawner.center rest content }
  | .member "rotation" :: rest, _, content =>
    { spawner with rotation := assignedEntries spawner.rotation rest content }
  | .member "extents" :: rest, .cube extents, content =>
    { spawner with shape := .cube (assignedEntries extents rest content) }
  | .member "speed" :: rest, _, content =>
    { spawner with speed := assignedSpeed spawner.speed rest content }
  | [.member "radius"], .circle _, .number x => { spawner with shape := .circle x }
  | [.member "radius"], .sphere _, .number x => { spawner with shape := .sphere x }
  | _, _, _ => spawner

/-- Slots and gradients are handed out as copies. -/
def assignedModifier (modifier : LoadedModifier) (path : Path) (content : Content) :
    LoadedModifier :=
  match modifier, path, content with
  | .accel entries, .member "accel" :: rest, content =>
    .accel (assignedEntries entries rest content)
  | .texture _, [.member "texture"], .number texture => .texture texture
  | .position spawner, path, content => .position (assignedSpawner spawner path content)
  | modifier, _, _ => modifier

/-! ## Mutations -/

deriving instance DecidableEq for Value

deriving instance DecidableEq for Content

inductive Mutation where
  /-- A key with the components of its value. -/
  | key (ratio : Float) (entries : Components)
  /-- A source for one of the slots. -/
  | slot (slot : Fin slotCount) (source : Source)
  /-- An assignment to a place. -/
  | place (path : Path) (content : Content)
  /-- Another value for a member of a speed. -/
  | value (member : String) (value : Value)
  deriving DecidableEq

/-- A mutation that there is nothing for in an asset changes nothing. -/
def Observation.mutate : Observation -> Mutation -> Observation
  | .gradient any, .key ratio entries => .gradient (any.addKey ratio entries)
  | .modifier (.color any), .key ratio entries => .modifier (.color (any.addKey ratio entries))
  | .modifier (.size any), .key ratio entries => .modifier (.size (any.addKey ratio entries))
  | .modifier (.forceField slots), .slot slot added =>
    .modifier (.forceField (slots.set slot added slot.isLt))
  | .source held, .place path content => .source (assignedSource held path content)
  | .modifier held, .place path content => .modifier (assignedModifier held path content)
  | .modifier (.position spawner), .value member other =>
    .modifier (.position { spawner with speed := spawner.speed.modify member fun _ => other })
  | observation, _ => observation

/-- What is seen after several mutations, one after the other. -/
def Observation.replay (observation : Observation) (mutations : List Mutation) : Observation :=
  mutations.foldl mutate observation

@[simp]
theorem Observation.replay_nil (observation : Observation) : observation.replay [] = observation := rfl

@[simp]
theorem Observation.replay_singleton (observation : Observation) (mutation : Mutation) :
    observation.replay [mutation] = observation.mutate mutation := rfl

theorem Observation.replay_eq_self {observation : Observation} {mutations : List Mutation}
    (idle : forall mutation, mutation ∈ mutations -> observation.mutate mutation = observation) :
    observation.replay mutations = observation := by
  induction mutations with
  | nil => rfl
  | cons mutation rest inductionHypothesis =>
    change (observation.mutate mutation).replay rest = observation
    rw [idle mutation List.mem_cons_self]
    exact inductionHypothesis fun other later => idle other (List.mem_cons_of_mem _ later)

theorem Observation.replay_append (observation : Observation) (mutations others : List Mutation) :
    observation.replay (mutations ++ others) = (observation.replay mutations).replay others :=
  List.foldl_append

@[simp]
theorem Observation.mutate_modifier_place (held : LoadedModifier) (path : Path) (content : Content) :
    (modifier held).mutate (.place path content) = .modifier (assignedModifier held path content) := by
  cases held <;> rfl

/-- Only a force field has slots. -/
theorem Observation.mutate_modifier_slot {held : LoadedModifier}
    (slotless : forall slots, held ≠ .forceField slots) (slot : Fin slotCount) (added : Source) :
    (modifier held).mutate (.slot slot added) = .modifier held := by
  cases held with
  | forceField slots => exact absurd rfl (slotless slots)
  | _ => rfl

/-- The assets whose contents are told by their mutations.  What is seen of a custom
modifier are the hooks that its maker keeps. -/
def Observation.IsTold : Observation -> Prop
  | .source _ | .gradient _ => True
  | .modifier (.custom _) => False
  | .modifier _ => True
  | _ => False

theorem Observation.IsTold.mutate {observation : Observation} (told : observation.IsTold)
    (mutation : Mutation) : (observation.mutate mutation).IsTold := by
  cases observation with
  | source source => cases mutation <;> trivial
  | gradient any => cases mutation <;> trivial
  | modifier modifier =>
    cases modifier with
    | custom hooks => cases told
    | texture texture =>
      cases mutation with
      | place path content =>
        simp only [Observation.mutate, assignedModifier]
        split <;> trivial
      | _ => trivial
    | accel entries =>
      cases mutation with
      | place path content =>
        simp only [Observation.mutate, assignedModifier]
        split <;> trivial
      | _ => trivial
    | _ => cases mutation <;> trivial
  | _ => cases told

theorem Observation.IsTold.replay {observation : Observation} (told : observation.IsTold)
    (mutations : List Mutation) : (observation.replay mutations).IsTold := by
  induction mutations generalizing observation with
  | nil => exact told
  | cons mutation rest inductionHypothesis => exact inductionHypothesis (told.mutate mutation)

/-- The vector that a source has as its position. -/
def positionOf? (workspace : Workspace) (handle : Handle StoredSource) : Option (Handle Components) :=
  (workspace.get? handle).map PointSource.position

/-- The path inside of an asset to where a path inside of another one leads.  There is no
way to the places of an asset but its own, except that the position of a source is a vector
that other sources can have, too. -/
def pathWithin? (workspace : Workspace) : Asset -> Asset -> Path -> Option Path
  | .source handle, .vector vector, path =>
    if workspace.positionOf? handle = some vector then some (.member "position" :: path) else none
  | .source handle, .source other, .member "position" :: rest =>
    if workspace.positionOf? handle = workspace.positionOf? other then
      some (.member "position" :: rest) else none
  | asset, other, path => if other = asset then some path else none

end Workspace
end ParticleEffects
