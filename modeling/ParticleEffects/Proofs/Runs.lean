import ParticleEffects.Proofs.Steps

namespace ParticleEffects
namespace Workspace

/-!
What a run leaves alone.

Every workspace that a run leads to is separated.  What none of the steps of a run is
directed at stays as it was over the whole run, as do the names that none of them
gives away and the registrations of effects for which none of them registers
anything.
-/

theorem Separated.runCommand {workspace : Workspace} {place : Placement}
    (separated : Separated workspace place) (command : Command) :
    Exists fun place' => Kept (workspace.targets command) (workspace.registered command)
      command.bound workspace place (workspace.runCommand command).2 place' := by
  cases stepped : workspace.step command with
  | ok step =>
    simp only [Workspace.runCommand, stepped]
    exact separated.step stepped
  | error failure =>
    simp only [Workspace.runCommand, stepped]
    exact ⟨place, Kept.refl separated⟩

theorem Separated.runTo (commands : List Command) :
    forall {workspace : Workspace} {place : Placement}, Separated workspace place ->
      Exists fun place' => Separated (workspace.runTo commands) place' := by
  induction commands with
  | nil => intro workspace place separated; exact ⟨place, separated⟩
  | cons command rest inductionHypothesis =>
    intro workspace place separated
    rcases separated.runCommand command with ⟨_, kept⟩
    exact inductionHypothesis kept.separated

/-- Every workspace that is reached from the empty one is separated. -/
theorem exists_separated (history : List Command) :
    Exists fun place => Separated (runTo {} history) place :=
  separated_empty.runTo history

/-- A run that makes an effect of modifiers of all stages. -/
def fountain : List Command := [
  .put "fountain" (.effect { name := some "Fountain" }),
  .put "spray" (.modifier (.position { shape := .sphere none })),
  .put "gravity" (.modifier (.accel (.given (.ofNumbers [0, -1, 0])))),
  .put "attractors" (.modifier (.forceField [])),
  .put "fade" (.modifier (.color (.given {
    kind := .color
    start := .linear (.given (.ofNumbers [1, 1, 1, 1])) (.given (.ofNumbers [1, 1, 1, 0]))
    keys := [] }))),
  .register "fountain" .init ["spray"],
  .register "fountain" .update ["gravity", "attractors", "gravity"],
  .register "fountain" .render ["fade"]]

theorem lookup_fountain : (runTo {} fountain).lookup "fountain" = some (.effect { address := 0 }) := by
  decide +kernel

/-- The effect that the run makes. -/
def fountainEffect : StoredEffect :=
  ((runTo {} fountain).get? { address := 0 }).get (by decide +kernel)

theorem get?_fountain : (runTo {} fountain).get? { address := 0 } = some fountainEffect :=
  (Option.some_get _).symm

/-! ## Watched objects -/

/-- Each step of a run has a property, in the workspace in which it is made. -/
def AlongRun (holds : Workspace -> Command -> Prop) : Workspace -> List Command -> Prop
  | _, [] => True
  | workspace, command :: rest =>
    holds workspace command ∧ AlongRun holds (workspace.runCommand command).2 rest

instance AlongRun.decidable {holds : Workspace -> Command -> Prop}
    [forall workspace command, Decidable (holds workspace command)] :
    forall workspace commands, Decidable (AlongRun holds workspace commands)
  | _, [] => isTrue trivial
  | workspace, command :: rest =>
    have : Decidable (AlongRun holds (workspace.runCommand command).2 rest) :=
      AlongRun.decidable _ rest
    inferInstanceAs (Decidable (_ ∧ _))

/-- What is watched over a run: the roots of objects, names, and the registrations of
effects. -/
structure Watched where
  roots : List Nat := []
  names : List String := []
  effects : List Nat := []

/-- A command is directed at nothing that is watched. -/
structure Watched.SparedBy (watched : Watched) (workspace : Workspace) (command : Command) :
    Prop where
  roots : forall root, root ∈ workspace.targets command -> root ∉ watched.roots
  names : forall name, name ∈ command.bound -> name ∉ watched.names
  effects : forall root, root ∈ workspace.registered command -> root ∉ watched.effects

instance (watched : Watched) (workspace : Workspace) (command : Command) :
    Decidable (watched.SparedBy workspace command) :=
  decidable_of_iff ((forall root, root ∈ workspace.targets command -> root ∉ watched.roots) ∧
      (forall name, name ∈ command.bound -> name ∉ watched.names) ∧
      forall root, root ∈ workspace.registered command -> root ∉ watched.effects)
    ⟨fun spared => ⟨spared.1, spared.2.1, spared.2.2⟩,
      fun spared => ⟨spared.roots, spared.names, spared.effects⟩⟩

/-- All that is watched is as it was. -/
structure Watched.Held (watched : Watched) (workspace : Workspace) (place : Placement)
    (changed : Workspace) (place' : Placement) : Prop where
  separated : Separated changed place'
  changes : Changes (fun spot => spot.root ∉ watched.roots) .everywhere workspace place changed place'
  lookup_eq : forall name, name ∈ watched.names -> changed.lookup name = workspace.lookup name
  registrations : forall (handle : Handle StoredEffect) (effect : StoredEffect),
    workspace.get? handle = some effect -> handle.address ∈ watched.effects ->
    Exists fun config => changed.get? handle = some { effect with config := config }

namespace Watched

variable {watched : Watched} {workspace changed final : Workspace} {place place' place'' : Placement}

theorem Held.refl (separated : Separated workspace place) :
    watched.Held workspace place workspace place where
  separated := separated
  changes := .refl workspace place
  lookup_eq _ _ := rfl
  registrations _ effect present _ := ⟨effect.config, present⟩

theorem Held.trans (first : watched.Held workspace place changed place')
    (second : watched.Held changed place' final place'') :
    watched.Held workspace place final place'' where
  separated := second.separated
  changes := first.changes.trans second.changes
  lookup_eq name member := (second.lookup_eq name member).trans (first.lookup_eq name member)
  registrations handle effect present member := by
    rcases first.registrations handle effect present member with ⟨config, found⟩
    exact second.registrations handle { effect with config := config } found member

theorem SparedBy.held {command : Command} (spared : watched.SparedBy workspace command)
    (kept : Kept (workspace.targets command) (workspace.registered command) command.bound
      workspace place changed place') : watched.Held workspace place changed place' where
  separated := kept.separated
  changes := kept.changes.weaken (fun spot rooted => spared.roots spot.root rooted) fun _ => id
  lookup_eq name member := kept.lookup_eq name fun bound => spared.names name bound member
  registrations handle effect present member :=
    kept.registrations handle effect present fun registered =>
      spared.effects handle.address registered member

/-- What every step of a run spares is held over the run.  Which property of the steps
shows that may depend on what has been held so far. -/
theorem held_runTo {holds : Workspace -> Command -> Prop}
    (spares : forall {reached : Workspace} {place' : Placement} {command : Command},
      watched.Held workspace place reached place' -> holds reached command ->
      watched.SparedBy reached command) (commands : List Command) :
    forall {reached : Workspace} {place' : Placement}, watched.Held workspace place reached place' ->
      AlongRun holds reached commands ->
      Exists fun place'' => watched.Held workspace place (reached.runTo commands) place'' := by
  induction commands with
  | nil => intro reached place' held _; exact ⟨place', held⟩
  | cons command rest inductionHypothesis =>
    intro reached place' held along
    rcases held.separated.runCommand command with ⟨place'', kept⟩
    have spared := spares held along.1
    exact inductionHypothesis (held.trans (spared.held kept)) along.2

theorem Held.agrees (held : watched.Held workspace place changed place') :
    Agrees (.rooted watched.roots) workspace place changed :=
  held.changes.agrees _ fun _ rooted apart => apart rooted

end Watched

theorem Region.inward_rooted (roots : List Nat) : (Region.rooted roots).Inward :=
  fun _ inside _ => inside

end Workspace
end ParticleEffects
