import ParticleEffects.Proofs.Snapshots

namespace ParticleEffects
namespace Workspace

/-!
The history of one object.

What a run makes of an object is told by those of its steps that are directed at it.
A step that succeeds is directed at an asset of a kind that suits it, so that few
steps can change an object of a given kind, and what they contribute is gathered over
the run.
-/

/-! ## Gathering over a run -/

/-- What the steps of a run contribute, each in the workspace in which it is made. -/
def gather {Record : Type} (contribution : Workspace -> Command -> List Record) :
    Workspace -> List Command -> List Record
  | _, [] => []
  | workspace, command :: rest =>
    contribution workspace command ++ gather contribution (workspace.runCommand command).2 rest

/-- What is kept up with the contributions of every single step is kept up with those of
a run. -/
theorem Separated.shows_runTo {Record : Type} {contribution : Workspace -> Command -> List Record}
    {Shows : Workspace -> Placement -> List Record -> Prop}
    (stepwise : forall {workspace : Workspace} {place : Placement} {collected : List Record}
      (command : Command), Separated workspace place -> Shows workspace place collected ->
      Exists fun place' => Separated (workspace.runCommand command).2 place' ∧
        Shows (workspace.runCommand command).2 place' (collected ++ contribution workspace command))
    (commands : List Command) :
    forall {workspace : Workspace} {place : Placement} {collected : List Record},
      Separated workspace place -> Shows workspace place collected ->
      Exists fun place' => Separated (workspace.runTo commands) place' ∧
        Shows (workspace.runTo commands) place'
          (collected ++ gather contribution workspace commands) := by
  induction commands with
  | nil =>
    intro workspace place collected separated shows'
    rw [gather, List.append_nil]
    exact ⟨place, separated, shows'⟩
  | cons command rest inductionHypothesis =>
    intro workspace place collected separated shows'
    rcases stepwise command separated shows' with ⟨place', separated', shown⟩
    rw [gather, ← List.append_assoc]
    exact inductionHypothesis separated' shown

/-! ## Steps directed at an object -/

/-- The kinds of assets that a command can be directed at with success. -/
def Command.Suits : Command -> Asset -> Prop
  | .assign .., _ | .assignHandout .., _ => True
  | .addKey .., .gradient _ => True
  | .replaceSource .., .modifier _ => True
  | .replaceValue .., .speed _ => True
  | .register .., .effect _ => True
  | .apply .., asset => asset.IsLayout
  | _, _ => False

section

variable {workspace : Workspace} {place : Placement} {command : Command} {asset : Asset}

theorem observe_of_lookup {name : String} (selected : workspace.lookup name = some asset) :
    workspace.observe name = workspace.view asset := by
  simp only [observe, find, selected, ok_bind]

theorem view_modifier {handle : Handle StoredModifier} {modifier : LoadedModifier}
    (loaded : workspace.modifierAt? handle = some modifier) :
    workspace.view (.modifier handle) = .ok (.modifier modifier) := by
  simp only [view, loaded, orUnsuitable, ok_bind]
  rfl

theorem findModifier_of_lookup {name : String} {handle : Handle StoredModifier}
    (selected : workspace.lookup name = some (.modifier handle)) :
    workspace.findModifier name = .ok handle := by
  simp only [findModifier, find, selected, ok_bind]

theorem step_apply {name layoutName : String} {modifier : Handle StoredModifier}
    (selected : workspace.lookup name = some (.modifier modifier)) {loaded : LoadedModifier}
    (found : workspace.modifierAt? modifier = some loaded)
    (selected' : workspace.lookup layoutName = some asset) {stage : Stage}
    {applied : Applied Workspace} (applies : workspace.applyTo? modifier asset = some (stage, applied))
    {observation : Observation} (seen : applied.layout.view asset = .ok observation) :
    workspace.step (.apply name layoutName) = .ok {
      workspace := applied.layout
      answer := .applied (applied.outcome.map fun _ => observation)
      reports := (loaded.report? stage).toList } := by
  simp only [step, apply, findModifier_of_lookup selected, found, find, selected', applies,
    orUnsuitable, ok_bind, seen]
  rfl

theorem suits_of_step {step : Step} (stepped : workspace.step command = .ok step)
    (directed : workspace.directed? command = some asset) : command.Suits asset := by
  cases command with
  | assign name path content => trivial
  | assignHandout name request path content => trivial
  | addKey name ratio value =>
    rcases bind_eq_ok_iff.mp stepped with ⟨_, added, _⟩
    rcases bind_eq_ok_iff.mp added with ⟨_, found, _⟩
    cases directed.symm.trans (lookup_of_findGradient found)
    trivial
  | replaceSource name operand index =>
    rcases bind_eq_ok_iff.mp stepped with ⟨_, _, replaced⟩
    rcases bind_eq_ok_iff.mp replaced with ⟨_, foundSlots, _⟩
    rcases bind_eq_ok_iff.mp foundSlots with ⟨_, found, _⟩
    cases directed.symm.trans (lookup_of_findModifier found)
    trivial
  | replaceValue name member value =>
    rcases bind_eq_ok_iff.mp stepped with ⟨_, replaced, _⟩
    rcases bind_eq_ok_iff.mp replaced with ⟨_, found, _⟩
    cases directed.symm.trans (lookup_of_findSpeed found)
    trivial
  | register name stage modifierNames =>
    rcases bind_eq_ok_iff.mp stepped with ⟨_, registered, _⟩
    rcases bind_eq_ok_iff.mp registered with ⟨_, found, _⟩
    cases directed.symm.trans (lookup_of_findEffect found)
    trivial
  | apply name layoutName =>
    rcases bind_eq_ok_iff.mp stepped with ⟨modifier, _, loading⟩
    rcases bind_eq_ok_iff.mp loading with ⟨_, _, finding⟩
    rcases bind_eq_ok_iff.mp finding with ⟨found, named, applying⟩
    rcases bind_eq_ok_iff.mp applying with ⟨_, selected, _⟩
    have applied := orUnsuitable_eq_ok_iff.mp selected
    cases directed.symm.trans (lookup_of_find named)
    cases asset with
    | initLayout handle => trivial
    | updateLayout handle => trivial
    | renderLayout handle => trivial
    | _ => cases applied
  | _ => cases directed

/-- An object that is neither a vector nor a value changes only in steps that are directed at
it, and its parts change with it. -/
theorem Separated.untouched_runCommand (separated : Separated workspace place) (command : Command)
    (asset : Asset) (present : workspace.kindAt? asset.address = some asset.kind)
    (owner : asset.kind ∉ [.vector, .value])
    (apart : forall {step : Step}, workspace.step command = .ok step -> command.Suits asset ->
      workspace.directed? command = some asset -> asset.address ∉ workspace.reach command asset) :
    Exists fun place' => Separated (workspace.runCommand command).2 place' ∧
      Changes (fun spot => spot.root ≠ asset.address) .everywhere workspace place
        (workspace.runCommand command).2 place' ∧
      Agrees (Place.alone asset.address).region workspace place (workspace.runCommand command).2 := by
  have changed : Exists fun place' => Separated (workspace.runCommand command).2 place' ∧
      Changes (fun spot => spot.root ≠ asset.address) .everywhere workspace place
        (workspace.runCommand command).2 place' := by
    cases stepped : workspace.step command with
    | error failure =>
      simp only [Workspace.runCommand, stepped]
      exact ⟨place, separated, .refl workspace place⟩
    | ok step =>
      rcases separated.step stepped with ⟨place', kept⟩
      simp only [Workspace.runCommand, stepped]
      refine ⟨place', kept.separated, kept.changes.weaken (fun spot rooted same => ?_) fun _ => id⟩
      have member : spot.root ∈ workspace.targets command := rooted
      rw [same] at member
      rcases separated.directed_of_mem_targets present owner member with ⟨directed, reached⟩
      exact apart stepped (suits_of_step stepped directed) directed reached
  rcases changed with ⟨place', separated', changes⟩
  exact ⟨place', separated', changes, changes.agrees _ fun _ inside apart => apart inside.1⟩

end

end Workspace
end ParticleEffects
