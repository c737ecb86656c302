import ParticleEffects.Proofs.MutatedAssets
import ParticleEffects.Proofs.Registration
import ParticleEffects.Proofs.Sampling

namespace ParticleEffects

/-!
Copies of gradients.

A copy is made by inserting the keys anew, one after the other.  Keys in order go to where
they were, so that a gradient whose ratios are numbers is copied as it is, and it is sampled
as before.  A ratio that is no number may send a key elsewhere, but none is lost or doubled.

The copy that a command makes is an object of its own.  Over any run both gradients get
those keys that are added to them, and neither gets those of the other.  What a color or
size modifier draws with reaches a layout as such a copy.
-/

open Spatial

namespace AnyGradient

/-- The ratio of every key is a number. -/
def NumericKeys (any : AnyGradient) : Prop := forall key, key ∈ any.keys -> key.1.isNaN = false

theorem NumericKeys.numeric {any : AnyGradient} (numeric : any.NumericKeys) :
    any.gradient.Numeric := by
  intro ratio present
  rcases List.mem_map.mp present with ⟨key, member, rfl⟩
  exact numeric (key.ratio, key.value.toList) (List.mem_map.mpr ⟨key, member, rfl⟩)

/-- What a copy of a gradient has in common with it. -/
structure IsCopy (any copy : AnyGradient) : Prop where
  kind : copy.kind = any.kind
  /-- No key is lost, and none is there twice. -/
  keys : copy.keys.Perm any.keys
  /-- Keys whose ratios are numbers are kept as they are. -/
  faithful : any.NumericKeys ->
    copy.keys = any.keys ∧ forall ratio, copy.sample ratio = any.sample ratio

theorem isCopy_copy {any : AnyGradient} (ordered : any.gradient.InOrder) :
    any.IsCopy any.copy where
  kind := rfl
  keys := (Gradient.perm_ofKeys any.gradient.toList).map _
  faithful numeric := by
    have same : any.copy = any := congrArg (mk any.kind) (ordered.copy_eq numeric.numeric)
    rw [same]
    exact ⟨rfl, fun _ => rfl⟩

theorem inOrder_addKeys (kind : GradientKind) (calls : List (Float × Components)) :
    ((empty kind).addKeys calls).gradient.InOrder := by
  rw [addKeys_eq]
  exact Gradient.inOrder_ofKeys _

end AnyGradient

namespace Workspace

/-! ## Keys that are added -/

/-- The keys that a run adds to a gradient, each a ratio and the components of its value. -/
def keysGiven (gradient : Handle StoredGradient) :
    Workspace -> List Command -> List (Float × Components) :=
  gather fun workspace command => (workspace.keyAdded? gradient command).toList

/-- Every command adds a key to one gradient, under any of its names. -/
def AddsKeysTo (workspace : Workspace) (gradient : Handle StoredGradient)
    (commands : List Command) : Prop :=
  forall command, command ∈ commands -> Exists fun name => Exists fun ratio => Exists fun value =>
    command = .addKey name ratio value ∧ workspace.lookup name = some (.gradient gradient)

section

variable {workspace : Workspace} {place : Placement}

/-- A gradient that is part of nothing and got some keys. -/
structure GotKeys (gradient : Handle StoredGradient) (any : AnyGradient) (workspace : Workspace)
    (place : Placement) (calls : List (Float × Components)) : Prop where
  lies : Lies workspace place gradient (.alone gradient.address)
  loaded : workspace.loadGradient? gradient = some (any.addKeys calls)

theorem GotKeys.runCommand {gradient : Handle StoredGradient} {any : AnyGradient}
    {calls : List (Float × Components)} (command : Command) (separated : Separated workspace place)
    (got : GotKeys gradient any workspace place calls) :
    Exists fun place' => Separated (workspace.runCommand command).2 place' ∧
      GotKeys gradient any (workspace.runCommand command).2 place'
        (calls ++ (workspace.keyAdded? gradient command).toList) := by
  rcases separated.runCommand command with ⟨place', kept⟩
  refine ⟨place', kept.separated, got.lies.change kept.changes, ?_⟩
  rw [separated.loadGradient?_runCommand got.lies got.loaded, AnyGradient.addKeys,
    AnyGradient.addKeys, List.foldl_append]
  cases workspace.keyAdded? gradient command <;> rfl

/-- Over a run a gradient gets the keys that are added to it, and no others. -/
theorem Separated.loadGradient?_runTo (separated : Separated workspace place)
    {gradient : Handle StoredGradient}
    (lies : Lies workspace place gradient (.alone gradient.address)) {any : AnyGradient}
    (loaded : workspace.loadGradient? gradient = some any) (commands : List Command) :
    (workspace.runTo commands).loadGradient? gradient =
      some (any.addKeys (keysGiven gradient workspace commands)) := by
  have got : GotKeys gradient any workspace place [] := ⟨lies, loaded⟩
  rcases Separated.shows_runTo (fun command => GotKeys.runCommand command) commands separated got
    with ⟨_, _, final⟩
  exact final.loaded

/-- Keys that are added to one gradient are not added to another one. -/
theorem Separated.keysGiven_eq_nil {gradient other : Handle StoredGradient}
    (different : other ≠ gradient) (commands : List Command) :
    forall {workspace : Workspace} {place : Placement}, Separated workspace place ->
      workspace.AddsKeysTo other commands -> keysGiven gradient workspace commands = [] := by
  induction commands with
  | nil => exact fun _ _ => rfl
  | cons command rest inductionHypothesis =>
    intro workspace place separated adds
    rcases adds command List.mem_cons_self with ⟨name, ratio, value, rfl, selected⟩
    have nothing : workspace.keyAdded? gradient (.addKey name ratio value) = none := by
      rw [keyAdded?, if_neg]
      rw [selected, Option.some.injEq, Asset.gradient.injEq]
      exact different
    rcases separated.runCommand (.addKey name ratio value) with ⟨place', kept⟩
    -- Names stand for what they stood for.
    have adds' : (workspace.runCommand (.addKey name ratio value)).2.AddsKeysTo other rest := by
      intro later member
      rcases adds later (List.mem_cons_of_mem _ member) with
        ⟨name', ratio', value', same, selected'⟩
      exact ⟨name', ratio', value', same, (kept.lookup_eq name' List.not_mem_nil).trans selected'⟩
    change (workspace.keyAdded? gradient (.addKey name ratio value)).toList ++
      keysGiven gradient (workspace.runCommand (.addKey name ratio value)).2 rest = []
    rw [nothing, inductionHypothesis kept.separated adds']
    rfl

end

/-! ## Copies that are made -/

/-- A step that made a copy of a gradient. -/
structure MadeCopy (workspace : Workspace) (gradient : Handle StoredGradient) (newName : String)
    (step : Step) (copied : Handle StoredGradient) (any copy : AnyGradient) : Prop where
  loaded : workspace.loadGradient? gradient = some any
  answer : step.answer = .observed (.gradient copy)
  named : step.workspace.lookup newName = some (.gradient copied)
  isCopy : any.IsCopy copy
  /-- Keys that are added to the gradient leave the copy alone. -/
  copy_kept : forall commands, step.workspace.AddsKeysTo gradient commands ->
    (step.workspace.runTo commands).loadGradient? copied = some copy
  /-- Keys that are added to the copy leave the gradient alone. -/
  original_kept : forall commands, step.workspace.AddsKeysTo copied commands ->
    (step.workspace.runTo commands).loadGradient? gradient = some any

/-- A modifier that draws with a gradient, and the field of a layout that it writes. -/
inductive DrawsWith : LoadedModifier -> AnyGradient -> (RenderLayout -> Option AnyGradient) -> Prop
  | color (any : AnyGradient) : DrawsWith (.color any) any RenderLayout.colorGradient
  | size (any : AnyGradient) : DrawsWith (.size any) any RenderLayout.sizeGradient

/-- What a modifier puts into a field of the layouts it is applied to. -/
structure DrawnCopy (workspace : Workspace) (name : String) (loaded : LoadedModifier)
    (any : AnyGradient) (field : RenderLayout -> Option AnyGradient) (copy : AnyGradient) :
    Prop where
  isCopy : any.IsCopy copy
  drawn : forall before, Exists fun after =>
    loaded.applyRender before = .done after ∧ field after = some copy
  /-- The copy is there after the step, and it is no part of what keys are added to later. -/
  applied : forall {layoutName : String} {layout : Handle StoredRender},
    workspace.lookup layoutName = some (.renderLayout layout) ->
    Exists fun step => Exists fun after => workspace.step (.apply name layoutName) = .ok step ∧
      step.answer = .applied (.ok (.renderLayout after)) ∧ field after = some copy ∧
      Snapshot step.workspace (.renderLayout layout) (.renderLayout after)

section

variable {workspace : Workspace} {place : Placement}

/-- A gradient that a name stands for is copied. -/
theorem Separated.exists_madeCopy (separated : Separated workspace place) {name : String}
    {gradient : Handle StoredGradient}
    (selected : workspace.lookup name = some (.gradient gradient)) (newName : String) :
    Exists fun step => workspace.step (.copy name newName) = .ok step ∧
      Exists fun copied => Exists fun any => Exists fun copy =>
        MadeCopy workspace gradient newName step copied any copy := by
  have lies : Lies workspace place gradient (.alone gradient.address) :=
    separated.named _ _ selected
  rcases separated.sound.exists_loadGradient? lies with ⟨any, loaded⟩
  have isCopy := any.isCopy_copy (separated.sound.inOrder_of_loadGradient? lies loaded)
  rcases separated.sound.addGradient_new any.copy with ⟨new, found⟩
  have added : Exists fun place' => Made workspace place (workspace.addGradient any.copy) place' :=
    separated.addGradient (Gradient.inOrder_ofKeys any.gradient.toList)
  rcases added with ⟨place', grown, lies'⟩
  generalize result : workspace.addGradient any.copy = made at new found grown lies'
  rcases made with ⟨extended, copied⟩
  dsimp only at new found grown lies'
  have different : copied ≠ gradient := by
    rintro rfl
    exact Nat.not_lt.mpr new (lt_of_kindAt? lies.kind)
  have separated' : Separated (extended.bind newName (.gradient copied)) place' :=
    grown.separated.bind newName lies'
  -- A new name changes no object.
  have bound : Changes (Region.beyond workspace.objects.size)
      (Region.beyond workspace.objects.size) extended place'
      (extended.bind newName (.gradient copied)) place' :=
    changes_bind _ _ extended place' newName (.gradient copied)
  have selected' := lookup_bind_self extended newName (.gradient copied)
  have found' : (extended.bind newName (.gradient copied)).loadGradient? copied = some any.copy :=
    found
  have loaded' : (extended.bind newName (.gradient copied)).loadGradient? gradient = some any :=
    (grown.agrees.loadGradient? (Region.inward_before _) separated.sound lies
      (lt_of_kindAt? lies.kind)).trans loaded
  let step : Step := {
    workspace := extended.bind newName (.gradient copied)
    answer := .observed (.gradient any.copy) }
  refine ⟨step, ?_, copied, any, any.copy, loaded, rfl, selected', isCopy,
    fun commands adds => ?_, fun commands adds => ?_⟩
  · simp only [Workspace.step, findGradient_of_lookup selected, loaded, orUnsuitable, ok_bind,
      result, stepTo, observe_of_lookup selected', view_gradient found']
    rfl
  · rw [separated'.loadGradient?_runTo (lies'.change bound) found',
      separated'.keysGiven_eq_nil (Ne.symm different) commands adds]
    rfl
  · rw [separated'.loadGradient?_runTo ((lies.change grown.evolves.changes).change bound) loaded',
      separated'.keysGiven_eq_nil different commands adds]
    rfl

/-- A modifier that draws with a gradient puts one copy of it into any layout. -/
theorem Separated.exists_drawn (separated : Separated workspace place) {name : String}
    {modifier : Handle StoredModifier}
    (selected : workspace.lookup name = some (.modifier modifier)) {loaded : LoadedModifier}
    (found : workspace.modifierAt? modifier = some loaded) {any : AnyGradient}
    {field : RenderLayout -> Option AnyGradient} (draws : DrawsWith loaded any field) :
    Exists fun copy => DrawnCopy workspace name loaded any field copy := by
  have ordered : any.gradient.InOrder := by
    have held := separated.inOrder_of_modifierAt? (separated.named _ _ selected) found
    cases draws with
    | color any => exact held
    | size any => exact held
  have drawn (before : RenderLayout) : Exists fun after =>
      loaded.applyRender before = .done after ∧ field after = some any.copy := by
    cases draws with
    | color any => exact ⟨{ before with colorGradient := some any.copy }, rfl, rfl⟩
    | size any => exact ⟨{ before with sizeGradient := some any.copy }, rfl, rfl⟩
  refine ⟨any.copy, any.isCopy_copy ordered, drawn, fun {layoutName layout} selected' => ?_⟩
  have lies : Lies workspace place layout (.alone layout.address) :=
    separated.named _ _ selected'
  rcases separated.sound.exists_loadRender? lies with ⟨before, seen⟩
  rcases drawn before with ⟨after, done, kept⟩
  have refines := separated.sound.applyRender lies found seen
  rw [done] at refines
  have applies : workspace.applyTo? modifier (.renderLayout layout) =
      some (.render, workspace.applyRender layout modifier) := rfl
  have seen' : (workspace.applyRender layout modifier).layout.view (.renderLayout layout) =
      .ok (.renderLayout after) := by
    simp only [view, refines.loaded, orUnsuitable, ok_bind]
    rfl
  have stepped := step_apply selected found selected' applies seen'
  rcases separated.step stepped with ⟨place', kept'⟩
  have isLayout : Asset.IsLayout (.renderLayout layout) := trivial
  refine ⟨_, after, stepped, ?_, kept, fun between undirected =>
    kept'.separated.view_runTo isLayout seen' undirected⟩
  rw [Applied.outcome, refines.error]
  rfl

end

/-- Gradients are copied key by key, and a copy and its original go on apart.  This holds of
every gradient that is built by adding keys, of those that are copied by a command, and of
those that a modifier puts into layouts. -/
theorem copies_are_faithful :
    (forall kind calls, ((AnyGradient.empty kind).addKeys calls).IsCopy
      ((AnyGradient.empty kind).addKeys calls).copy) ∧
    forall history : List Command,
      (forall {name : String} {gradient : Handle StoredGradient} (newName : String),
        (runTo {} history).lookup name = some (.gradient gradient) ->
        Exists fun step => (runTo {} history).step (.copy name newName) = .ok step ∧
          Exists fun copied => Exists fun any => Exists fun copy =>
            MadeCopy (runTo {} history) gradient newName step copied any copy) ∧
      forall {name : String} {modifier : Handle StoredModifier} {loaded : LoadedModifier}
        {any : AnyGradient} {field : RenderLayout -> Option AnyGradient},
        (runTo {} history).lookup name = some (.modifier modifier) ->
        (runTo {} history).modifierAt? modifier = some loaded -> DrawsWith loaded any field ->
        Exists fun copy => DrawnCopy (runTo {} history) name loaded any field copy := by
  refine ⟨fun kind calls => AnyGradient.isCopy_copy (AnyGradient.inOrder_addKeys kind calls),
    fun history => ?_⟩
  rcases exists_separated history with ⟨place, separated⟩
  exact ⟨fun newName selected => separated.exists_madeCopy selected newName,
    fun selected found draws => separated.exists_drawn selected found draws⟩

/-- A gradient with three keys at the two zeros, a modifier that draws with it, and a layout. -/
def glow : List Command := [
  .put "glow" (.gradient (.given {
    kind := .size
    start := .constant (.given (.ofNumbers [1, 1]))
    keys := [(0, .given (.ofNumbers [2, 2]))] })),
  .addKey "glow" (-0.0) (.given (.ofNumbers [3, 3])),
  .put "wide" (.modifier (.size (.named "glow"))),
  .put "scene" (.layout .render)]

def glowStep : Step :=
  ((runTo {} glow).step (.copy "glow" "glowed")).toOption.get (by decide +kernel)

def glowKeys : List (Float × Components) :=
  [(0, .ofNumbers [1, 1]), (0, .ofNumbers [2, 2]), (-0.0, .ofNumbers [3, 3])]

theorem glow_is_copied_and_drawn :
    (Exists fun copied => Exists fun copy =>
      glowStep.workspace.lookup "glowed" = some (.gradient copied) ∧
      (glowStep.workspace.runTo [.addKey "glow" 0 (.given (.ofNumbers [4, 4]))]).loadGradient?
        copied = some copy ∧
      copy.keys = glowKeys) ∧
    Exists fun step => Exists fun after => Exists fun copy =>
      (runTo {} glow).step (.apply "wide" "scene") = .ok step ∧
      step.answer = .applied (.ok (.renderLayout after)) ∧ after.sizeGradient = some copy ∧
      copy.keys = glowKeys := by
  have copies {any copy : AnyGradient} (isCopy : any.IsCopy copy) (same : any.keys = glowKeys) :
      copy.keys = glowKeys := by
    have numeric : any.NumericKeys := by
      rw [AnyGradient.NumericKeys, same]
      decide +kernel
    exact (isCopy.faithful numeric).1.trans same
  refine ⟨?_, ?_⟩
  · have selected : (runTo {} glow).lookup "glow" = some (.gradient { address := 2 }) := by
      decide +kernel
    rcases (copies_are_faithful.2 glow).1 "glowed" selected with
      ⟨step, stepped, copied, any, copy, made⟩
    have answered : (runTo {} glow).step (.copy "glow" "glowed") = .ok glowStep :=
      toOption_eq_some_iff.mp (Option.some_get _).symm
    cases stepped.symm.trans answered
    have seen : ((runTo {} glow).loadGradient? { address := 2 }).map AnyGradient.keys =
        some glowKeys := by
      decide +kernel
    rw [made.loaded] at seen
    refine ⟨copied, copy, made.named, made.copy_kept _ ?_,
      copies made.isCopy (Option.some.inj seen)⟩
    intro command member
    cases List.mem_singleton.mp member
    exact ⟨_, _, _, rfl, by decide +kernel⟩
  · have selected : (runTo {} glow).lookup "wide" = some (.modifier { address := 4 }) := by
      decide +kernel
    have seen : (((runTo {} glow).modifierAt? { address := 4 }).bind Modifier.size?).map
        AnyGradient.keys = some glowKeys := by
      decide +kernel
    rcases Option.map_eq_some_iff.mp seen with ⟨any, held, same⟩
    rcases Option.bind_eq_some_iff.mp held with ⟨loaded, found, size⟩
    have draws : DrawsWith loaded any RenderLayout.sizeGradient := by
      cases loaded with
      | size gradient =>
        cases size
        exact .size any
      | _ => cases size
    rcases (copies_are_faithful.2 glow).2 selected found draws with ⟨copy, drawn⟩
    have selected' : (runTo {} glow).lookup "scene" = some (.renderLayout { address := 5 }) := by
      decide +kernel
    rcases drawn.applied selected' with ⟨step, after, stepped, answer, kept, _⟩
    exact ⟨step, after, copy, stepped, answer, kept, copies drawn.isCopy same⟩

end Workspace
end ParticleEffects
