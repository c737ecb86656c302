import ParticleEffects.Proofs.SharedParts

namespace ParticleEffects
namespace Workspace

/-!
What a command does to the contents of an asset.

An asset shows its mutations after a command, and nothing else.  A source and a modifier are
taken one after the other.  Modifiers come in four kinds: those that hold all that they show
themselves, those that share a gradient, those with slots, and those that share a speed but
hold their vectors and numbers themselves.
-/

open Spatial ForceField Spawn

variable {workspace : Workspace} {place : Placement}

/-! ## Modifiers -/

theorem assignedModifier_nil (modifier : LoadedModifier) (content : Content) :
    assignedModifier modifier [] content = modifier := by
  cases modifier <;> rfl

section

variable {stored : StoredModifier} (owned : Owned stored)
include owned

theorem Owned.gradientOf?_eq : gradientOf? stored = none := by
  cases stored <;> first | rfl | cases owned

theorem Owned.speedOf?_eq : speedOf? stored = none := by
  cases stored <;> first | rfl | cases owned

theorem Owned.sharedRoots_eq : workspace.sharedRoots stored = [] := by
  cases stored <;> first | rfl | cases owned

theorem Owned.namesOf_eq : namesOf stored = [] := by
  cases stored <;> first | rfl | cases owned

theorem Owned.slotless (store : Handle StoredSlots) : stored ≠ .forceField store := by
  rintro rfl
  exact owned

/-- What is loaded of a modifier has slots only if it has slots itself. -/
theorem Owned.loaded {loaded : LoadedModifier}
    (loads : workspace.loadModifier? stored = some loaded) (slots : Slots) :
    loaded ≠ .forceField slots := by
  rintro rfl
  cases stored with
  | accel vector =>
    rcases Option.map_eq_some_iff.mp loads with ⟨_, _, same⟩
    cases same
  | texture texture => cases loads
  | _ => cases owned

end

/-- Only an assignment or a replacement can change a modifier itself. -/
theorem Separated.modifier_untouched (separated : Separated workspace place)
    {handle : Handle StoredModifier} (lies : Lies workspace place handle (.alone handle.address))
    {stored : StoredModifier} (present : workspace.get? handle = some stored)
    (slotless : forall store, stored ≠ .forceField store) (command : Command)
    (unassigned : forall name path content, command = .assign name path content ->
      workspace.lookup name = some (.modifier handle) ->
      handle.address ∉ workspace.assignRoots path (.modifier handle)) :
    Agrees (Place.alone handle.address).region workspace place (workspace.runCommand command).2 := by
  have apart {step : Step} (stepped : workspace.step command = .ok step)
      (suits : command.Suits (.modifier handle))
      (directed : workspace.directed? command = some (.modifier handle)) :
      handle.address ∉ workspace.reach command (.modifier handle) := by
    cases command with
    | assign name path content => exact unassigned name path content rfl directed
    | assignHandout name request path content => cases request <;> exact List.not_mem_nil
    | replaceSource name operand index =>
      rcases bind_eq_ok_iff.mp stepped with ⟨source, _, replacing⟩
      rcases bind_eq_ok_iff.mp replacing with ⟨slots, found, _⟩
      rcases bind_eq_ok_iff.mp found with ⟨modifier, named, held⟩
      have selected : workspace.lookup name = some (.modifier handle) := directed
      cases selected.symm.trans (lookup_of_findModifier named)
      rw [present] at held
      split at held
      · rename_i same
        exact absurd (Option.some.inj same) (slotless _)
      · cases held
    | _ => cases suits
  rcases separated.untouched_runCommand command (.modifier handle) lies.kind
    (show Kind.modifier ∉ [.vector, .value] by decide) apart with ⟨_, _, _, agrees⟩
  exact agrees

@[simp]
theorem pathWithin?_modifier (handle : Handle StoredModifier) (other : Asset) (path : Path) :
    workspace.pathWithin? (.modifier handle) other path =
      if other = .modifier handle then some path else none := rfl

theorem gradientSeen?_modifier {handle : Handle StoredModifier} {stored : StoredModifier}
    (present : workspace.get? handle = some stored) :
    workspace.gradientSeen? (.modifier handle) = gradientOf? stored := by
  rw [gradientSeen?, present, Option.bind_some]

theorem speedSeen?_modifier {handle : Handle StoredModifier} {stored : StoredModifier}
    (present : workspace.get? handle = some stored) :
    workspace.speedSeen? (.modifier handle) = speedOf? stored := by
  rw [speedSeen?, present, Option.bind_some]

/-- A path inside of a modifier without a speed leads to no value. -/
theorem valueWithin?_of_speedless {handle : Handle StoredModifier} {stored : StoredModifier}
    (present : workspace.get? handle = some stored) (speedless : speedOf? stored = none)
    (path : Path) : workspace.valueWithin? (.modifier handle) path = none := by
  unfold valueWithin?
  split
  · contradiction
  · contradiction
  · rename_i same
    cases same
    rw [present]
    cases stored with
    | position spawner => cases speedless
    | _ => rfl
  · rfl

/-- Only an assignment by its own name is a mutation of a modifier without a speed. -/
theorem mutations_assign_of_speedless {handle : Handle StoredModifier} {stored : StoredModifier}
    (present : workspace.get? handle = some stored) (speedless : speedOf? stored = none)
    {name : String} {other : Asset} (selected : workspace.lookup name = some other) (path : Path)
    (content : Content) :
    workspace.mutations (.modifier handle) (.assign name path content) =
      if other = .modifier handle then [.place path content] else [] := by
  cases leads : workspace.valueWithin? other path with
  | none =>
    rw [mutations_assign_of_astray selected leads, pathWithin?_modifier]
    split <;> rfl
  | some found =>
    have different : other ≠ .modifier handle := by
      rintro rfl
      rw [valueWithin?_of_speedless present speedless] at leads
      cases leads
    rw [mutations_assign_of_value selected leads, if_neg different,
      membersSeen_of_speedless ((speedSeen?_modifier present).trans speedless), List.map_nil]

/-- Commands that do not assign to a modifier that holds all itself are no mutations of it. -/
theorem Owned.replay {stored : StoredModifier} (owned : Owned stored)
    {handle : Handle StoredModifier} (present : workspace.get? handle = some stored)
    {loaded : LoadedModifier} (loads : workspace.loadModifier? stored = some loaded)
    {command : Command}
    (unassigned : forall name path content, command = .assign name path content ->
      workspace.lookup name ≠ some (.modifier handle)) :
    (Observation.modifier loaded).replay (workspace.mutations (.modifier handle) command) =
      .modifier loaded := by
  cases command with
  | addKey name ratio value =>
    rw [mutations_addKey_of_gradientless ((gradientSeen?_modifier present).trans
      owned.gradientOf?_eq), Observation.replay_nil]
  | replaceSource name operand index =>
    simp only [mutations]
    split
    · split
      · exact Observation.mutate_modifier_slot (owned.loaded loads) _ _
      · rfl
    · rfl
  | replaceValue name member value =>
    rw [mutations_replaceValue_of_speedless ((speedSeen?_modifier present).trans owned.speedOf?_eq),
      Observation.replay_nil]
  | assign name path content =>
    cases selected : workspace.lookup name with
    | none => rw [mutations_assign_of_unnamed selected, Observation.replay_nil]
    | some other =>
      have different : other ≠ .modifier handle := fun same =>
        unassigned name path content rfl (same ▸ selected)
      rw [mutations_assign_of_speedless present owned.speedOf?_eq selected, if_neg different,
        Observation.replay_nil]
  | _ => rfl

/-- A modifier that holds all itself is changed by nothing but assignments to it. -/
theorem Separated.modifierAt?_runCommand_of_owned (separated : Separated workspace place)
    {handle : Handle StoredModifier} (lies : Lies workspace place handle (.alone handle.address))
    {stored : StoredModifier} (present : workspace.get? handle = some stored) (owned : Owned stored)
    {loaded : LoadedModifier} (seen : workspace.modifierAt? handle = some loaded) (command : Command) :
    Exists fun changed => (workspace.runCommand command).2.modifierAt? handle = some changed ∧
      (Observation.modifier loaded).replay (workspace.mutations (.modifier handle) command) =
        .modifier changed := by
  have loads := (modifierAt?_of_get? present).symm.trans seen
  by_cases assigns : Exists fun name => Exists fun path => Exists fun content =>
      command = .assign name path content ∧ workspace.lookup name = some (.modifier handle)
  · rcases assigns with ⟨name, path, content, rfl, selected⟩
    refine ⟨assignedModifier loaded path content, ?_, ?_⟩
    · by_cases empty : path = []
      · rw [empty, runCommand_assign_nil, assignedModifier_nil]
        exact seen
      · rw [separated.runCommand_assign selected empty]
        exact separated.sound.modifierAt?_assignsModifier lies present owned seen path content
    · rw [mutations_assign_of_speedless present owned.speedOf?_eq selected, if_pos rfl,
        Observation.replay_singleton, Observation.mutate_modifier_place]
  · have unassigned : forall name path content, command = .assign name path content ->
        workspace.lookup name ≠ some (.modifier handle) := fun name path content same selected =>
      assigns ⟨name, path, content, same, selected⟩
    have agrees := separated.modifier_untouched lies present owned.slotless command
      fun name path content same selected => absurd selected (unassigned name path content same)
    refine ⟨loaded, (agrees.modifierAt? (Place.inward_region _) separated.sound lies
      (Place.region_self _) ?_ ?_).trans seen, owned.replay present loads unassigned⟩
    · intro other root presentOther shared
      cases present.symm.trans presentOther
      rw [owned.sharedRoots_eq] at shared
      cases shared
    · intro other name presentOther named
      cases present.symm.trans presentOther
      rw [owned.namesOf_eq] at named
      cases named

/-- A modifier that shares a gradient is changed by nothing but keys of the gradient. -/
theorem Separated.modifierAt?_runCommand_of_sharing (separated : Separated workspace place)
    {handle : Handle StoredModifier} (lies : Lies workspace place handle (.alone handle.address))
    {stored : StoredModifier} (present : workspace.get? handle = some stored)
    {gradient : Handle StoredGradient} (shares : gradientOf? stored = some gradient)
    {loaded : LoadedModifier} (seen : workspace.modifierAt? handle = some loaded) (command : Command) :
    Exists fun changed => (workspace.runCommand command).2.modifierAt? handle = some changed ∧
      (Observation.modifier loaded).replay (workspace.mutations (.modifier handle) command) =
        .modifier changed := by
  have seenGradient : workspace.gradientSeen? (.modifier handle) = some gradient := by
    rw [gradientSeen?, present, Option.bind_some, shares]
  have fits := (separated.sound.modifierFits lies present).2
  have agrees := separated.modifier_untouched lies present
    (fun store same => by rw [same] at shares; cases shares) command fun _ _ _ _ _ => by
      cases stored with
      | color held => simp only [assignRoots, present, List.not_mem_nil, not_false_eq_true]
      | size held => simp only [assignRoots, present, List.not_mem_nil, not_false_eq_true]
      | _ => cases shares
  have present' := (agrees.get? lies (Place.region_self _)).trans present
  rw [modifierAt?_of_get? present] at seen
  cases stored with
  | color held =>
    cases shares
    rcases Option.map_eq_some_iff.mp seen with ⟨any, found, rfl⟩
    refine ⟨.color (any.withKey (workspace.keyAdded? gradient command)), ?_,
      showsGradient_color.replay seenGradient any command⟩
    rw [modifierAt?_of_get? present']
    exact congrArg (Option.map _) (separated.loadGradient?_runCommand fits found command)
  | size held =>
    cases shares
    rcases Option.map_eq_some_iff.mp seen with ⟨any, found, rfl⟩
    refine ⟨.size (any.withKey (workspace.keyAdded? gradient command)), ?_,
      showsGradient_size.replay seenGradient any command⟩
    rw [modifierAt?_of_get? present']
    exact congrArg (Option.map _) (separated.loadGradient?_runCommand fits found command)
  | _ => cases shares

/-- A modifier with slots is changed by nothing but replacements. -/
theorem Separated.modifierAt?_runCommand_of_slots (separated : Separated workspace place)
    {handle : Handle StoredModifier} (lies : Lies workspace place handle (.alone handle.address))
    {store : Handle StoredSlots} (present : workspace.get? handle = some (.forceField store))
    {loaded : LoadedModifier} (seen : workspace.modifierAt? handle = some loaded) (command : Command) :
    Exists fun changed => (workspace.runCommand command).2.modifierAt? handle = some changed ∧
      (Observation.modifier loaded).replay (workspace.mutations (.modifier handle) command) =
        .modifier changed := by
  rw [modifierAt?_of_get? present] at seen
  rcases Option.map_eq_some_iff.mp seen with ⟨slots, found, rfl⟩
  have holds : HoldsSlots handle slots workspace place [] := ⟨lies, store, present, found⟩
  rcases holds.runCommand command separated with ⟨_, _, holds'⟩
  refine ⟨_, holds'.modifierAt?_eq, ?_⟩
  rw [List.nil_append]
  cases command with
  | addKey name ratio value =>
    rw [mutations_addKey_of_gradientless (gradientSeen?_modifier present)]
    rfl
  | replaceSource name operand index =>
    simp only [mutations, putSources]
    split
    · cases workspace.readSource operand with
      | error failure => rfl
      | ok source => cases Slots.address? index <;> rfl
    · rfl
  | replaceValue name member value =>
    rw [mutations_replaceValue_of_speedless (speedSeen?_modifier present)]
    rfl
  | assign name path content =>
    cases selected : workspace.lookup name with
    | none =>
      rw [mutations_assign_of_unnamed selected]
      rfl
    | some other =>
      rw [mutations_assign_of_speedless present rfl selected]
      split <;> rfl
  | _ => rfl

/-- Assignments to a value are seen of each member of the speed that it is. -/
theorem replay_members (loaded : Spawner Components) (names : List String) (rest : Path)
    (content : Content) :
    (Observation.modifier (.position loaded)).replay
        (names.map fun name => .place (.member "speed" :: .member name :: rest) content) =
      .modifier (.position { loaded with
        speed := loaded.speed.modifyEach names fun held => assignedValue held rest content }) := by
  induction names generalizing loaded with
  | nil => rfl
  | cons name others inductionHypothesis =>
    have first : (Observation.modifier (.position loaded)).mutate
        (.place (.member "speed" :: .member name :: rest) content) =
        .modifier (.position { loaded with
          speed := loaded.speed.modify name fun held => assignedValue held rest content }) := by
      cases loaded with
      | mk shape center rotation speed dimension => cases shape <;> rfl
    rw [List.map_cons, Observation.replay, List.foldl_cons, first]
    exact inductionHypothesis _

/-- What a command makes of a speed is seen of a modifier that shares it. -/
theorem replay_speedAfter {handle : Handle StoredModifier}
    {spawner : Spawner (Handle Components) (Handle StoredSpeed)}
    (present : workspace.get? handle = some (.position spawner)) {stored : StoredSpeed}
    (presentSpeed : workspace.get? spawner.speed = some stored) (loaded : Spawner Components)
    {command : Command}
    (unassigned : forall name path content, command = .assign name path content ->
      workspace.lookup name = some (.modifier handle) ->
      workspace.valueWithin? (.modifier handle) path ≠ none) :
    (Observation.modifier (.position loaded)).replay (workspace.mutations (.modifier handle) command) =
      .modifier (.position { loaded with
        speed := workspace.speedAfter spawner.speed stored loaded.speed command }) := by
  have seenSpeed : workspace.speedSeen? (.modifier handle) = some spawner.speed :=
    speedSeen?_modifier present
  cases command with
  | addKey name ratio value =>
    rw [mutations_addKey_of_gradientless (gradientSeen?_modifier present)]
    rfl
  | replaceSource name operand index =>
    simp only [mutations]
    split
    · split <;> rfl
    · rfl
  | replaceValue name member value =>
    simp only [mutations, seenSpeed, Option.bind_some, speedAfter]
    cases workspace.valueReplaced? spawner.speed (.replaceValue name member value) <;> rfl
  | assign name path content =>
    cases selected : workspace.lookup name with
    | none =>
      rw [mutations_assign_of_unnamed selected, speedAfter, selected]
      rfl
    | some other =>
      simp only [speedAfter, selected, Option.bind_some]
      cases leads : workspace.valueWithin? other path with
      | some found =>
        rcases found with ⟨value, rest⟩
        have members : workspace.membersSeen (.modifier handle) value = stored.membersWith value := by
          rw [membersSeen, seenSpeed, Option.bind_some, presentSpeed, Option.toList_some,
            List.flatMap_singleton]
        rw [mutations_assign_of_value selected leads, members, replay_members]
      | none =>
        have different : other ≠ .modifier handle := by
          rintro rfl
          exact unassigned name path content rfl selected leads
        rw [mutations_assign_of_astray selected leads, pathWithin?_modifier, if_neg different]
        rfl
  | _ => rfl

/-- An assignment through a speed is not made in the modifier. -/
theorem Separated.not_mem_assignRoots (separated : Separated workspace place)
    {handle : Handle StoredModifier} (lies : Lies workspace place handle (.alone handle.address))
    {path : Path} (leads : workspace.valueWithin? (.modifier handle) path ≠ none) :
    handle.address ∉ workspace.assignRoots path (.modifier handle) := by
  intro member
  unfold valueWithin? at leads
  split at leads
  · contradiction
  · contradiction
  · rename_i same
    cases same
    split at leads
    · rename_i present
      simp only [assignRoots, present] at member
      have liesAsset : AssetLies workspace place (.modifier handle) := lies
      have value := separated.kindAt?_of_mem_valueRoots liesAsset member
      cases lies.kind.symm.trans value
    · exact leads rfl
  · exact leads rfl

/-- A modifier that shares its speed shows what becomes of that, and what is assigned to the
modifier itself. -/
theorem Separated.modifierAt?_runCommand_of_position (separated : Separated workspace place)
    {handle : Handle StoredModifier} (lies : Lies workspace place handle (.alone handle.address))
    {spawner : Spawner (Handle Components) (Handle StoredSpeed)}
    (present : workspace.get? handle = some (.position spawner)) {loaded : Spawner Components}
    (loads : spawner.mapM? workspace.get? workspace.loadSpeed? = some loaded) (command : Command) :
    Exists fun changed => (workspace.runCommand command).2.modifierAt? handle = some changed ∧
      (Observation.modifier (.position loaded)).replay
          (workspace.mutations (.modifier handle) command) = .modifier changed := by
  by_cases assigns : Exists fun name => Exists fun path => Exists fun content =>
      command = .assign name path content ∧ workspace.lookup name = some (.modifier handle) ∧
      workspace.valueWithin? (.modifier handle) path = none
  · rcases assigns with ⟨name, path, content, rfl, selected, astray⟩
    refine ⟨.position (assignedSpawner loaded path content), ?_, ?_⟩
    · by_cases empty : path = []
      · rw [empty, runCommand_assign_nil]
        exact modifierAt?_position present loads
      · have assignment : workspace.assignInside (.modifier handle) path content =
            workspace.assignSpawner handle spawner path content := by
          simp only [Workspace.assignInside, Workspace.assignModifier, present, orUnsuitable, ok_bind]
        rw [separated.runCommand_assign selected empty, assignment]
        exact separated.sound.modifierAt?_assignsSpawner lies present loads astray content
    · rw [mutations_assign_of_astray selected astray, pathWithin?_modifier, if_pos rfl,
        Option.map_some, Option.toList_some, Observation.replay_singleton,
        Observation.mutate_modifier_place]
      rfl
  · have unassigned (name : String) (path : Path) (content : Content)
        (same : command = .assign name path content)
        (selected : workspace.lookup name = some (.modifier handle)) :
        workspace.valueWithin? (.modifier handle) path ≠ none := fun astray =>
      assigns ⟨name, path, content, same, selected, astray⟩
    have fits := (separated.sound.modifierFits lies present).2
    have speedLies : Lies workspace place spawner.speed (.alone spawner.speed.address) := fits.speed
    rcases speedLies.exists_get? with ⟨stored, presentSpeed⟩
    have seenSpeed := (Spawner.mapM?_eq_some_iff.mp loads).2.2.2.1
    have slotless (store : Handle StoredSlots) :
        (.position spawner : StoredModifier) ≠ .forceField store := by simp
    have agrees := separated.modifier_untouched lies present slotless command
      fun name path content same selected =>
        separated.not_mem_assignRoots lies (unassigned name path content same selected)
    exact ⟨_, separated.sound.modifierAt?_of_speed lies present loads agrees
      (separated.loadSpeed?_runCommand speedLies presentSpeed seenSpeed command),
      replay_speedAfter present presentSpeed loaded unassigned⟩

/-- What is seen of a modifier changes by its mutations, unless its maker keeps its hooks. -/
theorem Separated.modifierAt?_runCommand (separated : Separated workspace place)
    {handle : Handle StoredModifier} (lies : Lies workspace place handle (.alone handle.address))
    {loaded : LoadedModifier} (told : (Observation.modifier loaded).IsTold)
    (seen : workspace.modifierAt? handle = some loaded) (command : Command) :
    Exists fun changed => (workspace.runCommand command).2.modifierAt? handle = some changed ∧
      (Observation.modifier loaded).replay (workspace.mutations (.modifier handle) command) =
        .modifier changed := by
  rcases lies.exists_get? with ⟨stored, present⟩
  cases stored with
  | position spawner =>
    rw [modifierAt?_of_get? present] at seen
    rcases Option.map_eq_some_iff.mp seen with ⟨held, loads, rfl⟩
    exact separated.modifierAt?_runCommand_of_position lies present loads command
  | accel vector => exact separated.modifierAt?_runCommand_of_owned lies present trivial seen command
  | texture texture =>
    exact separated.modifierAt?_runCommand_of_owned lies present trivial seen command
  | forceField store => exact separated.modifierAt?_runCommand_of_slots lies present seen command
  | color gradient =>
    exact separated.modifierAt?_runCommand_of_sharing lies present rfl seen command
  | size gradient =>
    exact separated.modifierAt?_runCommand_of_sharing lies present rfl seen command
  | custom hooks =>
    rw [modifierAt?_of_get? present] at seen
    cases seen
    cases told

/-! ## Sources -/

/-- What no root of an assignment is a vector or a source of is seen of a source as before. -/
theorem Kept.loadSource? {roots registered : List Nat} {bound : List String}
    {changed : Workspace} {place' : Placement}
    (kept : Kept roots registered bound workspace place changed place')
    (sound : Sound workspace place) {handle : Handle StoredSource}
    (lies : Lies workspace place handle (.alone handle.address))
    (apart : forall root, root ∈ roots ->
      workspace.kindAt? root ≠ some .vector ∧ workspace.kindAt? root ≠ some .source) :
    changed.loadSource? handle = workspace.loadSource? handle :=
  (kept.changes.agrees (fun spot => spot.root ∉ roots) fun _ outside inside =>
    outside inside).loadSource?_alone sound lies (fun member => (apart _ member).2 lies.kind)
      fun _ present member => (apart _ member).1 (sound.positionLies lies present).kind

/-- Only assignments change what is seen of a source. -/
theorem Separated.loadSource?_runCommand_of_unassigning (separated : Separated workspace place)
    {handle : Handle StoredSource} (lies : Lies workspace place handle (.alone handle.address))
    {command : Command} (unassigning : forall name path content, command ≠ .assign name path content) :
    (workspace.runCommand command).2.loadSource? handle = workspace.loadSource? handle := by
  cases stepped : workspace.step command with
  | error failure => simp only [Workspace.runCommand, stepped]
  | ok step =>
    rcases separated.step stepped with ⟨_, kept⟩
    simp only [Workspace.runCommand, stepped]
    refine kept.loadSource? separated.sound lies fun root member => ?_
    rcases separated.exists_directed_of_mem_targets member with
      ⟨asset, liesAsset, directed, reached⟩
    rcases owner_of_mem_reach (suits_of_step stepped directed) unassigning reached with
      ⟨rfl, kinds, _⟩
    exact ⟨liesAsset.kindAt?_ne fun same => kinds (by simp [same]),
      liesAsset.kindAt?_ne fun same => kinds (by simp [same])⟩

/-- What an assignment inside an asset makes of a source. -/
theorem Separated.loadSource?_assignsInside (separated : Separated workspace place)
    {handle : Handle StoredSource} (lies : Lies workspace place handle (.alone handle.address))
    {source : LayoutSource} (loaded : workspace.loadSource? handle = some source) {asset : Asset}
    (liesAsset : AssetLies workspace place asset) (path : Path) (content : Content) :
    (orKept workspace (workspace.assignInside asset path content)).loadSource? handle =
      some (((workspace.pathWithin? (.source handle) asset path).map
        fun inner => assignedSource source inner content).getD source) := by
  by_cases elsewhere : asset.kind ≠ .vector ∧ asset.kind ≠ .source
  · have nothing : workspace.pathWithin? (.source handle) asset path = none := by
      cases asset with
      | vector vector => exact absurd rfl elsewhere.1
      | source source => exact absurd rfl elsewhere.2
      | _ => rfl
    rw [nothing, Option.map_none, Option.getD_none]
    cases assigned : workspace.assignInside asset path content with
    | error failure => exact loaded
    | ok changed =>
      have kept : Exists fun place' => Kept (workspace.assignRoots path asset) [] [] workspace
          place changed place' := separated.assignInside liesAsset assigned
      rcases kept with ⟨_, kept⟩
      refine (kept.loadSource? separated.sound lies fun root member => ?_).trans loaded
      rcases separated.mem_assignRoots liesAsset member with ⟨rfl, _⟩ | ⟨isSource, _⟩ | valued
      · exact ⟨liesAsset.kindAt?_ne elsewhere.1, liesAsset.kindAt?_ne elsewhere.2⟩
      · exact absurd isSource elsewhere.2
      · simp [separated.kindAt?_of_mem_valueRoots liesAsset valued]
  · cases asset with
    | vector vector =>
      exact separated.sound.loadSource?_assignsVector lies loaded liesAsset path content
    | source other =>
      exact separated.sound.loadSource?_assignsSource lies loaded liesAsset path content
    | _ => exact absurd (by simp [Asset.kind]) elsewhere

/-- An empty path leads to no place of a source, and to none of its position. -/
theorem assignedSource_of_pathWithin?_nil {handle : Handle StoredSource} {asset : Asset}
    {inner : Path} (within : workspace.pathWithin? (.source handle) asset [] = some inner)
    (source : LayoutSource) (content : Content) : assignedSource source inner content = source := by
  cases asset with
  | vector vector =>
    rw [pathWithin?] at within
    split at within
    · cases within
      rfl
    · cases within
  | source other =>
    have own : (if Asset.source other = .source handle then some [] else none) = some inner := within
    split at own
    · cases own
      rfl
    · cases own
  | _ => cases within

/-- No value is part of a source. -/
theorem mutations_source_assign {name : String} {asset : Asset}
    (selected : workspace.lookup name = some asset) (handle : Handle StoredSource) (path : Path)
    (content : Content) :
    workspace.mutations (.source handle) (.assign name path content) =
      ((workspace.pathWithin? (.source handle) asset path).map
        fun inner => .place inner content).toList := by
  cases leads : workspace.valueWithin? asset path with
  | none => exact mutations_assign_of_astray selected leads _ _
  | some found =>
    have nothing : workspace.pathWithin? (.source handle) asset path = none := by
      cases asset with
      | value value => rfl
      | speed speed => rfl
      | modifier modifier => rfl
      | _ => cases leads
    rw [mutations_assign_of_value selected leads, membersSeen_of_speedless rfl, nothing]
    rfl

/-- What an assignment by name makes of a source. -/
theorem Separated.loadSource?_runCommand_assign (separated : Separated workspace place)
    {handle : Handle StoredSource} (lies : Lies workspace place handle (.alone handle.address))
    {source : LayoutSource} (loaded : workspace.loadSource? handle = some source) {name : String}
    {asset : Asset} (selected : workspace.lookup name = some asset) (path : Path)
    (content : Content) :
    (workspace.runCommand (.assign name path content)).2.loadSource? handle =
      some (((workspace.pathWithin? (.source handle) asset path).map
        fun inner => assignedSource source inner content).getD source) := by
  by_cases empty : path = []
  · subst empty
    rw [runCommand_assign_nil]
    cases within : workspace.pathWithin? (.source handle) asset [] with
    | none => exact loaded
    | some inner =>
      rw [Option.map_some, Option.getD_some, assignedSource_of_pathWithin?_nil within]
      exact loaded
  · rw [separated.runCommand_assign selected empty]
    exact separated.loadSource?_assignsInside lies loaded (separated.named name asset selected)
      path content

/-- What is seen of a source is changed by nothing but assignments to it and to its position. -/
theorem Separated.loadSource?_runCommand (separated : Separated workspace place)
    {handle : Handle StoredSource} (lies : Lies workspace place handle (.alone handle.address))
    {source : LayoutSource} (loaded : workspace.loadSource? handle = some source)
    (command : Command) :
    Exists fun changed => (workspace.runCommand command).2.loadSource? handle = some changed ∧
      (Observation.source source).replay (workspace.mutations (.source handle) command) =
        .source changed := by
  have untouched (unassigning : forall name path content, command ≠ .assign name path content) :
      (workspace.runCommand command).2.loadSource? handle = some source :=
    (separated.loadSource?_runCommand_of_unassigning lies unassigning).trans loaded
  cases command with
  | assign name path content =>
    cases selected : workspace.lookup name with
    | none =>
      refine ⟨source, ?_, ?_⟩
      · simp only [Workspace.runCommand, Workspace.step, Workspace.assign, find, selected]
        exact loaded
      · rw [mutations_assign_of_unnamed selected, Observation.replay_nil]
    | some asset =>
      have replayed : (Observation.source source).replay
          (workspace.mutations (.source handle) (.assign name path content)) =
          .source (((workspace.pathWithin? (.source handle) asset path).map
            fun inner => assignedSource source inner content).getD source) := by
        rw [mutations_source_assign selected]
        cases workspace.pathWithin? (.source handle) asset path <;> rfl
      exact ⟨_, separated.loadSource?_runCommand_assign lies loaded selected path content, replayed⟩
  | addKey name ratio value => exact ⟨source, untouched (by simp), rfl⟩
  | replaceSource name operand index =>
    refine ⟨source, untouched (by simp), ?_⟩
    simp only [mutations]
    split
    · split <;> rfl
    · rfl
  | _ => exact ⟨source, untouched (by simp), rfl⟩

end Workspace
end ParticleEffects
