import ParticleEffects.Proofs.LastWrites
import ParticleEffects.Proofs.Repetition

namespace ParticleEffects
namespace Workspace

/-!
Registrations, and what effects of built-in modifiers are compiled to.

The command to register modifiers changes nothing but the lists of one effect.  What
an effect of built-in modifiers is compiled to is then read off those lists, for
whatever order of commands they come from.
-/

open Spatial ForceField

/-! ## The command -/

/-- The modifier that a name stands for, loaded. -/
def modifierNamed? (workspace : Workspace) (name : String) : Option LoadedModifier :=
  match workspace.lookup name with
  | some (.modifier handle) => workspace.modifierAt? handle
  | _ => none

section

variable {workspace : Workspace} {name : String} {handle : Handle StoredEffect}
  {effect : StoredEffect}

theorem set_set {α : Type} [Storable α] (workspace : Workspace) (handle : Handle α)
    (first second : α) :
    (workspace.set handle first).set handle second = workspace.set handle second := by
  simp [set]

variable (selected : workspace.lookup name = some (.effect handle))
  (present : workspace.get? handle = some effect)
include selected present

/-- The modifiers of the names are put behind those of the stage, if there are all of
them. -/
theorem runCommand_register (stage : Stage) (names : List String) :
    (workspace.runCommand (.register name stage names)).2 =
      match names.mapM workspace.findModifier with
      | .ok modifiers => workspace.set handle (effect.registerAll stage modifiers)
      | .error _ => workspace := by
  cases found : names.mapM workspace.findModifier with
  | error failure =>
    have fails : workspace.step (.register name stage names) = .error failure := by
      simp only [step, register, findEffect_of_lookup selected, ok_bind, present, orUnsuitable, found]
      rfl
    simp only [runCommand, fails]
  | ok modifiers =>
    have seen : (workspace.set handle (effect.registerAll stage modifiers)).observe name =
        .ok (.effect (effect.registerAll stage modifiers).config) := by
      have found : (workspace.set handle (effect.registerAll stage modifiers)).find name =
          .ok (.effect handle) := by
        simp only [find, lookup, set] at selected ⊢
        rw [selected]
      simp only [observe, found, ok_bind, view, get?_set_self present, orUnsuitable]
      rfl
    have succeeds : workspace.step (.register name stage names) = .ok {
        workspace := workspace.set handle (effect.registerAll stage modifiers)
        answer := .chained (.effect (effect.registerAll stage modifiers).config) } := by
      simp only [step, register, findEffect_of_lookup selected, ok_bind, present, orUnsuitable, found,
        pure, Except.pure, seen]
    simp only [runCommand, succeeds]

/-- Registrations for different stages commute. -/
theorem runTo_register_comm {first second : Stage} (different : first ≠ second)
    (names others : List String) :
    workspace.runTo [.register name first names, .register name second others] =
      workspace.runTo [.register name second others, .register name first names] := by
  have after (stage other : Stage) (names others : List String) :
      workspace.runTo [.register name stage names, .register name other others] =
        match names.mapM workspace.findModifier, others.mapM workspace.findModifier with
        | .ok modifiers, .ok later =>
          workspace.set handle ((effect.registerAll stage modifiers).registerAll other later)
        | .ok modifiers, .error _ => workspace.set handle (effect.registerAll stage modifiers)
        | .error _, .ok later => workspace.set handle (effect.registerAll other later)
        | .error _, .error _ => workspace := by
    show ((workspace.runCommand (.register name stage names)).2.runCommand
      (.register name other others)).2 = _
    rw [runCommand_register selected present]
    cases names.mapM workspace.findModifier with
    | error failure =>
      simp only [runCommand_register selected present]
      cases others.mapM workspace.findModifier <;> rfl
    | ok modifiers =>
      have selected' : (workspace.set handle (effect.registerAll stage modifiers)).lookup name =
        some (.effect handle) := selected
      have found' : others.mapM
          (workspace.set handle (effect.registerAll stage modifiers)).findModifier =
            others.mapM workspace.findModifier := rfl
      simp only [runCommand_register selected' (get?_set_self present _), found', set_set]
      cases others.mapM workspace.findModifier <;> rfl
  rw [after, after]
  cases names.mapM workspace.findModifier <;> cases others.mapM workspace.findModifier <;>
    simp only [effect.registerAll_comm different]

end

/-! ## Built-in modifiers -/

/-- What was found is a built-in modifier of a stage, and all ratios of its keys are
numbers. -/
def IsBuiltIn (stage : Stage) (found : Option LoadedModifier) : Prop :=
  Exists fun modifier => modifier ∈ found ∧ modifier.BuiltInAt stage ∧ modifier.Numeric

instance (stage : Stage) (found : Option LoadedModifier) : Decidable (IsBuiltIn stage found) :=
  inferInstanceAs (Decidable (Exists fun modifier => modifier ∈ found ∧ _))

/-- All modifiers of an effect are built-in ones of the stages that they are registered for. -/
def BuiltIn (workspace : Workspace) (effect : StoredEffect) : Prop :=
  forall stage modifier, modifier ∈ effect.modifiers stage ->
    IsBuiltIn stage (workspace.modifierAt? modifier)

theorem BuiltIn.loaded {workspace : Workspace} {effect : StoredEffect}
    (builtIn : workspace.BuiltIn effect) {loaded : Effect LoadedModifier}
    (found : workspace.loadEffect? effect = some loaded) (stage : Stage) (modifier : LoadedModifier)
    (member : modifier ∈ loaded.modifiers stage) :
    modifier.BuiltInAt stage ∧ modifier.Numeric := by
  rcases exists_mem_of_mapM ((loadEffect?_eq_some_iff.mp found).2 stage) member with
    ⟨registered, registeredAt, loads⟩
  rcases builtIn stage registered registeredAt with ⟨other, loadsOther, holds⟩
  cases loads.symm.trans (Option.mem_def.mp loadsOther)
  exact holds

section

variable {workspace : Workspace} {place : Placement}

/-- A gradient that is part of nothing has its keys in order. -/
theorem Sound.inOrder_of_loadGradient? (sound : Sound workspace place)
    {gradient : Handle StoredGradient}
    (lies : Lies workspace place gradient (.alone gradient.address)) {any : AnyGradient}
    (loaded : workspace.loadGradient? gradient = some any) : any.gradient.InOrder := by
  rcases lies.exists_get? with ⟨stored, present⟩
  rw [loadGradient?_of_get? present] at loaded
  rcases Option.map_eq_some_iff.mp loaded with ⟨keys, found, rfl⟩
  exact ((sound.gradientFits lies present).ordered rfl).mapM? found

variable (separated : Separated workspace place)
include separated

/-- A gradient that a modifier holds has its keys in order. -/
theorem Separated.inOrder_of_modifierAt? {modifier : Handle StoredModifier}
    (lies : Lies workspace place modifier (.alone modifier.address)) {loaded : LoadedModifier}
    (found : workspace.modifierAt? modifier = some loaded) : loaded.InOrder := by
  rcases Option.bind_eq_some_iff.mp found with ⟨stored, present, loads⟩
  have fits := (separated.sound.modifierFits lies present).2
  cases stored with
  | color gradient =>
    rcases Option.map_eq_some_iff.mp loads with ⟨any, loadsGradient, rfl⟩
    exact separated.sound.inOrder_of_loadGradient? fits loadsGradient
  | size gradient =>
    rcases Option.map_eq_some_iff.mp loads with ⟨any, loadsGradient, rfl⟩
    exact separated.sound.inOrder_of_loadGradient? fits loadsGradient
  | texture handle => cases loads; trivial
  | custom hooks => cases loads; trivial
  | _ => obtain ⟨_, _, rfl⟩ := Option.map_eq_some_iff.mp loads; trivial

variable {name : String} {handle : Handle StoredEffect} {effect : StoredEffect}
  (selected : workspace.lookup name = some (.effect handle))
  (present : workspace.get? handle = some effect) {loaded : Effect LoadedModifier}
  (found : workspace.loadEffect? effect = some loaded)
include selected present found

/-- What an effect of built-in modifiers is compiled to. -/
theorem Separated.outcome_of_builtIn
    (builtIn : forall stage modifier, modifier ∈ loaded.modifiers stage -> modifier.BuiltInAt stage)
    (numeric : forall modifier, modifier ∈ loaded.renderModifiers -> modifier.Numeric)
    (layoutsName : Option String) :
    Exists fun step => workspace.step (.compile name layoutsName) = .ok step ∧
      step.outcome? = some (.ok loaded.lastWrites) := by
  rcases separated.compiles selected present layoutsName with
    ⟨other, step, _, foundOther, compiled, compiles⟩
  cases found.symm.trans foundOther
  have ordered (modifier : LoadedModifier) (member : modifier ∈ loaded.renderModifiers) :
      modifier.InOrder := by
    rcases exists_mem_of_mapM ((loadEffect?_eq_some_iff.mp found).2 .render) member with
      ⟨registered, registeredAt, loads⟩
    exact separated.inOrder_of_modifierAt?
      (separated.modifiers_lie present .render registered registeredAt) loads
  have meaning := loaded.meaning_of_builtIn builtIn numeric ordered
  exact ⟨step, compiled, by rw [compiles.outcome?_eq, meaning, Applied.outcome_done]⟩

omit selected found in
/-- What is only written to an effect is not seen in any modifier. -/
theorem Separated.modifierAt?_of_kept {changed : Workspace} {place' : Placement}
    {registered : List Nat}
    (kept : Kept [handle.address] registered [] workspace place changed place')
    {modifier : Handle StoredModifier}
    (lies : Lies workspace place modifier (.alone modifier.address)) :
    changed.modifierAt? modifier = workspace.modifierAt? modifier := by
  have agrees := kept.changes.agrees (fun spot => spot.root ≠ handle.address)
    fun _ different rooted => different (List.mem_singleton.mp rooted)
  have apart {α : Type} [Storable α] {other : Handle α} {spot : Place}
      (lies : Lies workspace place other spot) (kind : Storable.kind α ≠ .effect) :
      other.address ≠ handle.address :=
    address_ne_of_kindAt? lies.kind (kindAt?_of_get? present) kind
  apply agrees.modifierAt? (fun _ inside _ => inside) separated.sound lies
    (apart lies (by decide))
  · intro stored root presentModifier shared same
    have fits := (separated.sound.modifierFits lies presentModifier).2
    rcases separated.sound.sharedRoot fits shared with ⟨_, kind, foundKind, kinds⟩
    rw [show root = handle.address from same, kindAt?_of_get? present] at foundKind
    cases foundKind
    simp [Storable.kind] at kinds
  · intro stored name _ _
    apply components_named_congr (kept.lookup_eq name List.not_mem_nil)
    intro vector selectedVector
    have liesVector : Lies workspace place vector (.alone vector.address) :=
      separated.named name _ selectedVector
    exact agrees.get? liesVector (apart liesVector (by decide))

omit selected found in
theorem Separated.modifierNamed?_of_kept {changed : Workspace} {place' : Placement}
    {registered : List Nat}
    (kept : Kept [handle.address] registered [] workspace place changed place') (other : String) :
    changed.modifierNamed? other = workspace.modifierNamed? other := by
  rw [modifierNamed?, modifierNamed?, kept.lookup_eq other List.not_mem_nil]
  split
  · rename_i modifier named
    exact separated.modifierAt?_of_kept present kept (separated.named other _ named)
  · rfl

omit separated selected present found in
theorem exists_handles_of_named {names : List String} :
    forall {modifiers : List LoadedModifier}, names.mapM workspace.modifierNamed? = some modifiers ->
      Exists fun handles => names.mapM workspace.findModifier = .ok handles ∧
        handles.mapM workspace.modifierAt? = some modifiers := by
  induction names with
  | nil => intro modifiers named; cases named; exact ⟨[], rfl, rfl⟩
  | cons name rest inductionHypothesis =>
    intro modifiers named
    rcases mapM_cons_eq_some_iff.mp named with ⟨first, others, namedFirst, namedOthers, rfl⟩
    rcases inductionHypothesis namedOthers with ⟨handles, foundOthers, loadedOthers⟩
    unfold modifierNamed? at namedFirst
    split at namedFirst
    · rename_i handle selected
      have foundFirst : workspace.findModifier name = .ok handle := by
        simp only [findModifier, find, selected]
        rfl
      refine ⟨handle :: handles, ?_,
        mapM_cons_eq_some_iff.mpr ⟨first, others, namedFirst, loadedOthers, rfl⟩⟩
      rw [List.mapM_cons, foundFirst, ok_bind, foundOthers]
      rfl
    · cases namedFirst

/-- Registration leaves modifiers as they are, so that an effect is loaded with those that
were registered behind those that it had. -/
theorem Separated.loadEffect?_registered {stage : Stage} {names : List String}
    {modifiers : List LoadedModifier}
    (named : names.mapM workspace.modifierNamed? = some modifiers) :
    Exists fun place' => Exists fun effect' =>
      Kept [handle.address] (workspace.registered (.register name stage names)) [] workspace place
        (workspace.runCommand (.register name stage names)).2 place' ∧
      (workspace.runCommand (.register name stage names)).2.lookup name = some (.effect handle) ∧
      (workspace.runCommand (.register name stage names)).2.get? handle = some effect' ∧
      (workspace.runCommand (.register name stage names)).2.loadEffect? effect' =
        some (loaded.registerAll stage modifiers) := by
  rcases exists_handles_of_named named with ⟨handles, foundHandles, loadedHandles⟩
  rcases separated.runCommand (.register name stage names) with ⟨place', kept⟩
  rw [targets_eq_of_subject rfl selected] at kept
  have ran : (workspace.runCommand (.register name stage names)).2 =
      workspace.set handle (effect.registerAll stage handles) := by
    rw [runCommand_register selected present, foundHandles]
  have presentAfter := get?_set_self present (effect.registerAll stage handles)
  rw [← ran] at presentAfter
  have selectedAfter : (workspace.runCommand (.register name stage names)).2.lookup name =
      some (.effect handle) := by
    rw [ran]
    exact selected
  rcases loadEffect?_eq_some_iff.mp found with ⟨config, foundAt⟩
  refine ⟨place', _, kept, selectedAfter, presentAfter,
    loadEffect?_eq_some_iff.mpr ⟨?_, fun other => ?_⟩⟩
  · rw [Effect.registerAll_eq, Effect.registerAll_eq]
    cases stage <;> exact config
  · have before : (effect.modifiers other).mapM
        (workspace.runCommand (.register name stage names)).2.modifierAt? =
          some (loaded.modifiers other) := by
      rw [← foundAt other]
      exact mapM_congr fun modifier member => separated.modifierAt?_of_kept present kept
        (separated.modifiers_lie present other modifier member)
    have added : handles.mapM (workspace.runCommand (.register name stage names)).2.modifierAt? =
        some modifiers := by
      rw [← loadedHandles]
      refine mapM_congr fun modifier member => separated.modifierAt?_of_kept present kept ?_
      rcases exists_mem_of_mapM_ok foundHandles member with ⟨modifierName, _, foundModifier⟩
      exact separated.named modifierName _ (lookup_of_findModifier foundModifier)
    rw [Effect.modifiers_registerAll, Effect.modifiers_registerAll]
    split
    · exact mapM_append_eq_some before added
    · rw [List.append_nil, List.append_nil]
      exact before

end

/-! ## Runs of registrations -/

/-- The commands that register names for stages. -/
def registrations (name : String) (entries : List (Stage × List String)) : List Command :=
  entries.map fun entry => .register name entry.1 entry.2

/-- The names that are registered for a stage, in their order. -/
def namesFor (stage : Stage) (entries : List (Stage × List String)) : List String :=
  entries.flatMap fun entry => if entry.1 = stage then entry.2 else []

/-- A name stands for a built-in modifier of a stage. -/
def NamesBuiltIn (workspace : Workspace) (stage : Stage) (name : String) : Prop :=
  IsBuiltIn stage (workspace.modifierNamed? name)

instance (workspace : Workspace) (stage : Stage) (name : String) :
    Decidable (workspace.NamesBuiltIn stage name) :=
  inferInstanceAs (Decidable (IsBuiltIn stage _))

/-- The modifiers that some names stand for. -/
def modifiersNamed (workspace : Workspace) (names : List String) : List LoadedModifier :=
  names.filterMap workspace.modifierNamed?

/-- An effect with all that a run of registrations adds, stage by stage. -/
def afterRegistrations (workspace : Workspace) (loaded : Effect LoadedModifier)
    (entries : List (Stage × List String)) : Effect LoadedModifier :=
  loaded.withRegistered fun stage => workspace.modifiersNamed (namesFor stage entries)

theorem modifiers_afterRegistrations (workspace : Workspace) (loaded : Effect LoadedModifier)
    (entries : List (Stage × List String)) (stage : Stage) :
    (workspace.afterRegistrations loaded entries).modifiers stage =
      loaded.modifiers stage ++ workspace.modifiersNamed (namesFor stage entries) :=
  Effect.modifiers_withRegistered _ _ stage

/-- Neighbours among the names are neighbours among the modifiers. -/
theorem modifiers_afterRegistrations_of_split {workspace : Workspace}
    (loaded : Effect LoadedModifier) {entries : List (Stage × List String)} {stage : Stage}
    {before after : List String} {first second : String} {modifier other : LoadedModifier}
    (order : namesFor stage entries = before ++ first :: second :: after)
    (namedFirst : workspace.modifierNamed? first = some modifier)
    (namedSecond : workspace.modifierNamed? second = some other) :
    (workspace.afterRegistrations loaded entries).modifiers stage =
      (loaded.modifiers stage ++ workspace.modifiersNamed before) ++
        modifier :: other :: workspace.modifiersNamed after := by
  rw [modifiers_afterRegistrations, order, List.append_assoc, modifiersNamed, modifiersNamed,
    modifiersNamed, List.filterMap_append, List.filterMap_cons_some namedFirst,
    List.filterMap_cons_some namedSecond]

theorem mapM_modifierNamed? {workspace : Workspace} {names : List String}
    (each : forall name, name ∈ names -> Exists fun modifier =>
      workspace.modifierNamed? name = some modifier) :
    names.mapM workspace.modifierNamed? = some (workspace.modifiersNamed names) := by
  induction names with
  | nil => rfl
  | cons name rest inductionHypothesis =>
    rcases each name List.mem_cons_self with ⟨modifier, found⟩
    refine mapM_cons_eq_some_iff.mpr ⟨modifier, _, found,
      inductionHypothesis fun other member => each other (List.mem_cons_of_mem _ member), ?_⟩
    rw [modifiersNamed, modifiersNamed, List.filterMap_cons_some found]

/-- An effect is loaded with all that a run registers behind what it had, stage by stage,
whatever the stages between which the run goes back and forth. -/
theorem Separated.loadEffect?_registrations {name : String} {handle : Handle StoredEffect}
    (entries : List (Stage × List String)) :
    forall {workspace : Workspace} {place : Placement}, Separated workspace place ->
      workspace.lookup name = some (.effect handle) ->
      forall {effect : StoredEffect}, workspace.get? handle = some effect ->
      forall {loaded : Effect LoadedModifier}, workspace.loadEffect? effect = some loaded ->
      (forall stage registered, registered ∈ namesFor stage entries -> Exists fun modifier =>
        workspace.modifierNamed? registered = some modifier) ->
      Exists fun place' => Exists fun effect' =>
        Separated (workspace.runTo (registrations name entries)) place' ∧
        (workspace.runTo (registrations name entries)).lookup name = some (.effect handle) ∧
        (workspace.runTo (registrations name entries)).get? handle = some effect' ∧
        (workspace.runTo (registrations name entries)).loadEffect? effect' =
          some (workspace.afterRegistrations loaded entries) := by
  induction entries with
  | nil =>
    intro workspace place separated selected effect present loaded found _
    refine ⟨place, effect, separated, selected, present, found.trans ?_⟩
    simp [afterRegistrations, namesFor, modifiersNamed, Effect.withRegistered]
  | cons entry rest inductionHypothesis =>
    intro workspace place separated selected effect present loaded found named
    have namedHere : entry.2.mapM workspace.modifierNamed? =
        some (workspace.modifiersNamed entry.2) :=
      mapM_modifierNamed? fun registered member =>
        named entry.1 registered (by simp [namesFor, member])
    rcases separated.loadEffect?_registered selected present found namedHere with
      ⟨place', effect', kept, selected', present', found'⟩
    have same : (workspace.runCommand (.register name entry.1 entry.2)).2.modifierNamed? =
        workspace.modifierNamed? := funext (separated.modifierNamed?_of_kept present kept)
    rcases inductionHypothesis kept.separated selected' present' found' (by
        intro stage registered member
        rw [same]
        exact named stage registered (List.mem_append_right _ member)) with
      ⟨place'', effect'', separated'', selected'', present'', found''⟩
    refine ⟨place'', effect'', separated'', selected'', present'', found''.trans ?_⟩
    rw [afterRegistrations, afterRegistrations, Effect.registerAll_withRegistered]
    congr
    funext stage
    simp only [modifiersNamed, same, namesFor, List.flatMap_cons, List.filterMap_append]
    split <;> rfl

/-- An effect of built-in modifiers stays one when others are registered. -/
theorem Separated.outcome_of_registrations {workspace : Workspace} {place : Placement}
    (separated : Separated workspace place) {name : String} {handle : Handle StoredEffect}
    {effect : StoredEffect} (selected : workspace.lookup name = some (.effect handle))
    (present : workspace.get? handle = some effect) {loaded : Effect LoadedModifier}
    (found : workspace.loadEffect? effect = some loaded)
    (builtIn : workspace.BuiltIn effect)
    {entries : List (Stage × List String)}
    (registered : forall stage other, other ∈ namesFor stage entries ->
      workspace.NamesBuiltIn stage other) (layoutsName : Option String) :
    Exists fun step =>
      (workspace.runTo (registrations name entries)).step (.compile name layoutsName) = .ok step ∧
      step.outcome? = some (.ok (workspace.afterRegistrations loaded entries).lastWrites) := by
  rcases loadEffect?_registrations entries separated selected present found fun stage other member =>
      (registered stage other member).imp fun _ holds => holds.1 with
    ⟨place', effect', separated', selected', present', found'⟩
  have all (stage : Stage) (modifier : LoadedModifier)
      (member : modifier ∈ (workspace.afterRegistrations loaded entries).modifiers stage) :
      modifier.BuiltInAt stage ∧ modifier.Numeric := by
    rw [modifiers_afterRegistrations, List.mem_append] at member
    rcases member with old | new
    · exact builtIn.loaded found stage modifier old
    · rcases List.mem_filterMap.mp new with ⟨other, memberNames, named⟩
      rcases registered stage other memberNames with ⟨_, namedBuiltIn, holds⟩
      cases named.symm.trans (Option.mem_def.mp namedBuiltIn)
      exact holds
  exact separated'.outcome_of_builtIn selected' present' found'
    (fun stage modifier member => (all stage modifier member).1)
    (fun modifier member => (all .render modifier member).2) layoutsName

/-- Neighbours that are registered for one stage and write different fields may change
places. -/
theorem Separated.outcome_of_swapped {workspace : Workspace} {place : Placement}
    (separated : Separated workspace place) {name : String} {handle : Handle StoredEffect}
    {effect : StoredEffect} (selected : workspace.lookup name = some (.effect handle))
    (present : workspace.get? handle = some effect) {loaded : Effect LoadedModifier}
    (found : workspace.loadEffect? effect = some loaded)
    (builtIn : workspace.BuiltIn effect)
    {entries swapped : List (Stage × List String)} {stage : Stage} {before after : List String}
    {first second : String}
    (registered : forall stage other, other ∈ namesFor stage entries ->
      workspace.NamesBuiltIn stage other)
    (order : namesFor stage entries = before ++ first :: second :: after)
    (reordered : namesFor stage swapped = before ++ second :: first :: after)
    (others : forall other, other ≠ stage -> namesFor other entries = namesFor other swapped)
    (different : (workspace.modifierNamed? first).bind Modifier.field? ≠
      (workspace.modifierNamed? second).bind Modifier.field?) (layoutsName : Option String) :
    Exists fun step => Exists fun step' => Exists fun layouts =>
      (workspace.runTo (registrations name entries)).step (.compile name layoutsName) = .ok step ∧
      (workspace.runTo (registrations name swapped)).step (.compile name layoutsName) = .ok step' ∧
      step.outcome? = some (.ok layouts) ∧ step'.outcome? = some (.ok layouts) := by
  have registeredSwapped (other : Stage) (registeredName : String)
      (member : registeredName ∈ namesFor other swapped) :
      workspace.NamesBuiltIn other registeredName := by
    apply registered other registeredName
    by_cases same : other = stage
    · subst same
      rw [order]
      rw [reordered] at member
      simp only [List.mem_append, List.mem_cons] at member ⊢
      tauto
    · rw [others other same]
      exact member
  rcases separated.outcome_of_registrations selected present found
    builtIn registered layoutsName with ⟨step, compiled, outcome⟩
  rcases separated.outcome_of_registrations selected present found
    builtIn registeredSwapped layoutsName with ⟨step', compiled', outcome'⟩
  rcases registered stage first (by simp [order]) with ⟨modifier, namedFirst, builtInFirst, _⟩
  rcases registered stage second (by simp [order]) with ⟨other, namedSecond, builtInSecond, _⟩
  rw [namedFirst, namedSecond, Option.bind_some, Option.bind_some] at different
  have same : (workspace.afterRegistrations loaded entries).lastWrites =
      (workspace.afterRegistrations loaded swapped).lastWrites := by
    have here := modifiers_afterRegistrations_of_split loaded order namedFirst namedSecond
    have there := modifiers_afterRegistrations_of_split loaded reordered namedSecond namedFirst
    refine Effect.lastWrites_swap here there (fun other apart => ?_) builtInFirst builtInSecond
      different
    rw [modifiers_afterRegistrations, modifiers_afterRegistrations, others other apart]
  exact ⟨step, step', _, compiled, compiled', outcome, outcome'.trans (by rw [same])⟩

/-- Whatever is registered in whatever order, an effect of built-in modifiers is compiled
without an error, to layouts of which each field is what the last modifier for it writes.
Registrations for different stages commute, and so do neighbours of one stage that write
different fields. -/
theorem builtIn_effect_compiles_to_lastWrites (history : List Command) {name : String}
    {handle : Handle StoredEffect} {effect : StoredEffect}
    (selected : (runTo {} history).lookup name = some (.effect handle))
    (present : (runTo {} history).get? handle = some effect)
    (builtIn : (runTo {} history).BuiltIn effect) (layoutsName : Option String) :
    (Exists fun loaded => (runTo {} history).loadEffect? effect = some loaded ∧
      forall entries : List (Stage × List String),
        (forall stage other, other ∈ namesFor stage entries ->
          (runTo {} history).NamesBuiltIn stage other) ->
        Exists fun step => ((runTo {} history).runTo (registrations name entries)).step
            (.compile name layoutsName) = .ok step ∧
          step.outcome? =
            some (.ok ((runTo {} history).afterRegistrations loaded entries).lastWrites)) ∧
    (forall (registered : Effect LoadedModifier) (vector : Components),
      lastOf Modifier.accel? registered.updateModifiers = some vector -> vector.length = 3 ->
      registered.lastWrites.update.accel = vector) ∧
    (forall {first second : Stage} (names others : List String), first ≠ second ->
      (runTo {} history).runTo [.register name first names, .register name second others] =
        (runTo {} history).runTo [.register name second others, .register name first names]) ∧
    (forall {entries swapped : List (Stage × List String)} {stage : Stage}
      {before after : List String} {first second : String},
      (forall stage other, other ∈ namesFor stage entries ->
        (runTo {} history).NamesBuiltIn stage other) ->
      namesFor stage entries = before ++ first :: second :: after ->
      namesFor stage swapped = before ++ second :: first :: after ->
      (forall other, other ≠ stage -> namesFor other entries = namesFor other swapped) ->
      ((runTo {} history).modifierNamed? first).bind Modifier.field? ≠
        ((runTo {} history).modifierNamed? second).bind Modifier.field? ->
      Exists fun step => Exists fun step' => Exists fun layouts =>
        ((runTo {} history).runTo (registrations name entries)).step
          (.compile name layoutsName) = .ok step ∧
        ((runTo {} history).runTo (registrations name swapped)).step
          (.compile name layoutsName) = .ok step' ∧
        step.outcome? = some (.ok layouts) ∧ step'.outcome? = some (.ok layouts)) := by
  rcases exists_separated history with ⟨place, separated⟩
  rcases separated.exists_loadEffect? present with ⟨loaded, found⟩
  refine ⟨⟨loaded, found, fun entries registered => ?_⟩, ?_, ?_, ?_⟩
  · exact separated.outcome_of_registrations selected present found builtIn registered layoutsName
  · exact fun _ _ last complete => Effect.lastWrites_accel last complete
  · exact fun names others different => runTo_register_comm selected present different names others
  · exact fun registered order reordered others different => separated.outcome_of_swapped selected
      present found builtIn registered order reordered others different layoutsName

/-- Registrations that go back and forth between the stages. -/
def fountainEntries : List (Stage × List String) :=
  [(.render, ["fade"]), (.init, ["spray"]), (.update, ["attractors", "gravity"]),
    (.render, ["fade"])]

theorem fountain_compiles_to_lastWrites :
    (runTo {} fountain).BuiltIn fountainEffect ∧
      Exists fun loaded => (runTo {} fountain).loadEffect? fountainEffect = some loaded ∧
        Exists fun step =>
          ((runTo {} fountain).runTo (registrations "fountain" fountainEntries)).step
            (.compile "fountain" none) = .ok step ∧
          step.outcome? = some (.ok
            ((runTo {} fountain).afterRegistrations loaded fountainEntries).lastWrites) := by
  have builtIn : (runTo {} fountain).BuiltIn fountainEffect := by
    intro stage
    cases stage <;> decide +kernel
  have registered (stage : Stage) : forall other, other ∈ namesFor stage fountainEntries ->
      (runTo {} fountain).NamesBuiltIn stage other := by
    cases stage <;> decide +kernel
  rcases (builtIn_effect_compiles_to_lastWrites fountain lookup_fountain get?_fountain builtIn
    none).1 with ⟨loaded, found, compiles⟩
  exact ⟨builtIn, loaded, found, compiles _ registered⟩

end Workspace
end ParticleEffects
