import ParticleEffects.Proofs.Meaning
import ParticleEffects.Proofs.Separation

namespace ParticleEffects
namespace Workspace

/-!
What a compilation does to a separated workspace.

It leaves everything that was there as it was.  The modifiers that it calls are those
that the loaded effect calls, and the layouts that are loaded from what it makes are
those of the loaded effect.
-/

section Stages

variable {Layout Value : Type} [Storable Layout]
  {load : Workspace -> Handle Layout -> Option Value}
  {apply : Workspace -> Handle Layout -> Handle StoredModifier -> Applied Workspace}
  {meant : LoadedModifier -> Value -> Applied Value}

/-- Each application to a layout of this kind has its meaning. -/
def Means (load : Workspace -> Handle Layout -> Option Value)
    (apply : Workspace -> Handle Layout -> Handle StoredModifier -> Applied Workspace)
    (meant : LoadedModifier -> Value -> Applied Value) : Prop :=
  forall {workspace : Workspace} {place : Placement} {layout : Handle Layout}
    {modifier : Handle StoredModifier} {loaded : LoadedModifier} {value : Value},
    Sound workspace place -> Lies workspace place layout (.alone layout.address) ->
    workspace.modifierAt? modifier = some loaded -> load workspace layout = some value ->
    Refines load layout workspace place (apply workspace layout modifier) (meant loaded value)

theorem means_init : Means get? applyInit Modifier.applyInit := fun sound lies found seen =>
  sound.applyInit lies found seen

theorem means_update : Means loadUpdate? applyUpdate Modifier.applyUpdate :=
  fun sound lies found seen => sound.applyUpdate lies found seen

theorem means_render : Means loadRender? applyRender Modifier.applyRender :=
  fun sound lies found seen => sound.applyRender lies found seen

/-- Modifiers that were applied to a layout, as their meanings are. -/
structure RefinesAll (load : Workspace -> Handle Layout -> Option Value) (layout : Handle Layout)
    (modifiers : List (Handle StoredModifier)) (workspace : Workspace) (place : Placement)
    (progress : Progress (Handle StoredModifier) Workspace)
    (meant : Progress LoadedModifier Value) : Prop where
  evolves : Exists fun place' =>
    Evolves (Place.alone layout.address).region (Place.alone layout.address).region
      workspace place progress.left.layout place'
  loaded : load progress.left.layout layout = some meant.left.layout
  error : progress.left.error = meant.left.error
  called : progress.called = modifiers.take meant.called.length

theorem Means.all (means : Means load apply meant) {base : Workspace} {basePlace : Placement}
    (separated : Separated base basePlace) {layout : Handle Layout}
    (new : base.objects.size <= layout.address) (modifiers : List (Handle StoredModifier)) :
    forall {workspace : Workspace} {place : Placement} {loaded : List LoadedModifier} {value : Value},
      Grown base basePlace workspace place ->
      Lies workspace place layout (.alone layout.address) ->
      load workspace layout = some value ->
      (forall modifier, modifier ∈ modifiers ->
        Lies base basePlace modifier (.alone modifier.address)) ->
      modifiers.mapM base.modifierAt? = some loaded ->
      RefinesAll load layout modifiers workspace place
        (applyAll (fun modifier workspace => apply workspace layout modifier) workspace modifiers)
        (applyAll meant value loaded) := by
  induction modifiers with
  | nil =>
    intro workspace place loaded value grown _ seen _ found
    cases found
    exact ⟨⟨place, Evolves.refl _ _ grown.separated.sound⟩, seen, rfl, rfl⟩
  | cons modifier rest inductionHypothesis =>
    intro workspace place loaded value grown lies seen modifiersLie found
    rcases mapM_cons_eq_some_iff.mp found with ⟨first, others, foundFirst, foundOthers, rfl⟩
    have loadedFirst := (grown.modifierAt?_eq separated
      (modifiersLie modifier List.mem_cons_self)).trans foundFirst
    have refines := means grown.separated.sound lies loadedFirst seen
    rcases refines.evolves with ⟨place', evolves⟩
    cases result : (meant first value).error with
    | some error =>
      simp only [applyAll, result, refines.error.trans result]
      exact ⟨⟨place', evolves⟩, refines.loaded, refines.error, rfl⟩
    | none =>
      simp only [applyAll, result, refines.error.trans result]
      have continued := inductionHypothesis
        (grown.evolve evolves new (lt_of_kindAt? lies.kind)) (lies.change evolves.changes)
        refines.loaded (fun other present => modifiersLie other (List.mem_cons_of_mem _ present))
        foundOthers
      rcases continued.evolves with ⟨place'', evolves'⟩
      exact ⟨⟨place'', evolves.trans evolves'⟩, continued.loaded, continued.error,
        congrArg (List.cons modifier) continued.called⟩

/-- A stage that ran on a layout made for it. -/
structure StageRun (load : Workspace -> Handle Layout -> Option Value) (stage : Stage)
    (layout : Handle Layout) (modifiers : List (Handle StoredModifier)) (workspace : Workspace)
    (place : Placement) (recorded : Recorded (Handle Layout))
    (meant : Progress LoadedModifier Value) (place' : Placement) : Prop where
  grown : Grown workspace place recorded.workspace place'
  lies : Lies recorded.workspace place' layout (.alone layout.address)
  loaded : load recorded.workspace layout = some meant.left.layout
  outcome : recorded.outcome = meant.left.outcome.map fun _ => layout
  events : recorded.events = (modifiers.take meant.called.length).map (Event.call stage)

theorem Means.stage (means : Means load apply meant) (stage : Stage) {base : Workspace}
    {basePlace : Placement} (separated : Separated base basePlace) {workspace : Workspace}
    {place place' : Placement} (grown : Grown base basePlace workspace place)
    {made : Workspace × Handle Layout} (founded : Founded workspace place made place')
    {value : Value}
    (seen : load made.1 made.2 = some value) {modifiers : List (Handle StoredModifier)}
    (modifiersLie : forall modifier, modifier ∈ modifiers ->
      Lies base basePlace modifier (.alone modifier.address))
    {loaded : List LoadedModifier} (found : modifiers.mapM base.modifierAt? = some loaded) :
    Exists fun place'' => StageRun load stage made.2 modifiers workspace place
      (runStage stage apply modifiers made) (applyAll meant value loaded) place'' := by
  have founding := founded.grown grown.separated
  have refines := means.all separated (Nat.le_trans grown.size_le founded.new) modifiers
    (grown.trans founding) founded.lies seen modifiersLie found
  rcases refines.evolves with ⟨place'', evolves⟩
  refine ⟨place'', ?_, founded.lies.change evolves.changes, refines.loaded, ?_, ?_⟩
  · exact founding.evolve evolves founded.new (lt_of_kindAt? founded.lies.kind)
  · simp only [runStage, Applied.outcome, refines.error]
    cases (applyAll meant value loaded).left.error <;> rfl
  · simp only [runStage, refines.called]

end Stages

/-! ## All stages -/

/-- The registrations of an effect, with their modifiers loaded. -/
def loadEffect? (workspace : Workspace) (effect : StoredEffect) : Option (Effect LoadedModifier) := do
  let init <- effect.initModifiers.mapM workspace.modifierAt?
  let update <- effect.updateModifiers.mapM workspace.modifierAt?
  let render <- effect.renderModifiers.mapM workspace.modifierAt?
  return {
    config := effect.config
    initModifiers := init
    updateModifiers := update
    renderModifiers := render }

theorem loadEffect?_eq_some_iff {workspace : Workspace} {effect : StoredEffect}
    {loaded : Effect LoadedModifier} :
    workspace.loadEffect? effect = some loaded ↔
      loaded.config = effect.config ∧ forall stage,
        (effect.modifiers stage).mapM workspace.modifierAt? = some (loaded.modifiers stage) := by
  simp only [loadEffect?, Option.bind_eq_bind, Option.bind_eq_some_iff, Option.pure_def,
    Option.some.injEq]
  constructor
  · rintro ⟨init, foundInit, update, foundUpdate, render, foundRender, rfl⟩
    refine ⟨rfl, fun stage => ?_⟩
    cases stage with
    | init => exact foundInit
    | update => exact foundUpdate
    | render => exact foundRender
  · rintro ⟨config, found⟩
    refine ⟨_, found .init, _, found .update, _, found .render, ?_⟩
    rw [← config]
    rfl

/-- The call of a modifier, as a compilation records it. -/
def callEvent (call : Stage × Handle StoredModifier) : Event := .call call.1 call.2

theorem Recorded.andThen_ok {Result Next : Type} {recorded : Recorded Result} {result : Result}
    (succeeds : recorded.outcome = .ok result) (next : Workspace -> Result -> Recorded Next) :
    recorded.andThen next =
      { next recorded.workspace result with
        events := recorded.events ++ (next recorded.workspace result).events } := by
  simp only [andThen, succeeds]

theorem Recorded.andThen_error {Result Next : Type} {recorded : Recorded Result} {error : ApplyError}
    (fails : recorded.outcome = .error error) (next : Workspace -> Result -> Recorded Next) :
    recorded.andThen next =
      { events := recorded.events, workspace := recorded.workspace, outcome := .error error } := by
  simp only [andThen, fails]

/-- What a compilation does behind its report. -/
def applyStages (workspace : Workspace) (effect : StoredEffect) : Recorded LayoutHandles :=
  (runStage .init applyInit effect.initModifiers workspace.newInit).andThen
    fun workspace init =>
  (runStage .update applyUpdate effect.updateModifiers workspace.newUpdate).andThen
    fun workspace update =>
  (runStage .render applyRender effect.renderModifiers workspace.newRender).map
    fun render => { init := init, update := update, render := render }

theorem compileEffect_eq (workspace : Workspace) (effect : StoredEffect) :
    workspace.compileEffect effect =
      { workspace.applyStages effect with
        events := effect.overwriteReport?.toList.map Event.overwrite ++
          (workspace.applyStages effect).events } := rfl

/-- What is recorded follows calls that come as far as their meanings do.  What is read
of its result is a parameter. -/
structure Follows {Result : Type} (reads : Workspace -> Placement -> Result -> Layouts -> Prop)
    (calls : List (Stage × Handle StoredModifier)) (workspace : Workspace) (place : Placement)
    (recorded : Recorded Result) (progress : Progress (Stage × LoadedModifier) Layouts)
    (place' : Placement) : Prop where
  grown : Grown workspace place recorded.workspace place'
  events : recorded.events = (calls.take progress.called.length).map callEvent
  failed : forall error, progress.left.error = some error -> recorded.outcome = .error error
  succeeded : progress.left.error = none -> Exists fun result =>
    recorded.outcome = .ok result ∧ reads recorded.workspace place' result progress.left.layout

section

variable {Result Next : Type} {reads : Workspace -> Placement -> Result -> Layouts -> Prop}
  {reads' : Workspace -> Placement -> Next -> Layouts -> Prop}
  {calls calls' : List (Stage × Handle StoredModifier)} {workspace : Workspace}
  {place place' : Placement} {recorded : Recorded Result}

/-- Later calls are made behind the earlier ones, unless one of those fails. -/
theorem Follows.andThen {layouts : Layouts} {loaded loaded' : List (Stage × LoadedModifier)}
    (follows : Follows reads calls workspace place recorded
      (applyAll Modifier.applyAt layouts loaded) place')
    (size : loaded.length = calls.length) (next : Workspace -> Result -> Recorded Next)
    (continues : forall result,
      reads recorded.workspace place' result (applyAll Modifier.applyAt layouts loaded).left.layout ->
      Exists fun place'' => Follows reads' calls' recorded.workspace place'
        (next recorded.workspace result)
        (applyAll Modifier.applyAt (applyAll Modifier.applyAt layouts loaded).left.layout loaded')
        place'') :
    Exists fun place'' => Follows reads' (calls ++ calls') workspace place (recorded.andThen next)
      (applyAll Modifier.applyAt layouts (loaded ++ loaded')) place'' := by
  rw [applyAll_append]
  cases error : (applyAll Modifier.applyAt layouts loaded).left.error with
  | some failure =>
    have shorter := (called_initial Modifier.applyAt loaded layouts).length_le
    rw [size] at shorter
    refine ⟨place', ?_⟩
    rw [Recorded.andThen_error (follows.failed failure error)]
    refine ⟨follows.grown, ?_, ?_, ?_⟩
    · rw [List.take_append_of_le_length shorter]
      exact follows.events
    · intro other failed
      cases error.symm.trans failed
      rfl
    · intro succeeds
      cases error.symm.trans succeeds
  | none =>
    rcases follows.succeeded error with ⟨result, outcome, read⟩
    rcases continues result read with ⟨place'', later⟩
    have complete := called_eq_of_error_eq_none Modifier.applyAt loaded layouts error
    refine ⟨place'', ?_⟩
    rw [Recorded.andThen_ok outcome]
    refine ⟨follows.grown.trans later.grown, ?_, later.failed, later.succeeded⟩
    rw [List.length_append, size, List.take_length_add_append, List.map_append, ← later.events,
      follows.events, complete, size, List.take_length]

theorem Follows.map {progress : Progress (Stage × LoadedModifier) Layouts}
    (follows : Follows reads calls workspace place recorded progress place') (f : Result -> Next)
    (read : forall result, reads recorded.workspace place' result progress.left.layout ->
      reads' recorded.workspace place' (f result) progress.left.layout) :
    Follows reads' calls workspace place (recorded.map f) progress place' where
  grown := follows.grown
  events := follows.events
  failed error present := by rw [Recorded.map, follows.failed error present, Except.map]
  succeeded succeeds := by
    rcases follows.succeeded succeeds with ⟨result, outcome, present⟩
    exact ⟨f result, by rw [Recorded.map, outcome, Except.map], read result present⟩

/-- The calls of one stage, among all layouts. -/
theorem StageRun.follows {Layout Value : Type} [Storable Layout]
    {load : Workspace -> Handle Layout -> Option Value} {stage : Stage} {layout : Handle Layout}
    {modifiers : List (Handle StoredModifier)} {recorded : Recorded (Handle Layout)}
    {progress : Progress LoadedModifier Value}
    (run : StageRun load stage layout modifiers workspace place recorded progress place')
    (reads : Workspace -> Placement -> Handle Layout -> Layouts -> Prop) (put : Value -> Layouts)
    (read : reads recorded.workspace place' layout (put progress.left.layout)) :
    Follows reads (modifiers.map (Prod.mk stage)) workspace place recorded
      { called := progress.called.map (Prod.mk stage), left := progress.left.map put } place' where
  grown := run.grown
  events := by
    rw [run.events, List.length_map, ← List.map_take, List.map_map]
    rfl
  failed error failed := by
    have stopped : progress.left.error = some error := failed
    rw [run.outcome, Applied.outcome, stopped, Except.map]
  succeeded succeeds := by
    have finished : progress.left.error = none := succeeds
    exact ⟨layout, by rw [run.outcome, Applied.outcome, finished, Except.map], read⟩

end

/-- The first layout of a compilation, when the others are not begun. -/
structure ReadsInit (workspace : Workspace) (place : Placement) (layout : Handle InitLayout)
    (layouts : Layouts) : Prop where
  lies : Lies workspace place layout (.alone layout.address)
  loaded : workspace.get? layout = some layouts.init
  update : layouts.update = {}
  render : layouts.render = {}

/-- The first two layouts of a compilation, when the last is not begun. -/
structure ReadsUpdate (init : Handle InitLayout) (workspace : Workspace) (place : Placement)
    (layout : Handle StoredUpdate) (layouts : Layouts) : Prop where
  liesInit : Lies workspace place init (.alone init.address)
  loadedInit : workspace.get? init = some layouts.init
  lies : Lies workspace place layout (.alone layout.address)
  loaded : workspace.loadUpdate? layout = some layouts.update
  render : layouts.render = {}

/-- All layouts of a compilation, each of them part of nothing. -/
structure ReadsLayouts (workspace : Workspace) (place : Placement) (handles : LayoutHandles)
    (layouts : Layouts) : Prop where
  liesInit : Lies workspace place handles.init (.alone handles.init.address)
  liesUpdate : Lies workspace place handles.update (.alone handles.update.address)
  liesRender : Lies workspace place handles.render (.alone handles.render.address)
  loaded : workspace.loadLayouts? handles = some layouts

section

variable {base : Workspace} {basePlace : Placement} (separated : Separated base basePlace)
  {effect : StoredEffect} {loaded : Effect LoadedModifier}
  (lie : forall stage modifier, modifier ∈ effect.modifiers stage ->
    Lies base basePlace modifier (.alone modifier.address))
  (found : base.loadEffect? effect = some loaded)
include separated lie found

private theorem renderFollows {workspace : Workspace} {place : Placement}
    (grown : Grown base basePlace workspace place) {init : Handle InitLayout}
    {update : Handle StoredUpdate} {layouts : Layouts}
    (reads : ReadsUpdate init workspace place update layouts) :
    Exists fun place' => Follows ReadsLayouts (effect.renderModifiers.map (Prod.mk .render))
      workspace place
      ((runStage .render applyRender effect.renderModifiers workspace.newRender).map
        fun render => { init := init, update := update, render := render })
      (applyAll Modifier.applyAt layouts (loaded.renderModifiers.map (Prod.mk .render))) place' := by
  rcases grown.separated.sound.newRender with ⟨_, founded, seen⟩
  rcases means_render.stage .render separated grown founded seen (lie .render)
    ((loadEffect?_eq_some_iff.mp found).2 .render) with ⟨place', run⟩
  have agrees := run.grown.agrees
  have changes := run.grown.evolves.changes
  have foundInit := (agrees.get? reads.liesInit (lt_of_kindAt? reads.liesInit.kind)).trans
    reads.loadedInit
  have foundUpdate := (agrees.loadUpdate? (Region.inward_before _) grown.separated.sound
    reads.lies (lt_of_kindAt? reads.lies.kind)).trans reads.loaded
  refine ⟨place', ?_⟩
  rw [Modifier.applyAll_render, reads.render]
  refine (run.follows (fun workspace place render layouts =>
    ReadsLayouts workspace place { init := init, update := update, render := render } layouts)
    (fun render => { layouts with render := render }) ?_).map _ fun _ => id
  refine ⟨reads.liesInit.change changes, reads.lies.change changes, run.lies, ?_⟩
  simp only [loadLayouts?, foundInit, foundUpdate, run.loaded, Option.bind_eq_bind,
    Option.bind_some, Option.pure_def]

private theorem updateFollows {workspace : Workspace} {place : Placement}
    (grown : Grown base basePlace workspace place) {init : Handle InitLayout} {layouts : Layouts}
    (reads : ReadsInit workspace place init layouts) :
    Exists fun place' => Follows ReadsLayouts
      (effect.updateModifiers.map (Prod.mk .update) ++ effect.renderModifiers.map (Prod.mk .render))
      workspace place
      ((runStage .update applyUpdate effect.updateModifiers workspace.newUpdate).andThen
        fun workspace update =>
          (runStage .render applyRender effect.renderModifiers workspace.newRender).map
            fun render => { init := init, update := update, render := render })
      (applyAll Modifier.applyAt layouts (loaded.updateModifiers.map (Prod.mk .update) ++
        loaded.renderModifiers.map (Prod.mk .render))) place' := by
  have foundUpdate := (loadEffect?_eq_some_iff.mp found).2 .update
  rcases grown.separated.sound.newUpdate with ⟨_, founded, seen⟩
  rcases means_update.stage .update separated grown founded seen (lie .update)
    foundUpdate with ⟨place', run⟩
  have foundInit := (run.grown.agrees.get? reads.lies (lt_of_kindAt? reads.lies.kind)).trans
    reads.loaded
  have follows : Follows (ReadsUpdate init) (effect.updateModifiers.map (Prod.mk .update)) workspace
      place (runStage .update applyUpdate effect.updateModifiers workspace.newUpdate)
      (applyAll Modifier.applyAt layouts (loaded.updateModifiers.map (Prod.mk .update))) place' := by
    rw [Modifier.applyAll_update, reads.update]
    exact run.follows (ReadsUpdate init) (fun update => { layouts with update := update })
      ⟨reads.lies.change run.grown.evolves.changes, foundInit, run.lies, run.loaded, reads.render⟩
  refine follows.andThen ?_ _ fun update continued =>
    renderFollows separated lie found (grown.trans run.grown) continued
  rw [List.length_map, List.length_map]
  exact length_mapM foundUpdate

/-- Behind its report, a compilation does what the loaded effect means. -/
theorem Separated.applyStages :
    Exists fun place' => Follows ReadsLayouts effect.calls base basePlace
      (base.applyStages effect) loaded.meaning place' := by
  have foundInit := (loadEffect?_eq_some_iff.mp found).2 .init
  rcases separated.sound.newInit with ⟨_, founded, seen⟩
  rcases means_init.stage .init separated (Grown.refl separated) founded
    seen (lie .init) foundInit with ⟨place', run⟩
  have follows : Follows ReadsInit (effect.initModifiers.map (Prod.mk .init)) base basePlace
      (runStage .init applyInit effect.initModifiers base.newInit)
      (applyAll Modifier.applyAt .new (loaded.initModifiers.map (Prod.mk .init))) place' := by
    rw [Modifier.applyAll_init]
    exact run.follows ReadsInit (fun init => { Layouts.new with init := init })
      ⟨run.lies, run.loaded, rfl, rfl⟩
  rw [Effect.meaning, Effect.calls, Effect.calls, List.append_assoc, List.append_assoc]
  refine follows.andThen ?_ _ fun init continued =>
    updateFollows separated lie found run.grown continued
  rw [List.length_map, List.length_map]
  exact length_mapM foundInit

end

section

variable {workspace : Workspace} {place : Placement} (separated : Separated workspace place)
  {handle : Handle StoredEffect} {effect : StoredEffect} (present : workspace.get? handle = some effect)
include separated present

/-- The modifiers of an effect are part of nothing. -/
theorem Separated.modifiers_lie (stage : Stage) (modifier : Handle StoredModifier)
    (member : modifier ∈ effect.modifiers stage) :
    Lies workspace place modifier (.alone modifier.address) :=
  (separated.sound handle.address _ (get?_eq_some_iff.mp present)).2 stage modifier member

theorem Separated.exists_loadEffect? :
    Exists fun loaded => workspace.loadEffect? effect = some loaded := by
  have each (stage : Stage) : Exists fun loaded =>
      (effect.modifiers stage).mapM workspace.modifierAt? = some loaded :=
    exists_mapM fun modifier member =>
      separated.sound.exists_modifierAt? (separated.modifiers_lie present stage modifier member)
  rcases each .init with ⟨init, foundInit⟩
  rcases each .update with ⟨update, foundUpdate⟩
  rcases each .render with ⟨render, foundRender⟩
  refine ⟨{
    config := effect.config
    initModifiers := init
    updateModifiers := update
    renderModifiers := render }, loadEffect?_eq_some_iff.mpr ⟨rfl, fun stage => ?_⟩⟩
  cases stage with
  | init => exact foundInit
  | update => exact foundUpdate
  | render => exact foundRender

end

/-! ## The command -/

/-- The events of a compilation, of whose calls the first ones are made. -/
def eventsOf (effect : StoredEffect) (count : Nat) : List Event :=
  effect.overwriteReport?.toList.map Event.overwrite ++ (effect.calls.take count).map callEvent

/-- What is seen of the compilation that a step makes. -/
def Step.compilation? (step : Step) : Option Compilation :=
  match step.answer with
  | .compiled compilation _ => some compilation
  | _ => none

/-- The layouts of the compilation that a step makes, or the error with which it stops. -/
def Step.outcome? (step : Step) : Option (Except ApplyError Layouts) :=
  step.compilation?.map Compilation.outcome

/-- What the command to compile an effect leads to. -/
structure Compiles (effect : StoredEffect) (loaded : Effect LoadedModifier)
    (layoutsName : Option String) (workspace : Workspace) (place : Placement) (step : Step)
    (place' : Placement) : Prop where
  grown : Grown workspace place (workspace.applyStages effect).workspace place'
  answer : step.answer = .compiled {
    events := eventsOf effect loaded.meaning.called.length
    outcome := loaded.meaning.left.outcome } effect.config.reporting
  failed : forall error, loaded.meaning.left.error = some error ->
    step.workspace = (workspace.applyStages effect).workspace
  succeeded : loaded.meaning.left.error = none -> Exists fun layouts =>
    ReadsLayouts (workspace.applyStages effect).workspace place' layouts loaded.meaning.left.layout ∧
      step.workspace = (workspace.applyStages effect).workspace.keepLayouts layoutsName layouts

theorem Compiles.compilation?_eq {effect : StoredEffect} {loaded : Effect LoadedModifier}
    {layoutsName : Option String} {workspace : Workspace} {place place' : Placement} {step : Step}
    (compiles : Compiles effect loaded layoutsName workspace place step place') :
    step.compilation? = some {
      events := eventsOf effect loaded.meaning.called.length
      outcome := loaded.meaning.left.outcome } := by
  rw [Step.compilation?, compiles.answer]

theorem Compiles.outcome?_eq {effect : StoredEffect} {loaded : Effect LoadedModifier}
    {layoutsName : Option String} {workspace : Workspace} {place place' : Placement} {step : Step}
    (compiles : Compiles effect loaded layoutsName workspace place step place') :
    step.outcome? = some loaded.meaning.left.outcome := by
  rw [Step.outcome?, compiles.compilation?_eq, Option.map_some]

/-- A compilation that returned layouts came to its end. -/
theorem Compiles.finished {effect : StoredEffect} {loaded : Effect LoadedModifier}
    {layoutsName : Option String} {workspace : Workspace} {place place' : Placement} {step : Step}
    (compiles : Compiles effect loaded layoutsName workspace place step place') {layouts : Layouts}
    (outcome : step.outcome? = some (.ok layouts)) : loaded.meaning.left = .done layouts := by
  have same := Option.some.inj (compiles.outcome?_eq.symm.trans outcome)
  generalize loaded.meaning.left = left at same ⊢
  rcases left with ⟨layout, error⟩
  cases error with
  | some failure => cases same
  | none =>
    cases same
    rfl

theorem findEffect_of_lookup {workspace : Workspace} {name : String} {handle : Handle StoredEffect}
    (selected : workspace.lookup name = some (.effect handle)) :
    workspace.findEffect name = .ok handle := by
  simp only [findEffect, find, selected]
  rfl

/-- An effect that a name stands for is compiled, whatever its modifiers do. -/
theorem Separated.compiles {workspace : Workspace} {place : Placement}
    (separated : Separated workspace place) {name : String} {handle : Handle StoredEffect}
    (selected : workspace.lookup name = some (.effect handle)) {effect : StoredEffect}
    (present : workspace.get? handle = some effect) (layoutsName : Option String) :
    Exists fun loaded => Exists fun step => Exists fun place' =>
      workspace.loadEffect? effect = some loaded ∧ workspace.compile name layoutsName = .ok step ∧
        Compiles effect loaded layoutsName workspace place step place' := by
  rcases separated.exists_loadEffect? present with ⟨loaded, found⟩
  rcases separated.applyStages (separated.modifiers_lie present) found with ⟨place', follows⟩
  have events : (workspace.compileEffect effect).events =
      eventsOf effect loaded.meaning.called.length := by
    rw [compileEffect_eq, follows.events, eventsOf]
  cases error : loaded.meaning.left.error with
  | some failure =>
    have outcome : (workspace.compileEffect effect).outcome = .error failure :=
      follows.failed failure error
    have answered : workspace.compile name layoutsName = .ok {
        workspace := (workspace.compileEffect effect).workspace
        answer := .compiled {
          events := (workspace.compileEffect effect).events
          outcome := .error failure } effect.config.reporting
        reports := (workspace.compileEffect effect).events.filterMap workspace.eventReport? } := by
      simp only [compile, findEffect_of_lookup selected, ok_bind, present, orUnsuitable, outcome]
      rfl
    refine ⟨loaded, _, place', found, answered, follows.grown, ?_, fun _ _ => rfl, fun succeeds => ?_⟩
    · rw [events, Applied.outcome, error]
    · cases error.symm.trans succeeds
  | none =>
    rcases follows.succeeded error with ⟨layouts, outcome, reads⟩
    have outcome : (workspace.compileEffect effect).outcome = .ok layouts := outcome
    have seen : (workspace.compileEffect effect).workspace.loadLayouts? layouts =
      some loaded.meaning.left.layout := reads.loaded
    have answered : workspace.compile name layoutsName = .ok {
        workspace := (workspace.compileEffect effect).workspace.keepLayouts layoutsName layouts
        answer := .compiled {
          events := (workspace.compileEffect effect).events
          outcome := .ok loaded.meaning.left.layout } effect.config.reporting
        reports := (workspace.compileEffect effect).events.filterMap workspace.eventReport? } := by
      simp only [compile, findEffect_of_lookup selected, ok_bind, present, orUnsuitable, outcome,
        seen]
      rfl
    refine ⟨loaded, _, place', found, answered, follows.grown, ?_, fun _ failed => ?_, fun _ =>
      ⟨layouts, reads, rfl⟩⟩
    · rw [events, Applied.outcome, error]
    · cases error.symm.trans failed

end Workspace
end ParticleEffects
