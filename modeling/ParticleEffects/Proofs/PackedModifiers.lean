import ParticleEffects.Proofs.ShaderSources
import ParticleEffects.Proofs.SlotHistory

namespace ParticleEffects

/-!
A list of sources, and the modifier that is made of it.

A list that is packed and a modifier that is made of it fill the slots that they leave open on
their own, and each of them has its own bound.  They accept the same lists, count the same
sources, and lead to the same buffer, also by way of a layout that the modifier was applied to:
directly, or by a compilation in which no later modifier writes the force field.
-/

open ForceField

/-! ## What is left of a force field -/

/-- What each call leaves alone is left alone by all of them. -/
theorem kept_of_applyAll {Registered State Part : Type}
    (apply : Registered -> State -> Applied State) (part : State -> Part) {calls : List Registered}
    (keeps : forall call, call ∈ calls -> forall state,
      part (apply call state).layout = part state) :
    forall state, part (applyAll apply state calls).left.layout = part state := by
  induction calls with
  | nil => exact fun _ => rfl
  | cons call rest inductionHypothesis =>
    intro state
    have first := keeps call List.mem_cons_self state
    have later := inductionHypothesis
      (fun other member => keeps other (List.mem_cons_of_mem _ member)) (apply call state).layout
    cases result : (apply call state).error with
    | some error =>
      simp only [applyAll, result]
      exact first
    | none =>
      simp only [applyAll, result]
      exact later.trans first

/-- Where a call in the midst of others is made, and all of them succeed, what it leaves is what
the later ones begin with. -/
theorem exists_left_of_applyAll {Registered State : Type}
    (apply : Registered -> State -> Applied State) {before after : List Registered}
    {call : Registered} {state : State}
    (finished : (applyAll apply state (before ++ call :: after)).left.error = none) :
    Exists fun reached => (applyAll apply state (before ++ call :: after)).left =
      (applyAll apply (apply call reached).layout after).left := by
  rw [applyAll_append] at finished ⊢
  cases early : (applyAll apply state before).left.error with
  | some error =>
    simp only [early] at finished
    cases finished
  | none =>
    simp only [early, applyAll] at finished ⊢
    refine ⟨(applyAll apply state before).left.layout, ?_⟩
    cases result : (apply call (applyAll apply state before).left.layout).error with
    | some error =>
      simp only [result] at finished
      cases finished
    | none => rfl

/-- A modifier that leaves the force field of every layout alone. -/
def Modifier.LeavesField (modifier : LoadedModifier) : Prop :=
  forall layout, (modifier.applyUpdate layout).layout.forceField = layout.forceField

/-- Built-in modifiers that write another field do. -/
theorem Modifier.leavesField_of_field? {modifier : LoadedModifier} {field : Field}
    (writes : modifier.field? = some field) (other : field ≠ .forceField) :
    modifier.LeavesField := by
  cases modifier with
  | forceField slots =>
    cases writes
    exact absurd rfl other
  | custom hooks => cases writes
  | _ => exact fun _ => rfl

theorem Effect.calls_of_split {Registered : Type} {effect : Effect Registered}
    {before after : List Registered} {modifier : Registered}
    (registered : effect.updateModifiers = before ++ modifier :: after) :
    effect.calls =
      (effect.initModifiers.map (Prod.mk Stage.init) ++ before.map (Prod.mk Stage.update)) ++
        (Stage.update, modifier) :: (after.map (Prod.mk Stage.update) ++
          effect.renderModifiers.map (Prod.mk Stage.render)) := by
  simp only [calls, registered, List.map_append, List.map_cons, List.append_assoc,
    List.cons_append]

/-- The force field of a compiled layout is that of the last modifier that writes it. -/
theorem Effect.forceField_of_meaning {effect : Effect LoadedModifier}
    {before after : List LoadedModifier} {slots : Slots}
    (registered : effect.updateModifiers = before ++ .forceField slots :: after)
    (spared : forall other, other ∈ after -> other.LeavesField)
    (finished : effect.meaning.left.error = none) :
    effect.meaning.left.layout.update.forceField = layoutSlots slots.toList := by
  rw [meaning, calls_of_split registered] at finished ⊢
  rcases exists_left_of_applyAll Modifier.applyAt finished with ⟨reached, left⟩
  rw [left]
  refine kept_of_applyAll Modifier.applyAt (fun layouts => layouts.update.forceField) ?_ _
  intro call member layouts
  rcases List.mem_append.mp member with present | present
  · rcases List.mem_map.mp present with ⟨other, later, rfl⟩
    exact spared other later layouts.update
  · rcases List.mem_map.mp present with ⟨other, _, rfl⟩
    rfl

namespace ForceField

/-! ## Lists -/

theorem activeCount_take (sources : List Source) :
    activeCount (sources.take slotCount) = activeCount sources := by
  rw [activeCount, activeSources, List.take_take, Nat.min_self]
  rfl

/-- Empty slots behind the sources are not counted. -/
theorem activeCount_filled {sources : List Source} (fits : sources.length <= slotCount) :
    (Slots.filled sources).activeCount = activeCount sources := by
  have all : (Slots.filled sources).toList.take slotCount = (Slots.filled sources).toList :=
    List.take_of_length_le (Nat.le_of_eq Vector.length_toList)
  rw [Slots.activeCount, activeCount, activeCount, activeSources, activeSources, all,
    takeWhile_filled (by decide +kernel) fits, List.take_of_length_le fits]

end ForceField

/-- The slots of a layout are packed to a buffer. -/
def UpdateLayout.PacksTo (layout : UpdateLayout) (buffer : Buffer) : Prop :=
  Exists fun sources => seenSources? layout.forceField = some sources ∧ pack sources = .ok buffer

theorem UpdateLayout.packsTo_of_layoutSlots {layout : UpdateLayout} {slots : Slots}
    (held : layout.forceField = layoutSlots slots.toList) : layout.PacksTo slots.pack :=
  ⟨slots.toList, by rw [held, seenSources?_layoutSlots], slots.pack_toList⟩

namespace Workspace

/-! ## Modifiers -/

/-- Whatever the modifier is now, it leaves the force field of every layout alone. -/
def LeavesField (workspace : Workspace) (modifier : Handle StoredModifier) : Prop :=
  forall loaded, workspace.modifierAt? modifier = some loaded -> loaded.LeavesField

/-- A modifier with a force field is packed to one buffer, itself or by way of a layout. -/
structure PacksTo (workspace : Workspace) (handle : Handle StoredModifier) (slots : Slots)
    (buffer : Buffer) : Prop where
  seen : workspace.modifierAt? handle = some (.forceField slots)
  handedOut : pack slots.toList = .ok buffer
  packed : forall {name : String}, workspace.lookup name = some (.modifier handle) ->
    workspace.step (.pack name) = .ok { workspace := workspace, answer := .packed buffer }
  applied : forall {name layoutName : String} {layout : Handle StoredUpdate},
    workspace.lookup name = some (.modifier handle) ->
    workspace.lookup layoutName = some (.updateLayout layout) ->
    Exists fun step => Exists fun value => workspace.step (.apply name layoutName) = .ok step ∧
      step.answer = .applied (.ok (.updateLayout value)) ∧ value.PacksTo buffer ∧
      step.workspace.step (.pack layoutName) = .ok {
        workspace := step.workspace
        answer := .packed buffer }
  /-- No modifier that is registered behind it writes the force field. -/
  compiled : forall {name : String} {effect : Handle StoredEffect} {stored : StoredEffect}
    {before after : List (Handle StoredModifier)} {layoutsName : Option String} {step : Step}
    {layouts : Layouts},
    workspace.lookup name = some (.effect effect) -> workspace.get? effect = some stored ->
    stored.updateModifiers = before ++ handle :: after ->
    (forall other, other ∈ after -> workspace.LeavesField other) ->
    workspace.step (.compile name layoutsName) = .ok step ->
    step.outcome? = some (.ok layouts) ->
    layouts.update.PacksTo buffer ∧ forall kept, kept ∈ layoutsName ->
      step.workspace.step (.pack (layoutName kept .update)) = .ok {
        workspace := step.workspace
        answer := .packed buffer }

section

variable {workspace : Workspace} {place : Placement}

theorem step_pack_of_layout {name : String} {layout : Handle StoredUpdate}
    (selected : workspace.lookup name = some (.updateLayout layout)) {value : UpdateLayout}
    (seen : workspace.view (.updateLayout layout) = .ok (.updateLayout value)) {slots : Slots}
    (held : value.forceField = layoutSlots slots.toList) :
    workspace.step (.pack name) = .ok { workspace := workspace, answer := .packed slots.pack } := by
  have complete : ¬ slotCount < (layoutSlots slots.toList).length := by
    rw [layoutSlots, List.length_map, Vector.length_toList]
    exact Nat.lt_irrefl _
  simp only [step, packBuffer, observe_of_lookup selected, seen, ok_bind, held, if_neg complete,
    seenSources?_layoutSlots, orUnsuitable, Slots.pack_toList]
  rfl

theorem Separated.pack_of_apply (separated : Separated workspace place)
    {name layoutName : String} {handle : Handle StoredModifier} {layout : Handle StoredUpdate}
    {slots : Slots} (seen : workspace.modifierAt? handle = some (.forceField slots))
    (selected : workspace.lookup name = some (.modifier handle))
    (selected' : workspace.lookup layoutName = some (.updateLayout layout)) :
    Exists fun step => Exists fun value => workspace.step (.apply name layoutName) = .ok step ∧
      step.answer = .applied (.ok (.updateLayout value)) ∧ value.PacksTo slots.pack ∧
      step.workspace.step (.pack layoutName) = .ok {
        workspace := step.workspace
        answer := .packed slots.pack } := by
  have lies : Lies workspace place layout (.alone layout.address) :=
    separated.named _ _ selected'
  rcases separated.sound.exists_loadUpdate? lies with ⟨before, loaded⟩
  have refines := separated.sound.applyUpdate lies seen loaded
  have applies : workspace.applyTo? handle (.updateLayout layout) =
      some (.update, workspace.applyUpdate layout handle) := rfl
  have viewed : (workspace.applyUpdate layout handle).layout.view (.updateLayout layout) =
      .ok (.updateLayout { before with forceField := layoutSlots slots.toList }) := by
    simp only [view, refines.loaded, orUnsuitable, ok_bind]
    rfl
  have stepped := step_apply selected seen selected' applies viewed
  rcases separated.step stepped with ⟨_, kept⟩
  have selected'' := (kept.lookup_eq layoutName List.not_mem_nil).trans selected'
  have packs : UpdateLayout.PacksTo { before with forceField := layoutSlots slots.toList }
      slots.pack := UpdateLayout.packsTo_of_layoutSlots rfl
  refine ⟨_, _, stepped, ?_, packs, step_pack_of_layout selected'' viewed rfl⟩
  rw [Applied.outcome, refines.error]
  rfl

theorem Separated.forceField_of_compile (separated : Separated workspace place)
    {handle : Handle StoredModifier} {slots : Slots}
    (seen : workspace.modifierAt? handle = some (.forceField slots)) {name : String}
    {effect : Handle StoredEffect} {stored : StoredEffect}
    {before after : List (Handle StoredModifier)} {layoutsName : Option String} {step : Step}
    {layouts : Layouts} (selected : workspace.lookup name = some (.effect effect))
    (present : workspace.get? effect = some stored)
    (registered : stored.updateModifiers = before ++ handle :: after)
    (spared : forall other, other ∈ after -> workspace.LeavesField other)
    (compiled : workspace.step (.compile name layoutsName) = .ok step)
    (outcome : step.outcome? = some (.ok layouts)) :
    layouts.update.forceField = layoutSlots slots.toList := by
  rcases separated.compiles selected present layoutsName with
    ⟨loaded, other, _, found, compiled', compiles⟩
  cases compiled.symm.trans compiled'
  have finished := compiles.finished outcome
  -- What is loaded is split where the modifier is registered.
  have foundUpdate : stored.updateModifiers.mapM workspace.modifierAt? =
      some loaded.updateModifiers := (loadEffect?_eq_some_iff.mp found).2 .update
  rw [registered] at foundUpdate
  rcases mapM_append_eq_some_iff.mp foundUpdate with ⟨earlier, rest, _, foundRest, split⟩
  rcases mapM_cons_eq_some_iff.mp foundRest with ⟨first, later, foundFirst, foundLater, rfl⟩
  cases seen.symm.trans foundFirst
  have left : layouts = loaded.meaning.left.layout := (congrArg Applied.layout finished).symm
  rw [left]
  refine Effect.forceField_of_meaning split.symm (fun modifier member => ?_)
    (congrArg Applied.error finished)
  rcases exists_mem_of_mapM foundLater member with ⟨other, present, loads⟩
  exact spared other present modifier loads

/-- In every workspace a modifier with a force field is packed as its slots are. -/
theorem Separated.packsTo (separated : Separated workspace place)
    {handle : Handle StoredModifier} {slots : Slots}
    (seen : workspace.modifierAt? handle = some (.forceField slots)) :
    PacksTo workspace handle slots slots.pack where
  seen := seen
  handedOut := slots.pack_toList
  packed selected := step_pack_of_modifierAt? selected seen
  applied selected selected' := separated.pack_of_apply seen selected selected'
  compiled selected present registered spared compiled outcome := by
    have held := separated.forceField_of_compile seen selected present registered spared compiled outcome
    rcases separated.exists_handles_of_compile compiled outcome with ⟨handles, names, _, viewed, _⟩
    exact ⟨UpdateLayout.packsTo_of_layoutSlots held,
      fun kept member => step_pack_of_layout (names.update kept member) viewed held⟩

end

/-- A source that is given in full. -/
def operandOf (source : Source) : SourceOperand := .given {
  position := some (.given (.ofVec3 source.position))
  maxRadius := some source.maxRadius
  minRadius := some source.minRadius
  mass := some source.mass
  forceExponent := some source.forceExponent
  conformToSphere := some source.conformToSphere }

/-- Every list of sources can be given. -/
theorem mapM_operandOf (workspace : Workspace) (sources : List Source) :
    (sources.map operandOf).mapM workspace.readSource = .ok sources := by
  induction sources with
  | nil => rfl
  | cons source rest inductionHypothesis =>
    have first : workspace.readSource (operandOf source) = .ok source := rfl
    rw [List.map_cons, List.mapM_cons, first, ok_bind, inductionHypothesis]
    rfl

/-- A list of sources and a modifier that is made of it are refused together.  Where they are
accepted, as many sources are counted in both, and both are packed to one buffer as long as
nothing is put into a slot of the modifier. -/
theorem modifiers_pack_as_their_sources :
    (forall sources : List Source,
      activeCount sources = activeCount (sources.take slotCount) ∧
      forall workspace : Workspace, Exists fun operands : List SourceOperand =>
        operands.mapM workspace.readSource = .ok sources) ∧
    forall (history : List Command) (name : String) {operands : List SourceOperand}
      {sources : List Source},
      operands.mapM (runTo {} history).readSource = .ok sources ->
      ((Exists fun failure =>
        (runTo {} history).step (.put name (.modifier (.forceField operands))) = .error failure) ↔
          Exists fun error => pack sources = .error error) ∧
      forall {buffer : Buffer}, pack sources = .ok buffer ->
        Exists fun step => Exists fun handle =>
          (runTo {} history).step (.put name (.modifier (.forceField operands))) = .ok step ∧
          step.workspace.lookup name = some (.modifier handle) ∧
          forall between : List Command, sourcesPut handle step.workspace between = [] ->
            Exists fun slots : Slots => slots.activeCount = activeCount sources ∧
              PacksTo (step.workspace.runTo between) handle slots buffer := by
  refine ⟨fun sources => ⟨(activeCount_take sources).symm,
    fun workspace => ⟨_, mapM_operandOf workspace sources⟩⟩,
    fun history name operands sources read => ?_⟩
  rcases exists_separated history with ⟨place, separated⟩
  rcases Nat.lt_or_ge slotCount sources.length with many | fits
  · have refused : pack sources = .error (.unpackable sources.length) :=
      if_neg (Nat.not_le.mpr many)
    refine ⟨⟨fun _ => ⟨_, refused⟩, fun _ => ⟨_, put_forceField_of_many read many name⟩⟩,
      fun packed => ?_⟩
    cases refused.symm.trans packed
  · have accepted : pack sources = .ok (Slots.filled sources).pack := if_pos fits
    rcases separated.exists_holdsSlots read fits name with
      ⟨step, handle, place', stepped, selected, separated', holds⟩
    refine ⟨⟨?_, ?_⟩, fun {buffer} packed => ?_⟩
    · rintro ⟨failure, failed⟩
      cases stepped.symm.trans failed
    · rintro ⟨error, failed⟩
      cases accepted.symm.trans failed
    · cases accepted.symm.trans packed
      refine ⟨step, handle, stepped, selected, fun between nothing => ?_⟩
      rcases Separated.shows_runTo
        (fun command separated holds => holds.runCommand command separated) between separated' holds
        with ⟨_, separated'', holds'⟩
      have nothing' : gather (fun workspace => workspace.putSources handle) step.workspace between =
          [] := nothing
      rw [List.nil_append, nothing'] at holds'
      exact ⟨Slots.filled sources, activeCount_filled fits,
        separated''.packsTo holds'.modifierAt?_eq⟩

/-- A run that makes an effect and a modifier for it. -/
def breeze : List Command := [
  .put "breeze" (.effect { name := some "Breeze" }),
  .put "lift" (.modifier (.accel (.given (.ofNumbers [0, 1, 0]))))]

/-- The step that makes a modifier of three sources, the second of them without mass. -/
def pullStep : Step :=
  ((runTo {} breeze).step
    (.put "pull" (.modifier (.forceField [ball 1, ball 0, ball 2])))).toOption.get
    (by decide +kernel)

/-- Registrations of the modifier in the midst of others. -/
def pullCalls : List Command := [
  .put "moves" (.layout .update),
  .register "breeze" .update ["lift", "pull", "lift"]]

def pulled : Workspace := pullStep.workspace.runTo pullCalls

def pulledEffect : StoredEffect :=
  (pulled.get? { address := 0 }).get (by decide +kernel)

theorem pull_packs_as_its_sources :
    Exists fun buffer : Buffer =>
      pack [ballSource 1, ballSource 0, ballSource 2] = .ok buffer ∧
      pulled.step (.pack "pull") = .ok { workspace := pulled, answer := .packed buffer } ∧
      (Exists fun step => pulled.step (.apply "pull" "moves") = .ok step ∧
        step.workspace.step (.pack "moves") = .ok {
          workspace := step.workspace
          answer := .packed buffer }) ∧
      Exists fun step => pulled.step (.compile "breeze" (some "first")) = .ok step ∧
        step.workspace.step (.pack (layoutName "first" .update)) = .ok {
          workspace := step.workspace
          answer := .packed buffer } := by
  have read : [ball 1, ball 0, ball 2].mapM (runTo {} breeze).readSource =
      .ok [ballSource 1, ballSource 0, ballSource 2] :=
    toOption_eq_some_iff.mp (by decide +kernel)
  have fits : Exists fun buffer : Buffer =>
      pack [ballSource 1, ballSource 0, ballSource 2] = .ok buffer := ⟨_, rfl⟩
  rcases fits with ⟨buffer, accepted⟩
  rcases (modifiers_pack_as_their_sources.2 breeze "pull" read).2 accepted with
    ⟨step, handle, stepped, selected, holds⟩
  have answered : (runTo {} breeze).step
      (.put "pull" (.modifier (.forceField [ball 1, ball 0, ball 2]))) = .ok pullStep :=
    toOption_eq_some_iff.mp (Option.some_get _).symm
  have same : step = pullStep := Except.ok.inj (stepped.symm.trans answered)
  rw [same] at selected holds
  have made : pullStep.workspace.lookup "pull" = some (.modifier { address := 36 }) := by
    decide +kernel
  cases selected.symm.trans made
  have later : Exists fun slots : Slots => slots.activeCount =
      activeCount [ballSource 1, ballSource 0, ballSource 2] ∧
      PacksTo pulled { address := 36 } slots buffer :=
    holds pullCalls rfl
  rcases later with ⟨slots, _, packs⟩
  have selectedPull : pulled.lookup "pull" = some (.modifier { address := 36 }) := by
    decide +kernel
  refine ⟨buffer, accepted, packs.packed selectedPull, ?_, ?_⟩
  · have selectedMoves : pulled.lookup "moves" = some (.updateLayout { address := 71 }) := by
      decide +kernel
    rcases packs.applied selectedPull selectedMoves with ⟨step, _, applied, _, _, packed⟩
    exact ⟨step, applied, packed⟩
  · have succeeds : (((pulled.step (.compile "breeze" (some "first"))).toOption.bind
        Step.outcome?).bind Except.toOption).isSome = true := by
      decide +kernel
    rcases Option.isSome_iff_exists.mp succeeds with ⟨layouts, found⟩
    rcases Option.bind_eq_some_iff.mp found with ⟨outcome, answered, finished⟩
    rcases Option.bind_eq_some_iff.mp answered with ⟨step, compiled, answered⟩
    rw [toOption_eq_some_iff.mp finished] at answered
    have selectedBreeze : pulled.lookup "breeze" = some (.effect { address := 0 }) := by
      decide +kernel
    have present : pulled.get? { address := 0 } = some pulledEffect := (Option.some_get _).symm
    have registered : pulledEffect.updateModifiers =
        [{ address := 2 }] ++ { address := 36 } :: [{ address := 2 }] := by
      decide +kernel
    have spared : forall other, other ∈ [({ address := 2 } : Handle StoredModifier)] ->
        pulled.LeavesField other := by
      intro other member loaded seen
      cases List.mem_singleton.mp member
      have writes : (pulled.modifierAt? { address := 2 }).bind Modifier.field? = some .accel := by
        decide +kernel
      rw [seen] at writes
      exact Modifier.leavesField_of_field? writes (by decide)
    have compiled' := toOption_eq_some_iff.mp compiled
    exact ⟨step, compiled', (packs.compiled selectedBreeze present registered spared compiled'
      answered).2 "first" rfl⟩

end Workspace
end ParticleEffects
