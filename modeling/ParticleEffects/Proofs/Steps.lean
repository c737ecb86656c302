import ParticleEffects.Proofs.Compilation
import ParticleEffects.Proofs.Targets

namespace ParticleEffects

namespace Workspace

/-!
What a step leaves alone.

Each command keeps the workspace separated.  It writes to nothing but its targets
and what is part of them, registers modifiers for no effect but the one it is meant
for, and leaves all names alone but those that it gives away.
-/

open Spatial ForceField Spawn

/-- A list that is long enough is not filled up. -/
theorem writeAt_of_lt {α : Type} (filler : α) {entries : List α} {place : Nat}
    (inside : place < entries.length) (entry : α) :
    writeAt filler entries place entry = entries.set place entry := by
  rw [writeAt, Nat.sub_eq_zero_of_le inside, List.replicate_zero, List.append_nil]

section Steps

variable {workspace changed : Workspace} {place : Placement}
  (separated : Separated workspace place) {registered : List Nat} {bound : List String}
include separated

theorem Separated.insertKey {handle : Handle StoredGradient}
    (lies : Lies workspace place handle (.alone handle.address)) {ratio : Float}
    {entries : Components} (inserted : workspace.insertKey handle ratio entries = .ok changed) :
    Exists fun place' => Kept [handle.address] registered bound workspace place changed place' := by
  rcases bind_eq_ok_iff.mp inserted with ⟨stored, found, same⟩
  cases same
  have fits := separated.sound.gradientFits lies (orUnsuitable_eq_ok_iff.mp found)
  have added := separated.sound.addVector (entries.copy stored.kind.width)
    ((Place.alone handle.address).inner .key)
  have bounded : stored.gradient.insertionPoint ratio <= stored.gradient.toList.length :=
    stored.gradient.insertionPoint_le_size ratio
  have fits' : GradientFits (workspace.add (entries.copy stored.kind.width)).1
      (place.assign workspace.objects.size ((Place.alone handle.address).inner .key))
      (.alone handle.address) { stored with
        gradient := stored.gradient.addKey ratio
          (workspace.add (entries.copy stored.kind.width)).2 } := by
    refine ⟨fun key member => ?_, fun root => (fits.ordered root).insert _⟩
    rw [Gradient.addKey, Gradient.toList_insert, List.mem_insertIdx bounded] at member
    rcases member with rfl | old
    · exact added.lies
    · exact (fits.values key old).change added.evolves.changes
  refine ⟨_, separated.keeps_inside lies.kind (by decide)
    ((added.evolves.outward.allow _).set (lies.change added.evolves.changes) _
      (Place.region_self _) fits') fun spot inside => inside.1⟩

theorem Separated.replaceSlot {modifier : Handle StoredModifier} {slots : Handle StoredSlots}
    (lies : Lies workspace place modifier (.alone modifier.address))
    (present : workspace.get? modifier = some (.forceField slots)) {source : Source} {slot : Nat}
    (inside : slot < slotCount) (replaced : workspace.replaceSlot slots source slot = .ok changed) :
    Exists fun place' => Kept [modifier.address] registered bound workspace place changed place' := by
  rcases bind_eq_ok_iff.mp replaced with ⟨held, found, same⟩
  cases same
  have liesSlots : Lies workspace place slots ((Place.alone modifier.address).inner .store) :=
    (separated.sound.modifierFits lies present).2
  have fits := separated.sound.slotsFit liesSlots (orUnsuitable_eq_ok_iff.mp found)
  rcases fits.complete rfl with ⟨size, filled⟩
  rcases separated.sound.addSource (.ofSource source)
    (((Place.alone modifier.address).inner .store).inner (.slot slot)) (by simp) with
    ⟨place', added, _⟩
  have within : slot < held.length := by rwa [size]
  rw [writeAt_of_lt none within]
  have fits' : SlotsFit (workspace.addSource (.ofSource source)).1 place'
      ((Place.alone modifier.address).inner .store)
      (held.set slot (some (workspace.addSource (.ofSource source)).2)) := by
    refine ⟨fun n handle written => ?_, fun _ => ⟨by rw [List.length_set, size], fun missing => ?_⟩⟩
    · by_cases same : slot = n
      · subst same
        rw [List.getElem?_set_self within] at written
        cases written
        exact added.lies
      · rw [List.getElem?_set_ne same] at written
        exact (fits.filled n handle written).change added.evolves.changes
    · rcases List.mem_or_eq_of_mem_set missing with old | new
      · exact filled old
      · cases new
  have evolves := (added.evolves.outward.outward.allow (Place.alone modifier.address).region).set
    (liesSlots.change added.evolves.changes) _ (Place.region_inner (Place.region_self _) _) fits'
  exact ⟨place', separated.keeps_inside lies.kind (by decide) evolves fun spot inside => inside.1⟩

theorem Separated.applyTo? {modifier : Handle StoredModifier} {loaded : LoadedModifier}
    (found : workspace.modifierAt? modifier = some loaded) {asset : Asset}
    (lies : AssetLies workspace place asset) {stage : Stage} {applied : Applied Workspace}
    (selected : workspace.applyTo? modifier asset = some (stage, applied)) :
    Exists fun place' =>
      Kept [asset.address] registered bound workspace place applied.layout place' := by
  cases asset with
  | initLayout layout =>
    cases selected
    rcases Lies.exists_get? lies with ⟨value, seen⟩
    rcases (separated.sound.applyInit lies found seen).evolves with ⟨place', evolves⟩
    exact ⟨place', separated.keeps_inside (Lies.kind lies) (by decide) evolves fun _ inside => inside.1⟩
  | updateLayout layout =>
    cases selected
    rcases separated.sound.exists_loadUpdate? lies with ⟨value, seen⟩
    rcases (separated.sound.applyUpdate lies found seen).evolves with ⟨place', evolves⟩
    exact ⟨place', separated.keeps_inside (Lies.kind lies) (by decide) evolves fun _ inside => inside.1⟩
  | renderLayout layout =>
    cases selected
    rcases separated.sound.exists_loadRender? lies with ⟨value, seen⟩
    rcases (separated.sound.applyRender lies found seen).evolves with ⟨place', evolves⟩
    exact ⟨place', separated.keeps_inside (Lies.kind lies) (by decide) evolves fun _ inside => inside.1⟩
  | _ => cases selected

theorem Separated.register {name : String} {stage : Stage} {modifierNames : List String}
    (added : workspace.register name stage modifierNames = .ok changed) :
    Exists fun handle => workspace.lookup name = some (.effect handle) ∧
      Kept [handle.address] [handle.address] bound workspace place changed place := by
  rcases bind_eq_ok_iff.mp added with ⟨handle, named, foundEffect⟩
  rcases bind_eq_ok_iff.mp foundEffect with ⟨effect, found, foundModifiers⟩
  rcases bind_eq_ok_iff.mp foundModifiers with ⟨modifiers, read, same⟩
  cases same
  have selected := lookup_of_findEffect named
  have lies : Lies workspace place handle (.alone handle.address) := separated.named name _ selected
  have present := orUnsuitable_eq_ok_iff.mp found
  have fits : Fits workspace place (.alone handle.address) handle.address
      (.effect (effect.registerAll stage modifiers)) := by
    refine ⟨rfl, fun other modifier member => ?_⟩
    rw [Effect.modifiers_registerAll, List.mem_append] at member
    rcases member with old | new
    · exact separated.modifiers_lie present other modifier old
    · split at new
      · rcases exists_mem_of_mapM_ok read new with ⟨modifierName, _, foundModifier⟩
        exact separated.named modifierName _ (lookup_of_findModifier foundModifier)
      · cases new
  have evolves := (Evolves.refl (Place.alone handle.address).region .nowhere separated.sound).set
    lies (effect.registerAll stage modifiers) (Place.region_self _) fits
  refine ⟨handle, selected, separated.evolve evolves fun _ _ => False.elim, ?_, fun _ _ => rfl, ?_⟩
  · exact evolves.changes.weaken (fun _ inside => List.mem_singleton.mpr inside.1) fun _ =>
      False.elim
  · intro other held foundOther apart
    have different : handle.address ≠ other.address := fun same =>
      apart (List.mem_singleton.mpr same.symm)
    exact ⟨held.config, (get?_set_ne workspace different _).trans foundOther⟩

omit separated in
theorem exists_effect_of_compile {name : String} {layoutsName : Option String} {step : Step}
    (compiled : workspace.compile name layoutsName = .ok step) :
    Exists fun handle => Exists fun effect => workspace.lookup name = some (.effect handle) ∧
      workspace.get? handle = some effect := by
  rcases bind_eq_ok_iff.mp compiled with ⟨handle, named, foundEffect⟩
  rcases bind_eq_ok_iff.mp foundEffect with ⟨effect, found, _⟩
  exact ⟨handle, effect, lookup_of_findEffect named, orUnsuitable_eq_ok_iff.mp found⟩

omit separated in
/-- The layouts that a compilation made may be given names. -/
theorem Kept.keepLayouts {roots : List Nat} {place' : Placement} {name : String}
    {layoutsName : Option String}
    (kept : Kept roots registered (Command.compile name layoutsName).bound workspace place changed
      place')
    {handles : LayoutHandles} {layouts : Layouts}
    (reads : ReadsLayouts changed place' handles layouts) :
    Kept roots registered (Command.compile name layoutsName).bound workspace place
      (changed.keepLayouts layoutsName handles) place' := by
  cases layoutsName with
  | none => exact kept
  | some layoutsName =>
    have init : AssetLies changed place' (.initLayout handles.init) := reads.liesInit
    have update : AssetLies changed place' (.updateLayout handles.update) := reads.liesUpdate
    have render : AssetLies changed place' (.renderLayout handles.render) := reads.liesRender
    exact ((kept.bind (by simp [Command.bound]) init).bind (by simp [Command.bound])
      (update.bind _ _)).bind (by simp [Command.bound]) ((render.bind _ _).bind _ _)

theorem Separated.compile {name : String} {layoutsName : Option String} {step : Step}
    (compiled : workspace.compile name layoutsName = .ok step) :
    Exists fun place' => Kept [] registered (Command.compile name layoutsName).bound
      workspace place step.workspace place' := by
  rcases exists_effect_of_compile compiled with ⟨handle, effect, selected, present⟩
  rcases separated.compiles selected present layoutsName with
    ⟨loaded, other, place', _, answered, compiles⟩
  cases compiled.symm.trans answered
  have kept : Kept [] registered (Command.compile name layoutsName).bound workspace place
      (workspace.applyStages effect).workspace place' := compiles.grown.kept separated
  refine ⟨place', ?_⟩
  cases error : loaded.meaning.left.error with
  | some failure =>
    rw [compiles.failed failure error]
    exact kept
  | none =>
    rcases compiles.succeeded error with ⟨handles, reads, same⟩
    rw [same]
    exact kept.keepLayouts reads

theorem Separated.put {name : String} {draft : Draft} (made : workspace.put name draft = .ok changed) :
    Exists fun place' => Kept [] registered [name] workspace place changed place' := by
  rcases bind_eq_ok_iff.mp made with ⟨⟨extended, asset⟩, found, same⟩
  cases same
  rcases separated.make found with ⟨place', grown, lies⟩
  exact ⟨place', (grown.kept separated).bind List.mem_cons_self lies⟩

theorem Separated.copy (newName : String) (any : AnyGradient) :
    Exists fun place' => Kept [] registered [newName] workspace place
      ((workspace.addGradient any.copy).1.bind newName (.gradient (workspace.addGradient any.copy).2))
      place' := by
  have ordered : any.copy.gradient.InOrder := Gradient.inOrder_ofKeys any.gradient.toList
  rcases separated.addGradient ordered with ⟨place', made⟩
  exact ⟨place', (made.grown.kept separated).bind List.mem_cons_self made.lies⟩

omit separated in
theorem workspace_of_stepTo {name : String} {step : Step} (led : workspace.stepTo name = .ok step) :
    step.workspace = workspace := by
  rcases bind_eq_ok_iff.mp led with ⟨_, _, same⟩
  cases same
  rfl

theorem Separated.addKey {name : String} {ratio : Float} {value : VectorOperand}
    (added : workspace.addKey name ratio value = .ok changed) :
    Exists fun place' => Kept (workspace.targets (.addKey name ratio value)) registered bound
      workspace place changed place' := by
  rcases bind_eq_ok_iff.mp added with ⟨handle, found, inserted⟩
  rcases bind_eq_ok_iff.mp inserted with ⟨entries, _, written⟩
  have selected := lookup_of_findGradient found
  rw [targets_eq_of_subject rfl selected]
  exact separated.insertKey (separated.named name _ selected) written

/-- A replacement that is refused changes nothing. -/
theorem Separated.replaceSource {name : String} {operand : SourceOperand} {index : Float}
    {step : Step} (replaced : workspace.step (.replaceSource name operand index) = .ok step) :
    Exists fun place' => Kept (workspace.targets (.replaceSource name operand index)) registered
      bound workspace place step.workspace place' := by
  rcases bind_eq_ok_iff.mp replaced with ⟨source, _, foundSlots⟩
  rcases bind_eq_ok_iff.mp foundSlots with ⟨slots, found, addressing⟩
  rcases bind_eq_ok_iff.mp found with ⟨modifier, named, held⟩
  have selected := lookup_of_findModifier named
  rw [targets_eq_of_subject rfl selected]
  split at addressing
  · rename_i slot addressed
    rcases bind_eq_ok_iff.mp addressing with ⟨changed, written, answered⟩
    rcases bind_eq_ok_iff.mp answered with ⟨_, _, same⟩
    cases same
    split at held
    · rename_i present
      cases held
      exact separated.replaceSlot (separated.named name _ selected) present slot.isLt written
    · cases held
  · rcases bind_eq_ok_iff.mp addressing with ⟨_, _, same⟩
    cases same
    exact ⟨place, Kept.refl separated⟩

/-- Another value in a speed is a new one or that of a name. -/
theorem Separated.replaceValue {name member : String} {operand : ValueOperand}
    (replaced : workspace.replaceValue name member operand = .ok changed) :
    Exists fun place' => Kept (workspace.targets (.replaceValue name member operand)) registered
      bound workspace place changed place' := by
  rcases bind_eq_ok_iff.mp replaced with ⟨handle, named, loading⟩
  rcases bind_eq_ok_iff.mp loading with ⟨stored, found, selecting⟩
  rcases bind_eq_ok_iff.mp selecting with ⟨_, _, making⟩
  rcases bind_eq_ok_iff.mp making with ⟨⟨extended, value⟩, foundValue, same⟩
  cases same
  have selected := lookup_of_findSpeed named
  rw [targets_eq_of_subject rfl selected]
  have lies : Lies workspace place handle (.alone handle.address) := separated.named name _ selected
  have fits := separated.sound.speedFits lies (orUnsuitable_eq_ok_iff.mp found)
  rcases separated.valueHandle foundValue with ⟨place', made⟩
  have lies' := lies.change made.grown.evolves.changes
  have fits' : SpeedFits extended place' (stored.modify member fun _ => value) := by
    refine Speed.forall_modify (fun other held => ?_) fun _ => made.lies
    exact (fits other held).change made.grown.evolves.changes
  exact ⟨place', (made.grown.kept separated).trans (made.grown.separated.keeps_inside lies'.kind
    (by decide) ((Evolves.refl _ .nowhere made.grown.separated.sound).set lies' _
      (Place.region_self _) fits') fun _ => False.elim)⟩

/-- An application writes to its layout only, also one that stops. -/
theorem Separated.apply {name layoutName : String} {step : Step}
    (applied : workspace.apply name layoutName = .ok step) :
    Exists fun place' => Kept (workspace.targets (.apply name layoutName)) registered bound
      workspace place step.workspace place' := by
  rcases bind_eq_ok_iff.mp applied with ⟨modifier, _, loading⟩
  rcases bind_eq_ok_iff.mp loading with ⟨loaded, found, finding⟩
  rcases bind_eq_ok_iff.mp finding with ⟨asset, named, applying⟩
  rcases bind_eq_ok_iff.mp applying with ⟨⟨stage, left⟩, selected, viewing⟩
  rcases bind_eq_ok_iff.mp viewing with ⟨_, _, same⟩
  cases same
  have selectedAsset := lookup_of_find named
  rw [targets_eq_of_subject rfl selectedAsset]
  exact separated.applyTo? (orUnsuitable_eq_ok_iff.mp found)
    (separated.named layoutName _ selectedAsset) (orUnsuitable_eq_ok_iff.mp selected)

/-- What every step leaves alone. -/
theorem Separated.step {command : Command} {step : Step}
    (stepped : workspace.step command = .ok step) :
    Exists fun place' => Kept (workspace.targets command) (workspace.registered command)
      command.bound workspace place step.workspace place' := by
  cases command with
  | put name draft =>
    rcases bind_eq_ok_iff.mp stepped with ⟨changed, made, led⟩
    rw [workspace_of_stepTo led]
    exact separated.put made
  | observe name =>
    rw [workspace_of_stepTo stepped]
    exact ⟨place, Kept.refl separated⟩
  | assign name path content =>
    rcases bind_eq_ok_iff.mp stepped with ⟨changed, assigned, led⟩
    rw [workspace_of_stepTo led]
    exact separated.assign assigned
  | assignHandout name request path content =>
    rcases bind_eq_ok_iff.mp stepped with ⟨changed, assigned, led⟩
    rw [workspace_of_stepTo led]
    exact separated.assignHandout assigned
  | addKey name ratio value =>
    rcases bind_eq_ok_iff.mp stepped with ⟨changed, added, answered⟩
    rcases bind_eq_ok_iff.mp answered with ⟨_, _, same⟩
    cases same
    exact separated.addKey added
  | sample name ratios =>
    rcases bind_eq_ok_iff.mp stepped with ⟨_, _, loaded⟩
    rcases bind_eq_ok_iff.mp loaded with ⟨_, _, same⟩
    cases same
    exact ⟨place, Kept.refl separated⟩
  | copy name newName =>
    rcases bind_eq_ok_iff.mp stepped with ⟨handle, _, loaded⟩
    rcases bind_eq_ok_iff.mp loaded with ⟨any, _, led⟩
    rw [workspace_of_stepTo led]
    exact separated.copy newName any
  | replaceSource name operand index => exact separated.replaceSource stepped
  | replaceValue name member value =>
    rcases bind_eq_ok_iff.mp stepped with ⟨changed, replaced, led⟩
    rw [workspace_of_stepTo led]
    exact separated.replaceValue replaced
  | pack name =>
    rcases bind_eq_ok_iff.mp stepped with ⟨_, _, same⟩
    cases same
    exact ⟨place, Kept.refl separated⟩
  | apply name layoutName => exact separated.apply stepped
  | roles name =>
    rcases bind_eq_ok_iff.mp stepped with ⟨_, _, same⟩
    cases same
    exact ⟨place, Kept.refl separated⟩
  | register name stage modifierNames =>
    rcases bind_eq_ok_iff.mp stepped with ⟨changed, added, answered⟩
    rcases bind_eq_ok_iff.mp answered with ⟨_, _, same⟩
    cases same
    rcases separated.register added with ⟨handle, selected, kept⟩
    rw [targets_eq_of_subject rfl selected, Workspace.registered, selected]
    exact ⟨place, kept⟩
  | compile name layoutsName => exact separated.compile stepped

end Steps

end Workspace
end ParticleEffects
