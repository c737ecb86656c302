import ParticleEffects.Proofs.Runs

namespace ParticleEffects
namespace Workspace

/-!
Layouts as snapshots.

Nothing but a step that is directed at a layout changes what is seen of it, since all
that a layout refers to is inside of it.  The slots of one layout lie apart from each
other, so that a change inside one of them is not seen in the others.
-/

open Spatial ForceField Spawn

theorem Asset.eq_of_kind_of_address {first second : Asset} (kind : first.kind = second.kind)
    (address : first.address = second.address) : first = second := by
  have same := second.asset?_kind
  rw [← kind, ← address, first.asset?_kind] at same
  exact Option.some.inj same

section

variable {workspace changed : Workspace} {place place' : Placement}

/-- A path inside a speed leads to one of its values. -/
theorem Separated.value_lies_of_speed (separated : Separated workspace place)
    {handle : Handle StoredSpeed} (lies : Lies workspace place handle (.alone handle.address))
    {path rest : Path} {value : Handle Value}
    (leads : workspace.valueOfSpeed? handle path = some (value, rest)) :
    Lies workspace place value (.alone value.address) := by
  unfold valueOfSpeed? at leads
  split at leads
  · rcases Option.bind_eq_some_iff.mp leads with ⟨stored, present, selecting⟩
    rcases Option.bind_eq_some_iff.mp selecting with ⟨held, selected, same⟩
    cases same
    exact separated.sound.speedFits lies present _ (Speed.mem_of_lookup selected)
  · cases leads

/-- A value that a path leads to is an object of its own. -/
theorem Separated.value_lies (separated : Separated workspace place) {asset : Asset}
    (lies : AssetLies workspace place asset) {path rest : Path} {value : Handle Value}
    (leads : workspace.valueWithin? asset path = some (value, rest)) :
    Lies workspace place value (.alone value.address) := by
  unfold valueWithin? at leads
  split at leads
  · cases leads
    exact lies
  · exact separated.value_lies_of_speed lies leads
  · split at leads
    · rename_i present
      exact separated.value_lies_of_speed (separated.sound.modifierFits lies present).2.speed leads
    · cases leads
  · cases leads

theorem Separated.kindAt?_of_mem_valueRoots (separated : Separated workspace place) {asset : Asset}
    (lies : AssetLies workspace place asset) {path : Path} {root : Nat}
    (member : root ∈ workspace.valueRoots asset path) : workspace.kindAt? root = some .value := by
  rcases List.mem_map.mp member with ⟨found, leads, rfl⟩
  exact (separated.value_lies lies (Option.mem_toList.mp leads)).kind

/-- An assignment is made in the asset itself, in the position of a source, or in the value
that the path leads to. -/
theorem Separated.mem_assignRoots (separated : Separated workspace place) {asset : Asset}
    (lies : AssetLies workspace place asset) {path : Path} {root : Nat}
    (member : root ∈ workspace.assignRoots path asset) :
    root = asset.address ∧ asset.kind ∉ [.value, .speed] ∨
      asset.kind = .source ∧ workspace.kindAt? root = some .vector ∨
      root ∈ workspace.valueRoots asset path := by
  cases asset with
  | source handle =>
    rcases Lies.exists_get? lies with ⟨stored, present⟩
    have position : Lies workspace place stored.position (.alone stored.position.address) :=
      separated.sound.fits lies present
    simp only [assignRoots, present, Option.map_some, Option.toList_some, List.mem_cons,
      List.not_mem_nil, or_false] at member
    rcases member with same | same
    · exact .inl ⟨same, by simp [Asset.kind]⟩
    · exact .inr (.inl ⟨rfl, same ▸ position.kind⟩)
  | gradient handle => cases member
  | value handle => exact .inr (.inr member)
  | speed handle => exact .inr (.inr member)
  | modifier handle =>
    simp only [assignRoots] at member
    split at member
    · exact .inr (.inr member)
    · exact .inl ⟨List.mem_singleton.mp member, by simp [Asset.kind]⟩
    · exact .inl ⟨List.mem_singleton.mp member, by simp [Asset.kind]⟩
    · exact .inl ⟨List.mem_singleton.mp member, by simp [Asset.kind]⟩
    · cases member
  | _ => exact .inl ⟨List.mem_singleton.mp member, by simp [Asset.kind]⟩

/-- What a command reaches is the asset it is directed at, a vector or a value. -/
theorem Separated.mem_reach (separated : Separated workspace place) {command : Command}
    {asset : Asset} (lies : AssetLies workspace place asset) {root : Nat}
    (member : root ∈ workspace.reach command asset) :
    root = asset.address ∨
      Exists fun kind => kind ∈ [.vector, .value] ∧ workspace.kindAt? root = some kind := by
  unfold reach at member
  split at member
  · rcases separated.mem_assignRoots lies member with ⟨same, _⟩ | ⟨_, vector⟩ | valued
    · exact .inl same
    · exact .inr ⟨.vector, by simp, vector⟩
    · exact .inr ⟨.value, by simp, separated.kindAt?_of_mem_valueRoots lies valued⟩
  · exact .inl (List.mem_singleton.mp member)
  · cases member
  · exact .inl (List.mem_singleton.mp member)

/-- What a command can write to is reached from the asset that it is directed at. -/
theorem Separated.exists_directed_of_mem_targets (separated : Separated workspace place)
    {command : Command} {root : Nat} (member : root ∈ workspace.targets command) :
    Exists fun asset => AssetLies workspace place asset ∧
      workspace.directed? command = some asset ∧ root ∈ workspace.reach command asset := by
  rcases List.mem_flatMap.mp member with ⟨asset, selected, reached⟩
  have directed : workspace.directed? command = some asset := Option.mem_toList.mp selected
  rcases Option.bind_eq_some_iff.mp directed with ⟨name, _, found⟩
  exact ⟨asset, separated.named name asset found, directed, reached⟩

/-- What a command can write to, unless it is a vector or a value, is the object that the
command is directed at. -/
theorem Separated.directed_of_mem_targets (separated : Separated workspace place)
    {command : Command} {asset : Asset}
    (present : workspace.kindAt? asset.address = some asset.kind)
    (owner : asset.kind ∉ [.vector, .value])
    (member : asset.address ∈ workspace.targets command) :
    workspace.directed? command = some asset ∧ asset.address ∈ workspace.reach command asset := by
  rcases separated.exists_directed_of_mem_targets member with ⟨other, lies, directed, reached⟩
  rcases separated.mem_reach lies reached with same | ⟨kind, shared, found⟩
  · have kinds : asset.kind = other.kind := by
      rw [same] at present
      exact Option.some.inj (present.symm.trans lies.kindAt?)
    obtain rfl := Asset.eq_of_kind_of_address kinds same
    exact ⟨directed, reached⟩
  · rw [Option.some.inj (present.symm.trans found)] at owner
    exact absurd shared owner

/-- A layout is reached by nothing but what is directed at it. -/
theorem Separated.not_mem_targets (separated : Separated workspace place) {asset : Asset}
    (layout : asset.IsLayout) (present : workspace.kindAt? asset.address = some asset.kind)
    {command : Command} (apart : workspace.directed? command ≠ some asset) :
    asset.address ∉ workspace.targets command := by
  intro member
  have owner : asset.kind ∉ [.vector, .value] := by
    cases asset with
    | initLayout handle => simp [Asset.kind]
    | updateLayout handle => simp [Asset.kind]
    | renderLayout handle => simp [Asset.kind]
    | _ => cases layout
  exact apart (separated.directed_of_mem_targets present owner member).1

/-- A layout that is seen is part of nothing. -/
theorem Sound.lies_of_view (sound : Sound workspace place) {asset : Asset} (layout : asset.IsLayout)
    {observation : Observation} (seen : workspace.view asset = .ok observation) :
    AssetLies workspace place asset := by
  cases asset with
  | initLayout handle =>
    rcases bind_eq_ok_iff.mp seen with ⟨held, found, _⟩
    have present := orUnsuitable_eq_ok_iff.mp found
    exact ⟨kindAt?_of_get? present, sound handle.address _ (get?_eq_some_iff.mp present)⟩
  | updateLayout handle =>
    rcases bind_eq_ok_iff.mp seen with ⟨_, found, _⟩
    rcases Option.bind_eq_some_iff.mp (orUnsuitable_eq_ok_iff.mp found) with ⟨held, present, _⟩
    exact ⟨kindAt?_of_get? present, (sound handle.address _ (get?_eq_some_iff.mp present)).1⟩
  | renderLayout handle =>
    rcases bind_eq_ok_iff.mp seen with ⟨_, found, _⟩
    rcases Option.bind_eq_some_iff.mp (orUnsuitable_eq_ok_iff.mp found) with ⟨held, present, _⟩
    exact ⟨kindAt?_of_get? present, (sound handle.address _ (get?_eq_some_iff.mp present)).1⟩
  | _ => cases layout

/-- A layout that is watched is seen as before. -/
theorem Watched.Held.view_eq {watched : Watched}
    (held : watched.Held workspace place changed place') (separated : Separated workspace place)
    {asset : Asset} (layout : asset.IsLayout) (lies : AssetLies workspace place asset)
    (member : asset.address ∈ watched.roots) : changed.view asset = workspace.view asset := by
  have inward := Region.inward_rooted watched.roots
  cases asset with
  | initLayout handle => simp only [view, held.agrees.get? lies member]
  | updateLayout handle =>
    simp only [view, held.agrees.loadUpdate? inward separated.sound lies member]
  | renderLayout handle =>
    simp only [view, held.agrees.loadRender? inward separated.sound lies member]
  | _ => cases layout

/-- What is seen of a layout is seen after every run that is not directed at it. -/
theorem Separated.view_runTo (separated : Separated workspace place) {asset : Asset}
    (layout : asset.IsLayout) {observation : Observation}
    (seen : workspace.view asset = .ok observation) {between : List Command}
    (undirected : AlongRun (fun reached command => reached.directed? command ≠ some asset)
      workspace between) :
    (workspace.runTo between).view asset = .ok observation := by
  have lies := separated.sound.lies_of_view layout seen
  have spares {reached : Workspace} {place' : Placement} {command : Command}
      (held : Watched.Held { roots := [asset.address] } workspace place reached place')
      (apart : reached.directed? command ≠ some asset) :
      Watched.SparedBy { roots := [asset.address] } reached command := by
    have present : reached.kindAt? asset.address = some asset.kind :=
      (held.changes.kind_eq _ (lt_of_kindAt? lies.kindAt?)).trans lies.kindAt?
    have untouched := held.separated.not_mem_targets layout present apart
    refine ⟨fun root member isAsset => ?_, fun _ _ => List.not_mem_nil, fun _ _ => List.not_mem_nil⟩
    exact untouched (List.mem_singleton.mp isAsset ▸ member)
  rcases Watched.held_runTo spares between (Watched.Held.refl separated) undirected with
    ⟨place', held⟩
  exact (held.view_eq separated layout lies List.mem_cons_self).trans seen

end

/-! ## One slot -/

/-- The commands that assign inside one slot of the layout of a name. -/
inductive InSlot (name : String) (slot : Nat) : Command -> Prop where
  | assign (rest : Path) (content : Content) :
    InSlot name slot (.assign name (.member "forceField" :: .index slot :: rest) content)
  | assignHandout (rest : Path) (content : Content) :
    InSlot name slot (.assignHandout name .slots (.index slot :: rest) content)

/-- Two layouts differ in nothing but one slot. -/
structure SameButSlot (slot : Nat) (before after : UpdateLayout) : Prop where
  accel : after.accel = before.accel
  others : forall other, other ≠ slot -> after.forceField[other]? = before.forceField[other]?

section

variable {workspace changed : Workspace} {place : Placement}

/-- What is written inside one slot is not seen in the rest of the layout. -/
theorem Sound.sameButSlot (sound : Sound workspace place) {handle : Handle StoredUpdate}
    (lies : Lies workspace place handle (.alone handle.address)) {before : UpdateLayout}
    (seen : workspace.loadUpdate? handle = some before) {slot : Nat}
    (evolves : Evolves (((Place.alone handle.address).inner .slots).inner (.slot slot)).region .nowhere
      workspace place changed place) :
    Exists fun after => changed.loadUpdate? handle = some after ∧ SameButSlot slot before after := by
  rcases lies.exists_get? with ⟨stored, present⟩
  have fits := (sound.updateFits lies present).2
  rcases exists_of_loadUpdate? present seen with ⟨accel, foundSlots⟩
  rcases fits.forceField.exists_get? with ⟨slots, presentSlots⟩
  have beside (spot : Place)
      (shorter : spot.parts.length < 2) : Agrees (· = spot) workspace place changed :=
    evolves.changes.agrees _ fun other same inside => by
      have longer := inside.2.length_le
      rw [same] at longer
      simp at longer
      omega
  have present' := ((beside _ (by simp)).get? lies rfl).trans present
  have accel' := ((beside _ (by simp)).get? fits.accel rfl).trans accel
  have presentSlots' := ((beside _ (by simp)).get? fits.forceField rfl).trans presentSlots
  rcases evolves.sound.exists_loadUpdate? (lies.change evolves.changes) with ⟨after, seen'⟩
  rcases exists_of_loadUpdate? present' seen' with ⟨accelAfter, foundSlots'⟩
  refine ⟨after, seen', Option.some.inj (accelAfter.symm.trans accel'), fun other different => ?_⟩
  rw [loadSlots?_of_get? presentSlots] at foundSlots
  rw [loadSlots?_of_get? presentSlots'] at foundSlots'
  rw [getElem?_of_mapM foundSlots', getElem?_of_mapM foundSlots]
  cases held : slots[other]? with
  | none => rfl
  | some source =>
    cases source with
    | none => rfl
    | some source =>
      have apart := evolves.changes.agrees
        (((Place.alone handle.address).inner .slots).inner (.slot other)).region
        fun _ inside => Place.not_region_inner_of_ne inside (by simpa using different)
      have kept := apart.loadSource? (Place.inward_region _) sound
        ((sound.slotsFit fits.forceField presentSlots).filled other source held) (by simp)
        (Place.region_self _)
      simp only [Option.bind_some, Option.mapM_some, kept]

theorem Separated.inSlot (separated : Separated workspace place) {name : String}
    {handle : Handle StoredUpdate} (selected : workspace.lookup name = some (.updateLayout handle))
    {before : UpdateLayout} (seen : workspace.loadUpdate? handle = some before) {slot : Nat}
    {command : Command} (inSlot : InSlot name slot command) {step : Step}
    (stepped : workspace.step command = .ok step) :
    Exists fun after =>
      step.workspace.loadUpdate? handle = some after ∧ SameButSlot slot before after := by
  have lies : Lies workspace place handle (.alone handle.address) := separated.named name _ selected
  rcases lies.exists_get? with ⟨stored, present⟩
  have fits := (separated.sound.updateFits lies present).2
  have found : workspace.find name = .ok (.updateLayout handle) := by
    simp only [find, selected]
  have written : Exists fun rest => Exists fun content =>
      workspace.assignSlots stored.forceField (.index slot :: rest) content = .ok step.workspace := by
    cases inSlot with
    | assign rest content =>
      rcases bind_eq_ok_iff.mp stepped with ⟨changed, assigned, led⟩
      rw [workspace_of_stepTo led]
      rcases bind_eq_ok_iff.mp assigned with ⟨asset, foundAsset, inside⟩
      cases found.symm.trans foundAsset
      have layout : workspace.assignUpdate handle (.member "forceField" :: .index slot :: rest) content
        = .ok changed := inside
      rcases bind_eq_ok_iff.mp layout with ⟨held, foundHeld, slots⟩
      cases present.symm.trans (orUnsuitable_eq_ok_iff.mp foundHeld)
      exact ⟨rest, content, slots⟩
    | assignHandout rest content =>
      rcases bind_eq_ok_iff.mp stepped with ⟨changed, assigned, led⟩
      rw [workspace_of_stepTo led]
      rcases bind_eq_ok_iff.mp assigned with ⟨asset, foundAsset, inside⟩
      cases found.symm.trans foundAsset
      rcases bind_eq_ok_iff.mp inside with ⟨held, foundHeld, slots⟩
      cases present.symm.trans (orUnsuitable_eq_ok_iff.mp foundHeld)
      exact ⟨rest, content, slots⟩
  rcases written with ⟨rest, content, assigned⟩
  exact separated.sound.sameButSlot lies seen
    (separated.sound.assignSlot fits.forceField assigned)

end

/-! ## Layouts of a compilation -/

/-- What is seen of an asset is seen after every later run that is not directed at it. -/
def Snapshot (workspace : Workspace) (asset : Asset) (observation : Observation) : Prop :=
  forall between,
    AlongRun (fun reached command => reached.directed? command ≠ some asset) workspace between ->
    (workspace.runTo between).view asset = .ok observation

/-- Names have nothing to do with what is seen of a layout. -/
theorem view_keepLayouts (workspace : Workspace) (name : Option String) (handles : LayoutHandles)
    {asset : Asset} (layout : asset.IsLayout) :
    (workspace.keepLayouts name handles).view asset = workspace.view asset := by
  cases name with
  | none => rfl
  | some name =>
    cases asset with
    | initLayout handle => rfl
    | updateLayout handle => rfl
    | renderLayout handle => rfl
    | _ => cases layout

/-- The layouts that a compilation returns are those that are seen of what it made. -/
theorem ReadsLayouts.view {workspace : Workspace} {place : Placement} {handles : LayoutHandles}
    {layouts : Layouts} (reads : ReadsLayouts workspace place handles layouts) :
    workspace.view (.initLayout handles.init) = .ok (.initLayout layouts.init) ∧
      workspace.view (.updateLayout handles.update) = .ok (.updateLayout layouts.update) ∧
      workspace.view (.renderLayout handles.render) = .ok (.renderLayout layouts.render) := by
  have loaded := reads.loaded
  simp only [loadLayouts?, Option.bind_eq_bind, Option.bind_eq_some_iff, Option.pure_def,
    Option.some.injEq] at loaded
  rcases loaded with ⟨init, foundInit, update, foundUpdate, render, foundRender, rfl⟩
  simp only [Workspace.view, foundInit, foundUpdate, foundRender, orUnsuitable, ok_bind]
  exact ⟨rfl, rfl, rfl⟩

theorem layoutName_ne (name : String) {first second : Stage} (different : first.name ≠ second.name) :
    layoutName name first ≠ layoutName name second := by
  intro same
  rw [layoutName, layoutName, String.append_assoc, String.append_assoc] at same
  exact different ((String.append_right_inj _).mp ((String.append_right_inj _).mp same))

/-- The names that a compilation gives to the layouts that it keeps. -/
structure KeepsLayouts (workspace : Workspace) (layoutsName : Option String)
    (handles : LayoutHandles) : Prop where
  init : forall name, name ∈ layoutsName ->
    workspace.lookup (layoutName name .init) = some (.initLayout handles.init)
  update : forall name, name ∈ layoutsName ->
    workspace.lookup (layoutName name .update) = some (.updateLayout handles.update)
  render : forall name, name ∈ layoutsName ->
    workspace.lookup (layoutName name .render) = some (.renderLayout handles.render)

theorem keepsLayouts_keepLayouts (workspace : Workspace) (layoutsName : Option String)
    (handles : LayoutHandles) :
    KeepsLayouts (workspace.keepLayouts layoutsName handles) layoutsName handles where
  init name kept := by
    rw [Option.mem_def.mp kept, keepLayouts, lookup_bind_ne _ _ (layoutName_ne name (by decide)),
      lookup_bind_ne _ _ (layoutName_ne name (by decide)), lookup_bind_self]
  update name kept := by
    rw [Option.mem_def.mp kept, keepLayouts, lookup_bind_ne _ _ (layoutName_ne name (by decide)),
      lookup_bind_self]
  render name kept := by
    rw [Option.mem_def.mp kept, keepLayouts, lookup_bind_self]

theorem Separated.exists_handles_of_compile {workspace : Workspace} {place : Placement}
    (separated : Separated workspace place) {name : String} {layoutsName : Option String}
    {step : Step} (compiled : workspace.step (.compile name layoutsName) = .ok step)
    {layouts : Layouts} (outcome : step.outcome? = some (.ok layouts)) :
    Exists fun handles : LayoutHandles => KeepsLayouts step.workspace layoutsName handles ∧
      step.workspace.view (.initLayout handles.init) = .ok (.initLayout layouts.init) ∧
      step.workspace.view (.updateLayout handles.update) = .ok (.updateLayout layouts.update) ∧
      step.workspace.view (.renderLayout handles.render) = .ok (.renderLayout layouts.render) := by
  rcases exists_effect_of_compile compiled with ⟨handle, effect, selected, present⟩
  rcases separated.compiles selected present layoutsName with
    ⟨loaded, other, place', _, answered, compiles⟩
  cases compiled.symm.trans answered
  have finished := compiles.finished outcome
  rcases compiles.succeeded (congrArg Applied.error finished) with ⟨handles, reads, left⟩
  rw [finished] at reads
  rcases reads.view with ⟨init, update, render⟩
  have kept (asset : Asset) (layout : asset.IsLayout) :
      step.workspace.view asset = (workspace.applyStages effect).workspace.view asset := by
    rw [left, view_keepLayouts _ layoutsName handles layout]
  refine ⟨handles, left ▸ keepsLayouts_keepLayouts _ _ handles, (kept _ ?_).trans init,
    (kept _ ?_).trans update, (kept _ ?_).trans render⟩ <;> trivial

/-- Layouts are snapshots: those that a compilation returned, and all others, are seen
as they were after every run that is not directed at them.  Inside of a layout, what is
assigned inside one slot is not seen in the others. -/
theorem layouts_are_snapshots (history : List Command) :
    (forall {asset : Asset} {observation : Observation}, asset.IsLayout ->
      (runTo {} history).view asset = .ok observation ->
      Snapshot (runTo {} history) asset observation) ∧
    (forall {name : String} {layoutsName : Option String} {step : Step} {layouts : Layouts},
      (runTo {} history).step (.compile name layoutsName) = .ok step ->
      step.outcome? = some (.ok layouts) ->
      Exists fun handles : LayoutHandles => KeepsLayouts step.workspace layoutsName handles ∧
        Snapshot step.workspace (.initLayout handles.init) (.initLayout layouts.init) ∧
        Snapshot step.workspace (.updateLayout handles.update) (.updateLayout layouts.update) ∧
        Snapshot step.workspace (.renderLayout handles.render) (.renderLayout layouts.render)) ∧
    (forall {name : String} {handle : Handle StoredUpdate} {before : UpdateLayout} {slot : Nat}
      {command : Command} {step : Step},
      (runTo {} history).lookup name = some (.updateLayout handle) ->
      (runTo {} history).loadUpdate? handle = some before ->
      InSlot name slot command -> (runTo {} history).step command = .ok step ->
      Exists fun after =>
        step.workspace.loadUpdate? handle = some after ∧ SameButSlot slot before after) := by
  rcases exists_separated history with ⟨place, separated⟩
  refine ⟨fun layout seen between => separated.view_runTo layout seen, ?_, ?_⟩
  · intro name layoutsName step layouts compiled outcome
    rcases separated.exists_handles_of_compile compiled outcome with
      ⟨handles, names, init, update, render⟩
    rcases separated.step compiled with ⟨_, kept⟩
    refine ⟨handles, names, fun between => kept.separated.view_runTo ?_ init,
      fun between => kept.separated.view_runTo ?_ update,
      fun between => kept.separated.view_runTo ?_ render⟩ <;> trivial
  · exact fun selected seen inSlot stepped => separated.inSlot selected seen inSlot stepped

theorem fountain_layouts_are_snapshots :
    Exists fun step => Exists fun layouts : Layouts => Exists fun handles : LayoutHandles =>
      (runTo {} fountain).step (.compile "fountain" (some "first")) = .ok step ∧
      KeepsLayouts step.workspace (some "first") handles ∧
      Snapshot step.workspace (.updateLayout handles.update) (.updateLayout layouts.update) := by
  have succeeds : ((((runTo {} fountain).step (.compile "fountain" (some "first"))).toOption.bind
      Step.outcome?).bind Except.toOption).isSome = true := by
    decide +kernel
  rcases Option.isSome_iff_exists.mp succeeds with ⟨layouts, found⟩
  rcases Option.bind_eq_some_iff.mp found with ⟨outcome, answered, finished⟩
  rcases Option.bind_eq_some_iff.mp answered with ⟨step, compiled, answered⟩
  rw [toOption_eq_some_iff.mp finished] at answered
  rcases (layouts_are_snapshots fountain).2.1 (toOption_eq_some_iff.mp compiled) answered with
    ⟨handles, names, _, update, _⟩
  exact ⟨step, layouts, handles, toOption_eq_some_iff.mp compiled, names, update⟩

end Workspace
end ParticleEffects
