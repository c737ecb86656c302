import ParticleEffects.Proofs.NewAssets

namespace ParticleEffects

/-!
What a command does to the parts that assets share.

The mutations of an asset by a command are read off before the command is run: a key with the
components that its value has then, a source with the components that it and its position
have then, another value for a member of a speed, or an assignment that names the asset itself
or leads to a value of its speed.

A gradient shows the keys that it gets, and nothing else.  A speed shows the values that its
members get, and what is assigned to the values that they are; an assignment to a value that
several members are is one to each of them.
-/

open Spatial ForceField Spawn

/-- The gradient with a key added, where there is one. -/
def AnyGradient.withKey (any : AnyGradient) : Option (Float × Components) -> AnyGradient
  | some (ratio, entries) => any.addKey ratio entries
  | none => any

namespace Workspace

/-! ## What a command contributes -/

/-- The gradient that a modifier shares. -/
def gradientOf? : StoredModifier -> Option (Handle StoredGradient)
  | .color gradient | .size gradient => some gradient
  | _ => none

/-- The speed that a modifier shares. -/
def speedOf? : StoredModifier -> Option (Handle StoredSpeed)
  | .position spawner => some spawner.speed
  | _ => none

section

variable (workspace : Workspace)

/-- The gradient that is seen of an asset.  The one of a modifier can have names of its
own. -/
def gradientSeen? : Asset -> Option (Handle StoredGradient)
  | .gradient handle => some handle
  | .modifier handle => (workspace.get? handle).bind gradientOf?
  | _ => none

/-- The key that a command adds to a gradient, with the components that its value has at
that time. -/
def keyAdded? (gradient : Handle StoredGradient) : Command -> Option (Float × Components)
  | .addKey name ratio value =>
    if workspace.lookup name = some (.gradient gradient) then
      (workspace.components value).toOption.map fun entries => (ratio, entries)
    else none
  | _ => none

/-- The speed that is seen of an asset, which can have names of its own as well. -/
def speedSeen? : Asset -> Option (Handle StoredSpeed)
  | .modifier handle => (workspace.get? handle).bind speedOf?
  | _ => none

/-- The value that a member of a speed refers to from a command on. -/
def valueReplaced? (speed : Handle StoredSpeed) : Command -> Option (String × Value)
  | .replaceValue name member value =>
    if workspace.lookup name = some (.speed speed) then
      (workspace.valueContents value).toOption.map fun contents => (member, contents)
    else none
  | _ => none

/-- The members of the speed of an asset that refer to a value. -/
def membersSeen (asset : Asset) (value : Handle Value) : List String :=
  ((workspace.speedSeen? asset).bind workspace.get?).toList.flatMap fun stored =>
    stored.membersWith value

/-- The paths inside of an asset to where a path inside of another one leads.  To a value
that the speed of the asset refers to there is one for each member that does. -/
def pathsWithin (asset other : Asset) (path : Path) : List Path :=
  match workspace.valueWithin? other path with
  | some (value, rest) =>
    (workspace.membersSeen asset value).map fun name => .member "speed" :: .member name :: rest
  | none => (workspace.pathWithin? asset other path).toList

/-- The changes that a command makes to what is seen of an asset. -/
def mutations (asset : Asset) (command : Command) : List Mutation :=
  match command with
  | .addKey .. =>
    (((workspace.gradientSeen? asset).bind fun gradient =>
      workspace.keyAdded? gradient command).map fun key => .key key.1 key.2).toList
  | .replaceSource name operand index =>
    if workspace.lookup name = some asset then
      match workspace.readSource operand, Slots.address? index with
      | .ok source, some slot => [.slot slot source]
      | _, _ => []
    else []
  | .replaceValue .. =>
    (((workspace.speedSeen? asset).bind fun speed =>
      workspace.valueReplaced? speed command).map fun held => .value held.1 held.2).toList
  | .assign name path content =>
    ((workspace.lookup name).toList.flatMap fun other =>
      workspace.pathsWithin asset other path).map fun inner => .place inner content
  | _ => []

end

variable {workspace : Workspace} {place : Placement}

theorem mutations_addKey_of_gradientless {asset : Asset}
    (gradientless : workspace.gradientSeen? asset = none) (name : String) (ratio : Float)
    (value : VectorOperand) : workspace.mutations asset (.addKey name ratio value) = [] := by
  rw [mutations, gradientless, Option.bind_none, Option.map_none, Option.toList_none]

theorem mutations_replaceValue_of_speedless {asset : Asset}
    (speedless : workspace.speedSeen? asset = none) (name member : String) (value : ValueOperand) :
    workspace.mutations asset (.replaceValue name member value) = [] := by
  rw [mutations, speedless, Option.bind_none, Option.map_none, Option.toList_none]

theorem mutations_assign_of_unnamed {name : String} (unnamed : workspace.lookup name = none)
    (asset : Asset) (path : Path) (content : Content) :
    workspace.mutations asset (.assign name path content) = [] := by
  rw [mutations, unnamed, Option.toList_none, List.flatMap_nil, List.map_nil]

/-- An assignment to a value is seen of a speed only. -/
theorem mutations_assign_of_value {name : String} {other : Asset}
    (selected : workspace.lookup name = some other) {path rest : Path} {value : Handle Value}
    (leads : workspace.valueWithin? other path = some (value, rest)) (asset : Asset)
    (content : Content) :
    workspace.mutations asset (.assign name path content) =
      (workspace.membersSeen asset value).map fun name =>
        .place (.member "speed" :: .member name :: rest) content := by
  simp only [mutations, selected, Option.toList_some, List.flatMap_singleton, pathsWithin, leads,
    List.map_map, Function.comp_def]

theorem mutations_assign_of_astray {name : String} {other : Asset}
    (selected : workspace.lookup name = some other) {path : Path}
    (astray : workspace.valueWithin? other path = none) (asset : Asset) (content : Content) :
    workspace.mutations asset (.assign name path content) =
      ((workspace.pathWithin? asset other path).map fun inner => .place inner content).toList := by
  simp only [mutations, selected, Option.toList_some, List.flatMap_singleton, pathsWithin, astray]
  cases workspace.pathWithin? asset other path <;> rfl

theorem membersSeen_of_speedless {asset : Asset} (speedless : workspace.speedSeen? asset = none)
    (value : Handle Value) : workspace.membersSeen asset value = [] := by
  rw [membersSeen, speedless, Option.bind_none, Option.toList_none, List.flatMap_nil]

/-! ## Gradients -/

theorem Separated.runCommand_addKey (separated : Separated workspace place)
    {gradient : Handle StoredGradient}
    (lies : Lies workspace place gradient (.alone gradient.address)) {any : AnyGradient}
    (loaded : workspace.loadGradient? gradient = some any) {name : String} {ratio : Float}
    {value : VectorOperand} {entries : Components}
    (selected : workspace.lookup name = some (.gradient gradient))
    (read : workspace.components value = .ok entries) :
    (workspace.runCommand (.addKey name ratio value)).2.loadGradient? gradient =
      some (any.addKey ratio entries) := by
  rcases lies.exists_get? with ⟨stored, present⟩
  have succeeds : Exists fun changed => workspace.insertKey gradient ratio entries = .ok changed :=
    ⟨_, by rw [Workspace.insertKey, orUnsuitable_eq_ok_iff.mpr present, ok_bind]; rfl⟩
  rcases succeeds with ⟨changed, inserted⟩
  have loaded' := separated.sound.loadGradient?_insertKey lies loaded inserted
  have kept : Exists fun place' => Kept [gradient.address] [] [] workspace place changed place' :=
    separated.insertKey lies inserted
  rcases kept with ⟨_, kept⟩
  have selected' := (kept.lookup_eq name List.not_mem_nil).trans selected
  have left : (workspace.runCommand (.addKey name ratio value)).2 = changed := by
    simp only [Workspace.runCommand, Workspace.step, Workspace.addKey,
      findGradient_of_lookup selected, read, inserted, ok_bind, observe_of_lookup selected',
      view_gradient loaded']
    rfl
  rw [left]
  exact loaded'

theorem Separated.loadGradient?_runCommand (separated : Separated workspace place)
    {gradient : Handle StoredGradient}
    (lies : Lies workspace place gradient (.alone gradient.address)) {any : AnyGradient}
    (loaded : workspace.loadGradient? gradient = some any) (command : Command) :
    (workspace.runCommand command).2.loadGradient? gradient =
      some (any.withKey (workspace.keyAdded? gradient command)) := by
  cases added : workspace.keyAdded? gradient command with
  | some key =>
    cases command with
    | addKey name ratio value =>
      rw [keyAdded?] at added
      split at added
      · rename_i selected
        rcases Option.map_eq_some_iff.mp added with ⟨entries, read, rfl⟩
        exact separated.runCommand_addKey lies loaded selected (toOption_eq_some_iff.mp read)
      · cases added
    | _ => cases added
  | none =>
    have apart {step : Step} (stepped : workspace.step command = .ok step)
        (suits : command.Suits (.gradient gradient))
        (directed : workspace.directed? command = some (.gradient gradient)) :
        gradient.address ∉ workspace.reach command (.gradient gradient) := by
      intro reached
      cases command with
      | addKey name ratio value =>
        rcases bind_eq_ok_iff.mp stepped with ⟨_, inserted, _⟩
        rcases bind_eq_ok_iff.mp inserted with ⟨_, _, inserted⟩
        rcases bind_eq_ok_iff.mp inserted with ⟨entries, read, _⟩
        have selected : workspace.lookup name = some (.gradient gradient) := directed
        rw [keyAdded?, if_pos selected, read] at added
        cases added
      | assign name path content => cases reached
      | assignHandout name request path content => cases request <;> cases reached
      | _ => cases suits
    rcases separated.untouched_runCommand command (.gradient gradient) lies.kind
      (show Kind.gradient ∉ [.vector, .value] by decide) apart with ⟨_, _, _, agrees⟩
    exact (agrees.loadGradient? (Place.inward_region _) separated.sound lies
      (Place.region_self _)).trans loaded

/-- A way in which a gradient is seen. -/
structure ShowsGradient (wrap : AnyGradient -> Observation) : Prop where
  key : forall any ratio entries,
    (wrap any).mutate (.key ratio entries) = wrap (any.addKey ratio entries)
  idle : forall any mutation, (forall ratio entries, mutation ≠ .key ratio entries) ->
    (wrap any).mutate mutation = wrap any

theorem showsGradient_gradient : ShowsGradient .gradient where
  key _ _ _ := rfl
  idle _ mutation keyless := by
    cases mutation with
    | key ratio entries => exact absurd rfl (keyless ratio entries)
    | _ => rfl

theorem showsGradient_color : ShowsGradient fun any => .modifier (.color any) where
  key _ _ _ := rfl
  idle _ mutation keyless := by
    cases mutation with
    | key ratio entries => exact absurd rfl (keyless ratio entries)
    | _ => rfl

theorem showsGradient_size : ShowsGradient fun any => .modifier (.size any) where
  key _ _ _ := rfl
  idle _ mutation keyless := by
    cases mutation with
    | key ratio entries => exact absurd rfl (keyless ratio entries)
    | _ => rfl

/-- Only a key that is added is a mutation that brings a key. -/
theorem keyless_of_mem_mutations {asset : Asset} {command : Command}
    (unadding : forall name ratio value, command ≠ .addKey name ratio value) {mutation : Mutation}
    (member : mutation ∈ workspace.mutations asset command) (ratio : Float)
    (entries : Components) : mutation ≠ .key ratio entries := by
  rintro rfl
  cases command with
  | addKey name ratio value => exact unadding name ratio value rfl
  | replaceSource name operand index =>
    simp only [mutations] at member
    split at member
    · split at member
      · cases List.mem_singleton.mp member
      · cases member
    · cases member
  | replaceValue name other value =>
    rcases Option.map_eq_some_iff.mp (Option.mem_toList.mp member) with ⟨_, _, same⟩
    cases same
  | assign name path content =>
    rcases List.mem_map.mp member with ⟨_, _, same⟩
    cases same
  | _ => cases member

theorem ShowsGradient.replay {wrap : AnyGradient -> Observation} (shows' : ShowsGradient wrap)
    {asset : Asset} {gradient : Handle StoredGradient}
    (seen : workspace.gradientSeen? asset = some gradient) (any : AnyGradient) (command : Command) :
    (wrap any).replay (workspace.mutations asset command) =
      wrap (any.withKey (workspace.keyAdded? gradient command)) := by
  by_cases adds : Exists fun name => Exists fun ratio => Exists fun value =>
      command = .addKey name ratio value
  · rcases adds with ⟨name, ratio, value, rfl⟩
    simp only [mutations, seen, Option.bind_some]
    cases workspace.keyAdded? gradient (.addKey name ratio value) with
    | none => rfl
    | some key => exact shows'.key any key.1 key.2
  · have unadding (name : String) (ratio : Float) (value : VectorOperand) :
        command ≠ .addKey name ratio value := fun same => adds ⟨name, ratio, value, same⟩
    have nothing : workspace.keyAdded? gradient command = none := by
      cases command with
      | addKey name ratio value => exact absurd rfl (unadding name ratio value)
      | _ => rfl
    rw [nothing]
    exact Observation.replay_eq_self fun mutation member =>
      shows'.idle any mutation (keyless_of_mem_mutations unadding member)

/-! ## Assignments -/

/-- Nothing is missing of what a name stands for. -/
theorem Sound.exists_view (sound : Sound workspace place) {asset : Asset}
    (lies : AssetLies workspace place asset) :
    Exists fun observation => workspace.view asset = .ok observation := by
  cases asset with
  | vector handle =>
    rcases Lies.exists_get? lies with ⟨entries, found⟩
    exact ⟨.vector entries, by simp only [view, found, orUnsuitable, ok_bind]; rfl⟩
  | source handle =>
    rcases sound.exists_loadSource? lies with ⟨source, found⟩
    exact ⟨.source source, by simp only [view, found, orUnsuitable, ok_bind]; rfl⟩
  | gradient handle =>
    rcases sound.exists_loadGradient? lies with ⟨any, found⟩
    exact ⟨.gradient any, view_gradient found⟩
  | value handle =>
    rcases Lies.exists_get? lies with ⟨value, found⟩
    exact ⟨.value value, by simp only [view, found, orUnsuitable, ok_bind]; rfl⟩
  | speed handle =>
    rcases sound.exists_loadSpeed? lies with ⟨speed, found⟩
    exact ⟨.speed speed, by simp only [view, found, orUnsuitable, ok_bind]; rfl⟩
  | modifier handle =>
    rcases sound.exists_modifierAt? lies with ⟨modifier, found⟩
    exact ⟨.modifier modifier, view_modifier found⟩
  | effect handle =>
    rcases Lies.exists_get? lies with ⟨effect, found⟩
    exact ⟨.effect effect.config, by simp only [view, found, orUnsuitable, ok_bind]; rfl⟩
  | initLayout handle =>
    rcases Lies.exists_get? lies with ⟨layout, found⟩
    exact ⟨.initLayout layout, by simp only [view, found, orUnsuitable, ok_bind]; rfl⟩
  | updateLayout handle =>
    rcases sound.exists_loadUpdate? lies with ⟨layout, found⟩
    exact ⟨.updateLayout layout, by simp only [view, found, orUnsuitable, ok_bind]; rfl⟩
  | renderLayout handle =>
    rcases sound.exists_loadRender? lies with ⟨layout, found⟩
    exact ⟨.renderLayout layout, by simp only [view, found, orUnsuitable, ok_bind]; rfl⟩

/-- An assignment that can be made is made, and no other one changes anything. -/
theorem Separated.runCommand_assign (separated : Separated workspace place) {name : String}
    {asset : Asset} (selected : workspace.lookup name = some asset) {path : Path}
    (nonempty : path ≠ []) (content : Content) :
    (workspace.runCommand (.assign name path content)).2 =
      orKept workspace (workspace.assignInside asset path content) := by
  have assignment : workspace.assign name path content =
      workspace.assignInside asset path content := by
    have filled : path.isEmpty = false := by simpa using nonempty
    simp only [Workspace.assign, find, selected, ok_bind, filled, Bool.false_eq_true, if_false]
  cases assigned : workspace.assignInside asset path content with
  | error failure =>
    simp only [Workspace.runCommand, Workspace.step, assignment, assigned]
    rfl
  | ok changed =>
    have lies := separated.named name asset selected
    have kept : Exists fun place' => Kept (workspace.assignRoots path asset) [] [] workspace place
        changed place' := separated.assignInside lies assigned
    rcases kept with ⟨place', kept⟩
    have selected' := (kept.lookup_eq name List.not_mem_nil).trans selected
    rcases kept.separated.sound.exists_view (kept.separated.named name asset selected') with
      ⟨observation, seen⟩
    simp only [Workspace.runCommand, Workspace.step, assignment, assigned, ok_bind, stepTo,
      observe_of_lookup selected', seen]
    rfl

/-- An empty path leads to no place. -/
theorem runCommand_assign_nil (workspace : Workspace) (name : String) (content : Content) :
    (workspace.runCommand (.assign name [] content)).2 = workspace := by
  cases stepped : workspace.step (.assign name [] content) with
  | error failure => simp only [runCommand, stepped]
  | ok step =>
    rcases bind_eq_ok_iff.mp stepped with ⟨changed, assigned, led⟩
    rcases bind_eq_ok_iff.mp assigned with ⟨_, _, same⟩
    cases same
    simp only [runCommand, stepped, workspace_of_stepTo led]

/-- Under a name that nothing has there is nothing to assign to. -/
theorem runCommand_assign_of_unnamed {name : String} (unnamed : workspace.lookup name = none)
    (path : Path) (content : Content) :
    (workspace.runCommand (.assign name path content)).2 = workspace := by
  simp only [Workspace.runCommand, Workspace.step, Workspace.assign, find, unnamed]
  rfl

theorem assignValue_nil (workspace : Workspace) (handle : Handle Value) (content : Content) :
    orKept workspace (workspace.assignValue handle [] content) = workspace := by
  unfold assignValue
  cases workspace.get? handle with
  | none => rfl
  | some value => cases value <;> rfl

/-- An assignment to a place of a value is made in that value. -/
theorem Separated.runCommand_assign_of_value (separated : Separated workspace place)
    {name : String} {asset : Asset} (selected : workspace.lookup name = some asset)
    {path rest : Path} {value : Handle Value}
    (leads : workspace.valueWithin? asset path = some (value, rest)) (content : Content) :
    (workspace.runCommand (.assign name path content)).2 =
      orKept workspace (workspace.assignValue value rest content) := by
  by_cases empty : path = []
  · subst empty
    have nowhere : rest = [] := by
      cases asset with
      | value handle =>
        cases leads
        rfl
      | _ => cases leads
    rw [runCommand_assign_nil, nowhere, assignValue_nil]
  · rw [separated.runCommand_assign selected empty, assignInside_of_leads leads]

/-! ## Speeds -/

/-- Apart from assignments, no command that suits an asset reaches a vector, a source or a
value, and a speed only gets other values. -/
theorem owner_of_mem_reach {command : Command} {asset : Asset} (suits : command.Suits asset)
    (unassigning : forall name path content, command ≠ .assign name path content) {root : Nat}
    (reached : root ∈ workspace.reach command asset) :
    root = asset.address ∧ asset.kind ∉ [.vector, .source, .value] ∧
      (asset.kind = .speed -> Exists fun name => Exists fun member => Exists fun value =>
        command = .replaceValue name member value) := by
  cases command with
  | assign name path content => exact absurd rfl (unassigning name path content)
  | assignHandout name request path content =>
    cases request with
    | slots =>
      cases asset with
      | updateLayout handle => exact ⟨List.mem_singleton.mp reached, by simp [Asset.kind]⟩
      | _ => cases reached
    | _ => cases reached
  | addKey name ratio value =>
    cases asset with
    | gradient handle => exact ⟨List.mem_singleton.mp reached, by simp [Asset.kind]⟩
    | _ => cases suits
  | replaceSource name operand index =>
    cases asset with
    | modifier handle => exact ⟨List.mem_singleton.mp reached, by simp [Asset.kind]⟩
    | _ => cases suits
  | replaceValue name member value =>
    cases asset with
    | speed handle =>
      exact ⟨List.mem_singleton.mp reached, by simp [Asset.kind], fun _ => ⟨_, _, _, rfl⟩⟩
    | _ => cases suits
  | register name stage modifierNames =>
    cases asset with
    | effect handle => exact ⟨List.mem_singleton.mp reached, by simp [Asset.kind]⟩
    | _ => cases suits
  | apply name layoutName =>
    cases asset with
    | initLayout handle => exact ⟨List.mem_singleton.mp reached, by simp [Asset.kind]⟩
    | updateLayout handle => exact ⟨List.mem_singleton.mp reached, by simp [Asset.kind]⟩
    | renderLayout handle => exact ⟨List.mem_singleton.mp reached, by simp [Asset.kind]⟩
    | _ => cases suits
  | _ => cases suits

/-- The speed as it is seen after a command. -/
def speedAfter (workspace : Workspace) (handle : Handle StoredSpeed) (stored : StoredSpeed)
    (seen : Speed) (command : Command) : Speed :=
  match command with
  | .assign name path content =>
    match (workspace.lookup name).bind fun other => workspace.valueWithin? other path with
    | some (value, rest) =>
      Speed.modifyEach (stored.membersWith value) (fun held => assignedValue held rest content) seen
    | none => seen
  | command =>
    match workspace.valueReplaced? handle command with
    | some (member, value) => seen.modify member fun _ => value
    | none => seen

/-- What is read with a speed is the speed itself, and values. -/
theorem Sound.kindAt?_of_mem_speedRoots (sound : Sound workspace place)
    {handle : Handle StoredSpeed} (lies : Lies workspace place handle (.alone handle.address))
    {root : Nat} (member : root ∈ workspace.speedRoots handle) :
    root = handle.address ∨ workspace.kindAt? root = some .value := by
  rcases lies.exists_get? with ⟨stored, present⟩
  rcases (mem_speedRoots present).mp member with same | ⟨held, inside, rfl⟩
  · exact .inl same
  · exact .inr (sound.speedFits lies present held inside).kind

/-- What no root of a change is read with a speed is seen of it as before. -/
theorem Kept.loadSpeed? {roots registered : List Nat} {bound : List String}
    {changed : Workspace} {place' : Placement}
    (kept : Kept roots registered bound workspace place changed place')
    (sound : Sound workspace place) {handle : Handle StoredSpeed}
    (lies : Lies workspace place handle (.alone handle.address))
    (apart : forall root, root ∈ roots ->
      root ≠ handle.address ∧ workspace.kindAt? root ≠ some .value) :
    changed.loadSpeed? handle = workspace.loadSpeed? handle := by
  have agrees : Agrees (fun spot => spot.root ∉ roots) workspace place changed :=
    kept.changes.agrees _ fun _ outside inside => outside inside
  refine agrees.loadSpeed? sound lies fun root shared member => ?_
  rcases sound.kindAt?_of_mem_speedRoots lies shared with same | value
  · exact (apart root member).1 same
  · exact (apart root member).2 value

/-- What is at the address of an asset is of no kind but its own. -/
theorem AssetLies.kindAt?_ne {asset : Asset} (lies : AssetLies workspace place asset) {kind : Kind}
    (different : asset.kind ≠ kind) : workspace.kindAt? asset.address ≠ some kind := fun same =>
  different (Option.some.inj (lies.kindAt?.symm.trans same))

theorem AssetLies.address_ne {asset : Asset} (lies : AssetLies workspace place asset)
    {handle : Handle StoredSpeed} {spot : Place} (liesSpeed : Lies workspace place handle spot)
    (different : asset.kind ≠ .speed) : asset.address ≠ handle.address := fun same =>
  lies.kindAt?_ne different (same ▸ liesSpeed.kind)

/-- A member of a speed can refer to a value that is there. -/
theorem loadSpeed?_setMember {handle : Handle StoredSpeed} {stored : StoredSpeed}
    (present : workspace.get? handle = some stored) {seen : Speed}
    (loaded : workspace.loadSpeed? handle = some seen) {replacement : Handle Value} {value : Value}
    (found : workspace.get? replacement = some value) (member : String) :
    (workspace.set handle (stored.modify member fun _ => replacement)).loadSpeed? handle =
      some (seen.modify member fun _ => value) := by
  have kept {other : Handle Value} {held : Value} (presentValue : workspace.get? other = some held) :
      (workspace.set handle (stored.modify member fun _ => replacement)).get? other = some held :=
    (get?_set_ne workspace (address_ne_of_kindAt? (kindAt?_of_get? present)
      (kindAt?_of_get? presentValue) (by decide)) _).trans presentValue
  refine (loadSpeed?_eq_some_iff (get?_set_self present _)).mpr (Speed.Matches.modify ?_ member
    fun _ _ _ => kept found)
  exact ((loadSpeed?_eq_some_iff present).mp loaded).mono fun _ _ _ => kept

/-- A value that takes the place of another one is the one of its operand. -/
theorem Separated.exists_valueContents (separated : Separated workspace place)
    {operand : ValueOperand} {result : Workspace × Handle Value}
    (found : workspace.valueHandle operand = .ok result) :
    Exists fun value => workspace.valueContents operand = .ok value := by
  cases operand with
  | given value => exact ⟨value, rfl⟩
  | named name =>
    rcases bind_eq_ok_iff.mp found with ⟨handle, named, _⟩
    have lies : Lies workspace place handle (.alone handle.address) :=
      separated.named name _ (lookup_of_findValue named)
    rcases lies.exists_get? with ⟨value, present⟩
    exact ⟨value, by simp only [valueContents, named, present, orUnsuitable, ok_bind]⟩

theorem findSpeed_of_lookup {name : String} {handle : Handle StoredSpeed}
    (selected : workspace.lookup name = some (.speed handle)) :
    workspace.findSpeed name = .ok handle := by
  simp only [findSpeed, find, selected, ok_bind]

/-- A replacement that can be made is made. -/
theorem Separated.runCommand_replaceValue (separated : Separated workspace place)
    {name member : String} {operand : ValueOperand} {changed : Workspace}
    (replaced : workspace.replaceValue name member operand = .ok changed) :
    (workspace.runCommand (.replaceValue name member operand)).2 = changed := by
  have kept : Exists fun place' =>
      Kept (workspace.targets (.replaceValue name member operand)) [] [] workspace place changed
        place' := separated.replaceValue replaced
  rcases kept with ⟨place', kept⟩
  rcases bind_eq_ok_iff.mp replaced with ⟨handle, named, _⟩
  have selected := (kept.lookup_eq name List.not_mem_nil).trans (lookup_of_findSpeed named)
  rcases kept.separated.sound.exists_view (kept.separated.named name _ selected) with
    ⟨observation, observed⟩
  simp only [Workspace.runCommand, Workspace.step, replaced, ok_bind, stepTo,
    observe_of_lookup selected, observed]
  rfl

section

variable (separated : Separated workspace place) {handle : Handle StoredSpeed}
  (lies : Lies workspace place handle (.alone handle.address)) {stored : StoredSpeed}
  (present : workspace.get? handle = some stored) {seen : Speed}
  (loaded : workspace.loadSpeed? handle = some seen)
include separated lies loaded

/-- A command that reaches neither the speed nor a value leaves what is seen of the speed. -/
theorem Separated.loadSpeed?_untouched {command : Command}
    (apart : forall {step : Step} {asset : Asset} {root : Nat}, workspace.step command = .ok step ->
      AssetLies workspace place asset -> workspace.directed? command = some asset ->
      root ∈ workspace.reach command asset ->
      root ≠ handle.address ∧ workspace.kindAt? root ≠ some .value) :
    (workspace.runCommand command).2.loadSpeed? handle = some seen := by
  cases stepped : workspace.step command with
  | error failure =>
    simp only [Workspace.runCommand, stepped]
    exact loaded
  | ok step =>
    rcases separated.step stepped with ⟨_, kept⟩
    simp only [Workspace.runCommand, stepped]
    refine (kept.loadSpeed? separated.sound lies fun root member => ?_).trans loaded
    rcases separated.exists_directed_of_mem_targets member with
      ⟨asset, liesAsset, directed, reached⟩
    exact apart stepped liesAsset directed reached

include present in
theorem Separated.loadSpeed?_assign (name : String) (path : Path) (content : Content) :
    (workspace.runCommand (.assign name path content)).2.loadSpeed? handle =
      some (workspace.speedAfter handle stored seen (.assign name path content)) := by
  cases selected : workspace.lookup name with
  | none =>
    rw [runCommand_assign_of_unnamed selected, speedAfter, selected, Option.bind_none]
    exact loaded
  | some asset =>
    have liesAsset := separated.named name asset selected
    rw [speedAfter, selected, Option.bind_some]
    cases leads : workspace.valueWithin? asset path with
    | some found =>
      rcases found with ⟨value, rest⟩
      rw [separated.runCommand_assign_of_value selected leads]
      exact separated.sound.loadSpeed?_assignsValue lies present loaded
        (separated.value_lies liesAsset leads) rest content
    | none =>
      refine separated.loadSpeed?_untouched lies loaded
        fun {_ other root} _ _ directed reached => ?_
      cases directed.symm.trans selected
      have valueless : root ∉ workspace.valueRoots asset path := by
        simp only [valueRoots, leads, Option.toList_none, List.map_nil, List.not_mem_nil,
          not_false_eq_true]
      rcases separated.mem_assignRoots liesAsset reached with ⟨rfl, kinds⟩ | ⟨_, vector⟩ | valued
      · have unshared : asset.kind ≠ .speed := fun same => kinds (by simp [same])
        have unvalued : asset.kind ≠ .value := fun same => kinds (by simp [same])
        exact ⟨liesAsset.address_ne lies unshared, liesAsset.kindAt?_ne unvalued⟩
      · refine ⟨fun same => ?_, fun value => ?_⟩
        · rw [same, lies.kind] at vector
          cases vector
        · cases vector.symm.trans value
      · exact absurd valued valueless

/-- Another value for a member of one speed is not seen of any other speed. -/
theorem Separated.loadSpeed?_replaceValue_ne {name : String}
    (different : workspace.lookup name ≠ some (.speed handle)) (member : String)
    (operand : ValueOperand) :
    (workspace.runCommand (.replaceValue name member operand)).2.loadSpeed? handle = some seen := by
  refine separated.loadSpeed?_untouched lies loaded
    fun {_ asset _} stepped liesAsset directed reached => ?_
  cases asset with
  | speed other =>
    rw [List.mem_singleton.mp reached]
    refine ⟨fun same => different ?_, fun value => ?_⟩
    · have sameAsset : Asset.speed other = .speed handle := Asset.eq_of_kind_of_address rfl same
      exact sameAsset ▸ directed
    · exact liesAsset.kindAt?_ne Kind.noConfusion value
  | _ => cases suits_of_step stepped directed

omit lies in
include present in
/-- A member that a speed does not have gets no value. -/
theorem Separated.loadSpeed?_replaceValue {name : String}
    (selected : workspace.lookup name = some (.speed handle)) {member : String}
    {operand : ValueOperand} :
    (workspace.runCommand (.replaceValue name member operand)).2.loadSpeed? handle =
      some (workspace.speedAfter handle stored seen (.replaceValue name member operand)) := by
  have stays (refused : forall changed, workspace.replaceValue name member operand ≠ .ok changed) :
      (workspace.runCommand (.replaceValue name member operand)).2.loadSpeed? handle = some seen := by
    cases stepped : workspace.step (.replaceValue name member operand) with
    | error failure =>
      simp only [Workspace.runCommand, stepped]
      exact loaded
    | ok step =>
      rcases bind_eq_ok_iff.mp stepped with ⟨changed, replaced, _⟩
      exact absurd replaced (refused changed)
  simp only [speedAfter, valueReplaced?, if_pos selected]
  cases read : workspace.valueContents operand with
  | error failure =>
    refine stays fun changed replaced => ?_
    rcases bind_eq_ok_iff.mp replaced with ⟨_, _, loading⟩
    rcases bind_eq_ok_iff.mp loading with ⟨_, _, selecting⟩
    rcases bind_eq_ok_iff.mp selecting with ⟨_, _, making⟩
    rcases bind_eq_ok_iff.mp making with ⟨_, foundValue, _⟩
    rcases separated.exists_valueContents foundValue with ⟨_, held⟩
    cases read.symm.trans held
  | ok value =>
    change _ = some (seen.modify member fun _ => value)
    cases held : stored.members.lookup member with
    | none =>
      rw [((loadSpeed?_eq_some_iff present).mp loaded).modify_of_missing held]
      refine stays fun changed replaced => ?_
      simp only [Workspace.replaceValue, findSpeed_of_lookup selected, present, orUnsuitable,
        ok_bind, held] at replaced
      cases replaced
    | some old =>
      rcases (Extends.refl workspace).exists_valueHandle read with
        ⟨final, replacement, foundValue, more, found⟩
      have replaced : workspace.replaceValue name member operand =
          .ok (final.set handle (stored.modify member fun _ => replacement)) := by
        simp only [Workspace.replaceValue, findSpeed_of_lookup selected, present, orUnsuitable,
          ok_bind, held, foundValue]
        rfl
      rw [separated.runCommand_replaceValue replaced]
      exact loadSpeed?_setMember (more.get? present) (more.loadSpeed? loaded) found member

include present in
/-- What is seen of a speed after a command. -/
theorem Separated.loadSpeed?_runCommand (command : Command) :
    (workspace.runCommand command).2.loadSpeed? handle =
      some (workspace.speedAfter handle stored seen command) := by
  by_cases assigns : Exists fun name => Exists fun path => Exists fun content =>
      command = .assign name path content
  · rcases assigns with ⟨name, path, content, rfl⟩
    exact separated.loadSpeed?_assign lies present loaded name path content
  by_cases replaces : Exists fun name => Exists fun member => Exists fun value =>
      command = .replaceValue name member value
  · rcases replaces with ⟨name, member, value, rfl⟩
    by_cases selected : workspace.lookup name = some (.speed handle)
    · exact separated.loadSpeed?_replaceValue present loaded selected
    · rw [separated.loadSpeed?_replaceValue_ne lies loaded selected]
      simp only [speedAfter, valueReplaced?, if_neg selected]
  · have same : workspace.speedAfter handle stored seen command = seen := by
      cases command with
      | assign name path content => exact absurd ⟨_, _, _, rfl⟩ assigns
      | replaceValue name member value => exact absurd ⟨_, _, _, rfl⟩ replaces
      | _ => rfl
    rw [same]
    refine separated.loadSpeed?_untouched lies loaded
      fun {_ asset root} stepped liesAsset directed reached => ?_
    have unassigning (name : String) (path : Path) (content : Content) :
        command ≠ .assign name path content := fun same => assigns ⟨name, path, content, same⟩
    rcases owner_of_mem_reach (suits_of_step stepped directed) unassigning reached with
      ⟨rfl, kinds, speeds⟩
    have speedless : asset.kind ≠ .speed := fun same => replaces (speeds same)
    have valueless : asset.kind ≠ .value := fun same => kinds (by simp [same])
    exact ⟨liesAsset.address_ne lies speedless, liesAsset.kindAt?_ne valueless⟩

end

end Workspace
end ParticleEffects
