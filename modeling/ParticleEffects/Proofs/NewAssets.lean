import ParticleEffects.Proofs.AddedKeys
import ParticleEffects.Proofs.AssignedContents
import ParticleEffects.Proofs.SlotHistory

namespace ParticleEffects

/-!
What is seen of an asset that was just made.

The contents of a new asset are those that the parts of its draft have when it is made.
It is an object that nothing was called by before, and so are its parts, with exceptions
that are meant: the gradient that is seen of a color or size modifier and the speed that
is seen of a position modifier may be those of a name, as may the values of a speed.
-/

open Spatial ForceField Spawn

namespace Spawn

variable {Entries Rate Target Loaded : Type} {load load' : Entries -> Option Target}
  {loadSpeed loadSpeed' : Rate -> Option Loaded}

/-- What loads keeps loading where more can be loaded. -/
theorem Shape.mapM?_mono (more : forall entries loaded, load entries = some loaded ->
    load' entries = some loaded) {shape : Shape Entries} {loaded : Shape Target}
    (loads : shape.mapM? load = some loaded) : shape.mapM? load' = some loaded := by
  cases shape with
  | cube extents =>
    rcases Option.map_eq_some_iff.mp loads with ⟨found, foundExtents, rfl⟩
    exact congrArg (Option.map _) (more _ _ foundExtents)
  | _ => exact loads

theorem Spawner.mapM?_mono (more : forall entries loaded, load entries = some loaded ->
    load' entries = some loaded) (moreSpeeds : forall rate loaded, loadSpeed rate = some loaded ->
    loadSpeed' rate = some loaded) {spawner : Spawner Entries Rate} {loaded : Spawner Target Loaded}
    (loads : spawner.mapM? load loadSpeed = some loaded) :
    spawner.mapM? load' loadSpeed' = some loaded := by
  rcases Spawner.mapM?_eq_some_iff.mp loads with ⟨shape, center, rotation, speed, dimension⟩
  exact Spawner.mapM?_eq_some_iff.mpr ⟨Shape.mapM?_mono more shape, more _ _ center,
    more _ _ rotation, moreSpeeds _ _ speed, dimension⟩

end Spawn

namespace Workspace

/-! ## Contents -/

section

variable (workspace : Workspace)

/-- What a source holds that has the vector of an operand as its position. -/
def vectorContents : VectorOperand -> Except Failure Components
  | .given entries => .ok entries
  | .named name => do orUnsuitable (workspace.get? (<- workspace.findVector name))

/-- What a modifier holds that shows the gradient of an operand. -/
def gradientContents : GradientOperand -> Except Failure AnyGradient
  | .given draft => workspace.readGradient draft
  | .named name => do orUnsuitable (workspace.loadGradient? (<- workspace.findGradient name))

/-- The value that a speed refers to as an operand. -/
def valueContents : ValueOperand -> Except Failure Value
  | .given value => .ok value
  | .named name => do orUnsuitable (workspace.get? (<- workspace.findValue name))

/-- What a modifier holds that shows the speed of an operand. -/
def speedContents : SpeedOperand -> Except Failure Speed
  | .given draft => draft.mapM workspace.valueContents
  | .named name => do orUnsuitable (workspace.loadSpeed? (<- workspace.findSpeed name))

/-- What a modifier that is made of a draft holds.  The hooks of a custom modifier are kept
by its maker. -/
def modifierContents : ModifierDraft -> Except Failure LoadedModifier
  | .position draft => do
    let speed <- workspace.speedContents (speedOperand draft)
    return .position (<- workspace.readSpawner draft speed)
  | .accel operand => do return .accel ((<- workspace.components operand).copy 3)
  | .forceField operands => do
    let sources <- operands.mapM workspace.readSource
    let slots <- (Slots.ofSources sources).mapError .slots
    return .forceField slots
  | .texture handle => .ok (.texture handle)
  | .color operand => do return .color (<- workspace.gradientContents operand)
  | .size operand => do return .size (<- workspace.gradientContents operand)
  | .custom _ | .hooks _ => .error .unsuitable

/-- What is seen of a source, a gradient or a modifier that is made of a draft, from what
its operands hold now. -/
def contents : Draft -> Except Failure Observation
  | .source (.given draft) => do
    return .source (draft.at (<- workspace.vectorContents draft.positionOperand))
  | .gradient (.given draft) => do return .gradient (<- workspace.readGradient draft)
  | .modifier draft => do return .modifier (<- workspace.modifierContents draft)
  | _ => .error .unsuitable

end

variable {workspace : Workspace} {place : Placement}

theorem isTold_of_modifierContents {draft : ModifierDraft} {loaded : LoadedModifier}
    (read : workspace.modifierContents draft = .ok loaded) : (Observation.modifier loaded).IsTold := by
  cases draft with
  | custom hooks => cases read
  | hooks hooks => cases read
  | texture texture => cases read; trivial
  | position draft =>
    rcases bind_eq_ok_iff.mp read with ⟨_, _, rest⟩
    rcases bind_eq_ok_iff.mp rest with ⟨_, _, same⟩
    cases same
    trivial
  | forceField operands =>
    rcases bind_eq_ok_iff.mp read with ⟨_, _, rest⟩
    rcases bind_eq_ok_iff.mp rest with ⟨_, _, same⟩
    cases same
    trivial
  | _ =>
    rcases bind_eq_ok_iff.mp read with ⟨_, _, same⟩
    cases same
    trivial

theorem isTold_of_contents {draft : Draft} {observation : Observation}
    (read : workspace.contents draft = .ok observation) : observation.IsTold := by
  cases draft with
  | source operand =>
    cases operand with
    | given draft =>
      rcases bind_eq_ok_iff.mp read with ⟨_, _, same⟩
      cases same
      trivial
    | named name => cases read
  | gradient operand =>
    cases operand with
    | given draft =>
      rcases bind_eq_ok_iff.mp read with ⟨_, _, same⟩
      cases same
      trivial
    | named name => cases read
  | modifier draft =>
    rcases bind_eq_ok_iff.mp read with ⟨loaded, held, same⟩
    cases same
    exact isTold_of_modifierContents held
  | _ => cases read

/-! ## New objects -/

/-- All is as it was, and more may have come. -/
structure Extends (workspace extended : Workspace) : Prop where
  objects : forall (address : Nat) (object : Object),
    workspace.objects[address]? = some object -> extended.objects[address]? = some object
  names_eq : extended.names = workspace.names

theorem Extends.refl (workspace : Workspace) : Extends workspace workspace where
  objects _ _ present := present
  names_eq := rfl

theorem extends_add {α : Type} [Storable α] (workspace : Workspace) (content : α) :
    Extends workspace (workspace.add content).1 where
  objects address object present := by
    rw [getElem?_add, if_neg (Nat.ne_of_lt (Array.getElem?_eq_some_iff.mp present).choose)]
    exact present
  names_eq := rfl

section

variable {extended final : Workspace}

theorem Extends.trans (first : Extends workspace extended) (second : Extends extended final) :
    Extends workspace final where
  objects _ _ present := second.objects _ _ (first.objects _ _ present)
  names_eq := second.names_eq.trans first.names_eq

theorem Extends.add {α : Type} [Storable α] (first : Extends workspace extended) (content : α) :
    Extends workspace (extended.add content).1 :=
  first.trans (extends_add extended content)

theorem Extends.size_le (first : Extends workspace extended) :
    workspace.objects.size <= extended.objects.size := by
  by_contra more
  have present := Array.getElem?_eq_getElem (Nat.lt_of_not_le more)
  exact absurd (Array.getElem?_eq_some_iff.mp (first.objects _ _ present)).choose
    (Nat.lt_irrefl _)

theorem Extends.get? {α : Type} [Storable α] (first : Extends workspace extended)
    {handle : Handle α} {content : α} (present : workspace.get? handle = some content) :
    extended.get? handle = some content :=
  get?_eq_some_iff.mpr (first.objects _ _ (get?_eq_some_iff.mp present))

theorem Extends.loadSpeed? (first : Extends workspace extended) {handle : Handle StoredSpeed}
    {speed : Speed} (found : workspace.loadSpeed? handle = some speed) :
    extended.loadSpeed? handle = some speed := by
  rcases Option.bind_eq_some_iff.mp found with ⟨stored, present, loads⟩
  rw [loadSpeed?_of_get? (first.get? present)]
  exact Speed.mapM_eq_some_iff.mpr ((Speed.mapM_eq_some_iff.mp loads).mono
    fun _ _ _ held => first.get? held)

theorem Extends.findValue (first : Extends workspace extended) (name : String) :
    extended.findValue name = workspace.findValue name := by
  simp only [Workspace.findValue, find, lookup, first.names_eq]

end

/-- The vectors of a spawner are loaded as they were stored. -/
theorem mapM?_addSpawner {Rate Loaded : Type} (workspace : Workspace)
    (spawner : Spawner Components Rate) :
    Extends workspace (workspace.addSpawner spawner).1 ∧
      forall (loadSpeed : Rate -> Option Loaded) {speed : Loaded},
        loadSpeed spawner.speed = some speed ->
        (workspace.addSpawner spawner).2.mapM? (workspace.addSpawner spawner).1.get? loadSpeed =
          some (spawner.withSpeed speed) := by
  have shape : Extends workspace (workspace.addShape spawner.shape).1 ∧
      (workspace.addShape spawner.shape).2.mapM? (workspace.addShape spawner.shape).1.get? =
        some spawner.shape := by
    cases spawner.shape with
    | cube extents =>
      exact ⟨extends_add _ _, congrArg (Option.map _) (get?_add_self workspace extents)⟩
    | _ => exact ⟨.refl _, rfl⟩
  simp only [addSpawner]
  generalize workspace.addShape spawner.shape = shaped at shape ⊢
  refine ⟨(shape.1.add _).add _, fun loadSpeed speed found => Spawner.mapM?_eq_some_iff.mpr
    ⟨?_, ?_, get?_add_self _ _, found, rfl⟩⟩
  · exact Shape.mapM?_mono (fun _ _ found => (extends_add _ _).get? ((extends_add _ _).get? found))
      shape.2
  · exact (extends_add _ _).get? (get?_add_self _ _)

/-! ## Speeds -/

section

variable {extended : Workspace}

/-- The value of an operand is there or is made, also behind others. -/
theorem Extends.exists_valueHandle (first : Extends workspace extended) {operand : ValueOperand}
    {value : Value} (read : workspace.valueContents operand = .ok value) :
    Exists fun final => Exists fun handle =>
      extended.valueHandle operand = .ok (final, handle) ∧ Extends extended final ∧
      final.get? handle = some value := by
  cases operand with
  | given value =>
    cases read
    exact ⟨_, _, rfl, extends_add _ _, get?_add_self _ _⟩
  | named name =>
    rcases bind_eq_ok_iff.mp read with ⟨handle, named, held⟩
    refine ⟨_, handle, ?_, .refl _, first.get? (orUnsuitable_eq_ok_iff.mp held)⟩
    simp only [Workspace.valueHandle, first.findValue, named, ok_bind]
    rfl

/-- The three values of a direction, one after the other. -/
theorem exists_valueHandle_three {x y z : ValueOperand} {first second third : Value}
    (readX : workspace.valueContents x = .ok first) (readY : workspace.valueContents y = .ok second)
    (readZ : workspace.valueContents z = .ok third) :
    Exists fun foundX => Exists fun foundY => Exists fun foundZ : Workspace × Handle Value =>
      workspace.valueHandle x = .ok foundX ∧ foundX.1.valueHandle y = .ok foundY ∧
      foundY.1.valueHandle z = .ok foundZ ∧ Extends workspace foundZ.1 ∧
      foundZ.1.get? foundX.2 = some first ∧ foundZ.1.get? foundY.2 = some second ∧
      foundZ.1.get? foundZ.2 = some third := by
  rcases (Extends.refl workspace).exists_valueHandle readX with ⟨_, _, foundX, moreX, heldX⟩
  rcases moreX.exists_valueHandle readY with ⟨_, _, foundY, moreY, heldY⟩
  rcases (moreX.trans moreY).exists_valueHandle readZ with ⟨_, _, foundZ, moreZ, heldZ⟩
  exact ⟨_, _, _, foundX, foundY, foundZ, (moreX.trans moreY).trans moreZ,
    moreZ.get? (moreY.get? heldX), moreZ.get? heldY, heldZ⟩

theorem exists_valueHandles {draft : Speed ValueOperand} {speed : Speed}
    (read : draft.mapM workspace.valueContents = .ok speed) :
    Exists fun final => Exists fun stored =>
      workspace.valueHandles draft = .ok (final, stored) ∧ Extends workspace final ∧
      Speed.Matches (fun handle value => final.get? handle = some value) stored speed := by
  cases draft with
  | normal operand =>
    rcases bind_eq_ok_iff.mp read with ⟨value, readValue, same⟩
    cases same
    rcases (Extends.refl workspace).exists_valueHandle readValue with ⟨_, _, found, more, held⟩
    exact ⟨_, _, by simp only [valueHandles, found, ok_bind]; rfl, more, .normal held⟩
  | radial operand =>
    rcases bind_eq_ok_iff.mp read with ⟨value, readValue, same⟩
    cases same
    rcases (Extends.refl workspace).exists_valueHandle readValue with ⟨_, _, found, more, held⟩
    exact ⟨_, _, by simp only [valueHandles, found, ok_bind]; rfl, more, .radial held⟩
  | frame x y z =>
    rcases bind_eq_ok_iff.mp read with ⟨_, readX, others⟩
    rcases bind_eq_ok_iff.mp others with ⟨_, readY, last⟩
    rcases bind_eq_ok_iff.mp last with ⟨_, readZ, same⟩
    cases same
    rcases exists_valueHandle_three readX readY readZ with
      ⟨_, _, _, foundX, foundY, foundZ, more, heldX, heldY, heldZ⟩
    exact ⟨_, _, by simp only [valueHandles, foundX, foundY, foundZ, ok_bind]; rfl, more,
      .frame heldX heldY heldZ⟩
  | world x y z =>
    rcases bind_eq_ok_iff.mp read with ⟨_, readX, others⟩
    rcases bind_eq_ok_iff.mp others with ⟨_, readY, last⟩
    rcases bind_eq_ok_iff.mp last with ⟨_, readZ, same⟩
    cases same
    rcases exists_valueHandle_three readX readY readZ with
      ⟨_, _, _, foundX, foundY, foundZ, more, heldX, heldY, heldZ⟩
    exact ⟨_, _, by simp only [valueHandles, foundX, foundY, foundZ, ok_bind]; rfl, more,
      .world heldX heldY heldZ⟩

theorem exists_speedHandle {operand : SpeedOperand} {speed : Speed}
    (read : workspace.speedContents operand = .ok speed) :
    Exists fun final => Exists fun handle =>
      workspace.speedHandle operand = .ok (final, handle) ∧ Extends workspace final ∧
      final.loadSpeed? handle = some speed := by
  cases operand with
  | given draft =>
    rcases exists_valueHandles read with ⟨final, stored, found, more, loads⟩
    refine ⟨_, _, by simp only [speedHandle, found, ok_bind]; rfl, more.add stored, ?_⟩
    exact (loadSpeed?_eq_some_iff (get?_add_self _ _)).mpr
      (loads.mono fun _ _ _ held => (extends_add _ _).get? held)
  | named name =>
    rcases bind_eq_ok_iff.mp read with ⟨handle, named, held⟩
    exact ⟨_, handle, by simp only [speedHandle, named, ok_bind]; rfl, .refl _,
      orUnsuitable_eq_ok_iff.mp held⟩

end

/-- The vectors of a spawner do not depend on its speed. -/
theorem readSpawner_withSpeed {Rate Other : Type} {draft : SpawnerDraft} {speed : Rate}
    {spawner : Spawner Components Rate} (read : workspace.readSpawner draft speed = .ok spawner)
    (other : Other) : workspace.readSpawner draft other = .ok (spawner.withSpeed other) := by
  rcases bind_eq_ok_iff.mp read with ⟨_, foundShape, others⟩
  rcases bind_eq_ok_iff.mp others with ⟨_, foundCenter, last⟩
  rcases bind_eq_ok_iff.mp last with ⟨_, foundRotation, same⟩
  cases same
  simp only [Workspace.readSpawner, foundShape, foundCenter, foundRotation, ok_bind]
  rfl

/-- A gradient that is added is new, and what was added is loaded. -/
theorem Sound.addGradient_new (sound : Sound workspace place) (any : AnyGradient) :
    workspace.objects.size <= (workspace.addGradient any).2.address ∧
      (workspace.addGradient any).1.loadGradient? (workspace.addGradient any).2 = some any := by
  have nested : ((Place.alone 0).inner .slots).parts ≠ [] := by simp
  rcases sound.addValues any _ fun root => absurd root nested with ⟨_, values⟩
  rcases sound.addGradient any _ fun root => absurd root nested with ⟨_, _, loaded⟩
  exact ⟨values.evolves.changes.size_le, loaded⟩

theorem Separated.exists_gradientHandle (separated : Separated workspace place)
    {operand : GradientOperand} {any : AnyGradient}
    (read : workspace.gradientContents operand = .ok any) :
    Exists fun extended => Exists fun handle =>
      workspace.gradientHandle operand = .ok (extended, handle) ∧
      workspace.objects.size <= extended.objects.size ∧
      forall stored : StoredModifier,
        (extended.add stored).1.loadGradient? handle = some any := by
  have found : Exists fun extended => Exists fun handle =>
      workspace.gradientHandle operand = .ok (extended, handle) ∧
      extended.loadGradient? handle = some any := by
    cases operand with
    | given draft =>
      have drafted : workspace.readGradient draft = .ok any := read
      exact ⟨_, _, by simp only [Workspace.gradientHandle, drafted, ok_bind]; rfl,
        (separated.sound.addGradient_new any).2⟩
    | named name =>
      rcases bind_eq_ok_iff.mp read with ⟨handle, named, held⟩
      exact ⟨_, handle, by simp only [Workspace.gradientHandle, named, ok_bind]; rfl,
        orUnsuitable_eq_ok_iff.mp held⟩
  rcases found with ⟨extended, handle, found, loaded⟩
  rcases separated.gradientHandle found with ⟨place', made⟩
  refine ⟨extended, handle, found, made.grown.size_le, fun stored => ?_⟩
  exact ((changes_add extended place' stored (.alone 0)).grows.loadGradient? Region.inward_everywhere
    made.grown.separated.sound made.lies trivial).trans loaded

/-- A modifier that is made shows its contents. -/
theorem Separated.exists_readModifier (separated : Separated workspace place) (label : String)
    {draft : ModifierDraft} {loaded : LoadedModifier}
    (read : workspace.modifierContents draft = .ok loaded) :
    Exists fun extended => Exists fun stored =>
      workspace.readModifier label draft = .ok (extended, stored) ∧
      workspace.objects.size <= extended.objects.size ∧
      (extended.add stored).1.loadModifier? stored = some loaded := by
  cases draft with
  | position draft =>
    rcases bind_eq_ok_iff.mp read with ⟨speed, readSpeed, reading⟩
    rcases bind_eq_ok_iff.mp reading with ⟨spawner, readSpawner, same⟩
    cases same
    rcases exists_speedHandle readSpeed with ⟨extended, handle, found, more, loadsSpeed⟩
    have readAgain := readSpawner_withSpeed readSpawner handle
    rcases mapM?_addSpawner extended (spawner.withSpeed handle) with ⟨added, loads⟩
    refine ⟨_, _, by simp only [Workspace.readModifier, found, readAgain, ok_bind]; rfl,
      (more.trans added).size_le, ?_⟩
    have round : (spawner.withSpeed handle).withSpeed speed = spawner := by
      rw [← speed_of_readSpawner readSpawner]
      rfl
    have loaded := loads _ (added.loadSpeed? loadsSpeed)
    rw [round] at loaded
    exact congrArg (Option.map _) (Spawner.mapM?_mono (fun _ _ => (extends_add _ _).get?)
      (fun _ _ => (extends_add _ _).loadSpeed?) loaded)
  | accel operand =>
    rcases bind_eq_ok_iff.mp read with ⟨entries, found, same⟩
    cases same
    refine ⟨_, _, by simp only [Workspace.readModifier, found, ok_bind]; rfl,
      (extends_add _ _).size_le, ?_⟩
    exact congrArg (Option.map _) ((extends_add _ _).get? (get?_add_self _ _))
  | forceField operands =>
    rcases bind_eq_ok_iff.mp read with ⟨sources, found, rest⟩
    rcases bind_eq_ok_iff.mp rest with ⟨slots, accepted, same⟩
    cases same
    rcases separated.sound.addSlots (layoutSlots slots.toList) ((Place.alone 0).inner .store)
      fun _ => complete_layoutSlots slots with ⟨_, evolves, _, _⟩
    refine ⟨_, _, by simp only [Workspace.readModifier, found, accepted, ok_bind]; rfl,
      evolves.changes.size_le, ?_⟩
    exact congrArg (Option.map _) (separated.sound.loadField?_addSlots rfl)
  | texture texture =>
    cases read
    exact ⟨_, _, rfl, Nat.le_refl _, rfl⟩
  | color operand =>
    rcases bind_eq_ok_iff.mp read with ⟨any, held, same⟩
    cases same
    rcases separated.exists_gradientHandle held with ⟨extended, handle, found, grown, loads⟩
    refine ⟨_, _, by simp only [Workspace.readModifier, found, ok_bind]; rfl, grown, ?_⟩
    exact congrArg (Option.map _) (loads (.color handle : StoredModifier))
  | size operand =>
    rcases bind_eq_ok_iff.mp read with ⟨any, held, same⟩
    cases same
    rcases separated.exists_gradientHandle held with ⟨extended, handle, found, grown, loads⟩
    refine ⟨_, _, by simp only [Workspace.readModifier, found, ok_bind]; rfl, grown, ?_⟩
    exact congrArg (Option.map _) (loads (.size handle : StoredModifier))
  | custom hooks => cases read
  | hooks hooks => cases read

theorem exists_vectorHandle {operand : VectorOperand} {entries : Components}
    (read : workspace.vectorContents operand = .ok entries) :
    Exists fun extended => Exists fun handle =>
      workspace.vectorHandle operand = .ok (extended, handle) ∧
      workspace.objects.size <= extended.objects.size ∧ extended.get? handle = some entries := by
  cases operand with
  | given entries =>
    cases read
    exact ⟨_, _, rfl, by simp, get?_add_self _ _⟩
  | named name =>
    rcases bind_eq_ok_iff.mp read with ⟨handle, named, held⟩
    exact ⟨_, handle, by simp only [Workspace.vectorHandle, named, ok_bind]; rfl, Nat.le_refl _,
      orUnsuitable_eq_ok_iff.mp held⟩

/-- What is made of a draft that has contents shows them, and is a new object. -/
theorem Separated.exists_make (separated : Separated workspace place) (name : String)
    {draft : Draft} {observation : Observation}
    (read : workspace.contents draft = .ok observation) :
    Exists fun extended => Exists fun asset =>
      workspace.make name draft = .ok (extended, asset) ∧
      workspace.objects.size <= asset.address ∧ extended.view asset = .ok observation := by
  cases draft with
  | source operand =>
    cases operand with
    | given draft =>
      rcases bind_eq_ok_iff.mp read with ⟨entries, held, same⟩
      cases same
      rcases exists_vectorHandle held with ⟨extended, position, found, grown, present⟩
      have loaded : (extended.add (draft.at position)).1.loadSource?
          (extended.add (draft.at position)).2 = some (draft.at entries) :=
        (loadSource?_of_get? (get?_add_self _ _)).trans
          (congrArg (Option.map _) ((extends_add _ _).get? present))
      refine ⟨_, .source (extended.add (draft.at position)).2,
        by simp only [Workspace.make, found, ok_bind]; rfl, grown, ?_⟩
      simp only [view, loaded, orUnsuitable, ok_bind]
      rfl
    | named name => cases read
  | gradient operand =>
    cases operand with
    | given draft =>
      rcases bind_eq_ok_iff.mp read with ⟨any, drafted, same⟩
      cases same
      rcases separated.sound.addGradient_new any with ⟨new, loaded⟩
      exact ⟨_, .gradient (workspace.addGradient any).2,
        by simp only [Workspace.make, Workspace.gradientHandle, drafted, ok_bind]; rfl, new,
        view_gradient loaded⟩
    | named name => cases read
  | modifier draft =>
    rcases bind_eq_ok_iff.mp read with ⟨loaded, held, same⟩
    cases same
    rcases separated.exists_readModifier name held with ⟨extended, stored, found, grown, loads⟩
    exact ⟨_, .modifier (extended.add stored).2,
      by simp only [Workspace.make, found, ok_bind]; rfl, grown,
      view_modifier ((modifierAt?_of_get? (get?_add_self _ _)).trans loads)⟩
  | _ => cases read

/-- Nothing is called by the name of an asset that is new. -/
theorem Separated.lookup_ne_of_new (separated : Separated workspace place) {asset : Asset}
    (new : workspace.objects.size <= asset.address) (name : String) :
    workspace.lookup name ≠ some asset := by
  intro selected
  have old := lt_of_kindAt? (separated.named name asset selected).kindAt?
  omega

/-- Only the hooks of custom modifiers read names. -/
theorem loadModifier?_bind (name : String) (asset : Asset) {stored : StoredModifier}
    (hookless : forall hooks, stored ≠ .custom hooks) :
    (workspace.bind name asset).loadModifier? stored = workspace.loadModifier? stored := by
  cases stored with
  | custom hooks => exact absurd rfl (hookless hooks)
  | texture texture => rfl
  | _ =>
    simp only [loadModifier?, Modifier.mapM?]
    rfl

/-- Names are not seen of an asset that is told by its mutations. -/
theorem Observation.IsTold.view_bind {observation : Observation} (told : observation.IsTold)
    {asset : Asset} (seen : workspace.view asset = .ok observation) (name : String) (other : Asset) :
    (workspace.bind name other).view asset = .ok observation := by
  cases asset with
  | modifier handle =>
    rcases bind_eq_ok_iff.mp seen with ⟨loaded, found, same⟩
    cases same
    rcases Option.bind_eq_some_iff.mp (orUnsuitable_eq_ok_iff.mp found) with ⟨stored, present, held⟩
    have present' : (workspace.bind name other).get? handle = some stored := present
    have hookless : forall hooks, stored ≠ .custom hooks := by
      rintro hooks rfl
      cases held
      cases told
    refine view_modifier ((modifierAt?_of_get? present').trans ?_)
    rw [loadModifier?_bind name other hookless]
    exact held
  | _ => exact seen

end Workspace
end ParticleEffects
