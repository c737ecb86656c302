import ParticleEffects.Proofs.Mutations
import ParticleEffects.Proofs.Targets

namespace ParticleEffects

/-!
What is loaded after an assignment.

An assignment that is made in the objects of an asset is the one that is seen of it.  A
vector is assigned in place, so that the assignment is seen in whatever it is part of, and
in all sources that have it as their position.  A value is assigned in place, too, so that
the assignment is seen in every member of a speed that it is.  Nothing else is.
-/

open Spatial ForceField Spawn

namespace Spawn

variable {Entries Rate Target Loaded : Type} {load : Entries -> Option Target}
  {loadSpeed : Rate -> Option Loaded}

theorem Spawner.mapM?_eq_some_iff {spawner : Spawner Entries Rate}
    {loaded : Spawner Target Loaded} :
    spawner.mapM? load loadSpeed = some loaded ↔
      spawner.shape.mapM? load = some loaded.shape ∧ load spawner.center = some loaded.center ∧
        load spawner.rotation = some loaded.rotation ∧
        loadSpeed spawner.speed = some loaded.speed ∧ spawner.dimension = loaded.dimension := by
  simp only [Spawner.mapM?, Option.bind_eq_bind, Option.bind_eq_some_iff, Option.pure_def,
    Option.some.injEq]
  constructor
  · rintro ⟨shape, foundShape, center, foundCenter, rotation, foundRotation, speed, foundSpeed,
      rfl⟩
    exact ⟨foundShape, foundCenter, foundRotation, foundSpeed, rfl⟩
  · rintro ⟨foundShape, foundCenter, foundRotation, foundSpeed, dimension⟩
    exact ⟨_, foundShape, _, foundCenter, _, foundRotation, _, foundSpeed, by rw [dimension]⟩

theorem Shape.mapM?_eq_circle_iff {shape : Shape Entries} {radius : Float} :
    shape.mapM? load = some (.circle radius) ↔ shape = .circle radius := by
  cases shape <;> simp [Shape.mapM?]

theorem Shape.mapM?_eq_sphere_iff {shape : Shape Entries} {radius : Float} :
    shape.mapM? load = some (.sphere radius) ↔ shape = .sphere radius := by
  cases shape <;> simp [Shape.mapM?]

theorem Shape.exists_of_mapM?_cube {shape : Shape Entries} {extents : Target}
    (loads : shape.mapM? load = some (.cube extents)) :
    Exists fun held => shape = .cube held := by
  cases shape with
  | cube held => exact ⟨held, rfl⟩
  | _ => cases loads

end Spawn

namespace Workspace

/-- Whether an assignment goes unused has nothing to do with the record. -/
theorem assignUnused_map {Record Target : Type} (f : Record -> Target) (record : Record)
    (members : List String) (path : Path) :
    assignUnused (f record) members path = (assignUnused record members path).map f := by
  unfold assignUnused
  split
  · rfl
  · split <;> rfl
  · rfl

theorem assignScalar_moveTo {Position Target : Type} (source : PointSource Position)
    (position : Target) (path : Path) (content : Content) :
    assignScalar (source.moveTo position) path content =
      (assignScalar source path content).map fun changed => changed.moveTo position := by
  unfold assignScalar
  split
  case h_6 => exact assignUnused_map (fun held => held.moveTo position) source sourceMembers path
  all_goals rfl

/-- An assignment to another place than the position. -/
theorem assignedSource_of_scalar {source : LayoutSource} {path : Path}
    (scalar : ¬ Exists fun rest => path = .member "position" :: rest) {content : Content} :
    assignedSource source path content = orKept source (assignScalar source path content) := by
  unfold assignedSource
  split
  · exact absurd ⟨_, rfl⟩ scalar
  · rfl

/-- The modifiers that hold all that they show themselves. -/
def Owned : StoredModifier -> Prop
  | .accel _ | .texture _ => True
  | _ => False

section

variable {workspace : Workspace} {place : Placement}

theorem Handle.eq_of_alone {α : Type} {first second : Handle α}
    (alone : Place.alone first.address = .alone second.address) : first = second := by
  cases second
  exact congrArg Handle.mk (congrArg Place.root alone)

/-- Objects of different kinds are not the same. -/
theorem Lies.alone_ne {α β : Type} [Storable α] [Storable β] {first : Handle α} {second : Handle β}
    {spot spot' : Place} (lies : Lies workspace place first spot)
    (lies' : Lies workspace place second spot') (different : Storable.kind α ≠ Storable.kind β) :
    Place.alone first.address ≠ .alone second.address := fun same =>
  address_ne_of_kindAt? lies.kind lies'.kind different (congrArg Place.root same)

/-- A source that is part of nothing is seen with its position, wherever that is. -/
theorem Sound.positionLies (sound : Sound workspace place) {handle : Handle StoredSource}
    (lies : Lies workspace place handle (.alone handle.address)) {stored : StoredSource}
    (present : workspace.get? handle = some stored) :
    Lies workspace place stored.position (.alone stored.position.address) :=
  sound.fits lies present

theorem Agrees.loadSource?_alone {region : Region} {changed : Workspace}
    (agrees : Agrees region workspace place changed) (sound : Sound workspace place)
    {handle : Handle StoredSource} (lies : Lies workspace place handle (.alone handle.address))
    (inside : region (.alone handle.address))
    (shared : forall stored : StoredSource, workspace.get? handle = some stored ->
      region (.alone stored.position.address)) :
    changed.loadSource? handle = workspace.loadSource? handle := by
  rcases lies.exists_get? with ⟨stored, present⟩
  rw [loadSource?_of_get? present, loadSource?_of_get? ((agrees.get? lies inside).trans present),
    agrees.get? (sound.positionLies lies present) (shared stored present)]

theorem modifierAt?_position {handle : Handle StoredModifier}
    {spawner : Spawner (Handle Components) (Handle StoredSpeed)}
    (present : workspace.get? handle = some (.position spawner)) {loaded : Spawner Components}
    (loads : spawner.mapM? workspace.get? workspace.loadSpeed? = some loaded) :
    workspace.modifierAt? handle = some (.position loaded) := by
  simp only [modifierAt?_of_get? present, loadModifier?, Modifier.mapM?, loads, Option.map_some]

/-- A path that leads to a value is one to a place of that value. -/
theorem assignSpeed_of_leads {speed : Handle StoredSpeed} {path rest : Path} {value : Handle Value}
    (leads : workspace.valueOfSpeed? speed path = some (value, rest)) (content : Content) :
    workspace.assignSpeed speed path content = workspace.assignValue value rest content := by
  unfold valueOfSpeed? at leads
  split at leads
  · rcases Option.bind_eq_some_iff.mp leads with ⟨stored, present, selecting⟩
    rcases Option.bind_eq_some_iff.mp selecting with ⟨held, selected, same⟩
    cases same
    simp only [Workspace.assignSpeed, present, orUnsuitable, ok_bind, selected]
  · cases leads

theorem assignInside_of_leads {asset : Asset} {path rest : Path} {value : Handle Value}
    (leads : workspace.valueWithin? asset path = some (value, rest)) (content : Content) :
    workspace.assignInside asset path content = workspace.assignValue value rest content := by
  unfold valueWithin? at leads
  split at leads
  · cases leads
    rfl
  · exact assignSpeed_of_leads leads content
  · split at leads
    · rename_i present
      have inside := assignSpeed_of_leads leads content
      simpa only [Workspace.assignInside, Workspace.assignModifier, present, orUnsuitable, ok_bind,
        Workspace.assignSpawner] using inside
    · cases leads
  · cases leads

theorem lookup_of_astray {speed : Handle StoredSpeed} {stored : StoredSpeed}
    (present : workspace.get? speed = some stored) {name : String} {rest : Path}
    (astray : workspace.valueOfSpeed? speed (.member name :: rest) = none) :
    stored.members.lookup name = none := by
  cases selected : stored.members.lookup name with
  | none => rfl
  | some value => simp [valueOfSpeed?, present, selected] at astray

/-- A path that leads to no value is one to no place of a speed. -/
theorem assignSpeed_of_astray {speed : Handle StoredSpeed} {stored : StoredSpeed}
    (present : workspace.get? speed = some stored) {path : Path}
    (astray : workspace.valueOfSpeed? speed path = none) (content : Content) :
    orKept workspace (workspace.assignSpeed speed path content) = workspace := by
  simp only [Workspace.assignSpeed, present, orUnsuitable, ok_bind]
  split
  · rw [lookup_of_astray present astray]
    exact orKept_assignUnused _ _ _
  · exact orKept_assignUnused _ _ _

theorem assignedSpeed_of_astray {speed : Handle StoredSpeed} {stored : StoredSpeed}
    (present : workspace.get? speed = some stored) {loaded : Speed}
    (found : workspace.loadSpeed? speed = some loaded) {path : Path}
    (astray : workspace.valueOfSpeed? speed path = none) (content : Content) :
    assignedSpeed loaded path content = loaded := by
  unfold assignedSpeed
  split
  · exact ((loadSpeed?_eq_some_iff present).mp found).modify_of_missing
      (lookup_of_astray present astray) _
  · rfl

variable (sound : Sound workspace place)
include sound

/-- What is assigned to in place changes, or stays as it is where that fails. -/
theorem Sound.assigns {α : Type} [Storable α] {handle : Handle α} {spot : Place}
    (lies : Lies workspace place handle spot) {held : α} (present : workspace.get? handle = some held)
    (assigned : Except Failure α)
    (fits : forall final : α, Fits workspace place spot handle.address (Storable.object final)) :
    Evolves (· = spot) .nowhere workspace place
        (orKept workspace (assigned.map fun final => workspace.set handle final)) place ∧
      (orKept workspace (assigned.map fun final => workspace.set handle final)).get? handle =
        some (orKept held assigned) := by
  cases assigned with
  | error failure => exact ⟨Evolves.refl _ _ sound, present⟩
  | ok final =>
    exact ⟨(Evolves.refl _ _ sound).set lies final rfl (fits final), lies.get?_set_self _⟩

/-- A vector is assigned in place. -/
theorem Sound.assignsVector {handle : Handle Components} {spot : Place}
    (lies : Lies workspace place handle spot) {entries : Components}
    (present : workspace.get? handle = some entries) (path : Path) (content : Content) :
    Evolves (· = spot) .nowhere workspace place
        (orKept workspace (workspace.assignVector handle path content)) place ∧
      (orKept workspace (workspace.assignVector handle path content)).get? handle =
        some (assignedEntries entries path content) := by
  have assignment : workspace.assignVector handle path content =
      (assignComponents entries path content).map fun final => workspace.set handle final := by
    simp only [Workspace.assignVector, present, orUnsuitable, ok_bind]
    cases assignComponents entries path content <;> rfl
  rw [assignment]
  exact sound.assigns lies present _ fun _ => trivial

theorem Sound.assignsValue {handle : Handle Value} {spot : Place}
    (lies : Lies workspace place handle spot) {value : Value}
    (present : workspace.get? handle = some value) (path : Path) (content : Content) :
    Evolves (· = spot) .nowhere workspace place
        (orKept workspace (workspace.assignValue handle path content)) place ∧
      (orKept workspace (workspace.assignValue handle path content)).get? handle =
        some (assignedValue value path content) := by
  have assignment : workspace.assignValue handle path content =
      (assignNumber value path content).map fun final => workspace.set handle final := by
    simp only [Workspace.assignValue, present, orUnsuitable, ok_bind]
    cases assignNumber value path content <;> rfl
  rw [assignment]
  exact sound.assigns lies present _ fun _ => trivial

/-- An assignment to a value is seen in the members of a speed that it is. -/
theorem Sound.loadSpeed?_assignsValue {speed : Handle StoredSpeed}
    (lies : Lies workspace place speed (.alone speed.address)) {stored : StoredSpeed}
    (present : workspace.get? speed = some stored) {loaded : Speed}
    (found : workspace.loadSpeed? speed = some loaded) {value : Handle Value}
    (liesValue : Lies workspace place value (.alone value.address)) (path : Path)
    (content : Content) :
    (orKept workspace (workspace.assignValue value path content)).loadSpeed? speed =
      some (Speed.modifyEach (stored.membersWith value)
        (fun held => assignedValue held path content) loaded) := by
  rcases liesValue.exists_get? with ⟨held, presentValue⟩
  rcases sound.assignsValue liesValue presentValue path content with ⟨evolves, written⟩
  generalize orKept workspace (workspace.assignValue value path content) = changed
    at evolves written ⊢
  have agrees := evolves.changes.agrees (· ≠ .alone value.address) fun _ different same =>
    different same
  have present' := (agrees.get? lies (lies.alone_ne liesValue (by decide))).trans present
  have loads : Speed.Matches (fun member value =>
      Lies workspace place member (.alone member.address) ∧ workspace.get? member = some value)
      stored loaded :=
    ((loadSpeed?_eq_some_iff present).mp found).mono fun member _ inside held =>
      ⟨sound.speedFits lies present member inside, held⟩
  refine (loadSpeed?_eq_some_iff present').mpr (loads.modifyEach ?_ ?_)
  · rintro _ ⟨_, same⟩
    cases presentValue.symm.trans same
    exact written
  · rintro other _ different ⟨liesOther, found⟩
    exact (agrees.get? liesOther fun alone => different (Handle.eq_of_alone alone)).trans found

/-- An assignment to a vector is seen in the sources whose position it is. -/
theorem Sound.loadSource?_assignsVector {handle : Handle StoredSource}
    (lies : Lies workspace place handle (.alone handle.address)) {source : LayoutSource}
    (loaded : workspace.loadSource? handle = some source) {vector : Handle Components}
    (liesVector : Lies workspace place vector (.alone vector.address)) (path : Path)
    (content : Content) :
    (orKept workspace (workspace.assignVector vector path content)).loadSource? handle =
      some (((workspace.pathWithin? (.source handle) (.vector vector) path).map
        fun inner => assignedSource source inner content).getD source) := by
  rcases lies.exists_get? with ⟨stored, present⟩
  have position := sound.positionLies lies present
  rcases liesVector.exists_get? with ⟨entries, found⟩
  rcases sound.assignsVector liesVector found path content with ⟨evolves, written⟩
  generalize orKept workspace (workspace.assignVector vector path content) = changed
    at evolves written ⊢
  have agrees := evolves.changes.agrees (· ≠ .alone vector.address) fun _ different same =>
    different same
  have present' := (agrees.get? lies (lies.alone_ne liesVector (by decide))).trans present
  rw [loadSource?_of_get? present] at loaded
  rw [loadSource?_of_get? present', pathWithin?, positionOf?, present, Option.map_some]
  by_cases same : stored.position = vector
  · rw [if_pos (congrArg some same)]
    subst same
    rw [found] at loaded
    cases loaded
    exact congrArg (Option.map _) written
  · rw [if_neg fun both => same (Option.some.inj both), Option.map_none, Option.getD_none, ← loaded]
    exact congrArg (Option.map _) (agrees.get? position fun alone => same (Handle.eq_of_alone alone))

/-- An assignment to a number of a source is seen in it. -/
theorem Sound.loadSource?_assignsScalar {handle : Handle StoredSource}
    (lies : Lies workspace place handle (.alone handle.address)) {stored : StoredSource}
    (present : workspace.get? handle = some stored) {source : LayoutSource}
    (loaded : workspace.loadSource? handle = some source) (path : Path) (content : Content) :
    (orKept workspace ((assignScalar stored path content).map
      fun changed => workspace.set handle changed)).loadSource? handle =
        some (orKept source (assignScalar source path content)) := by
  have position := sound.positionLies lies present
  have loads := (loadSource?_of_get? present).symm.trans loaded
  rcases Option.map_eq_some_iff.mp loads with ⟨entries, found, rfl⟩
  rw [assignScalar_moveTo]
  cases scalar : assignScalar stored path content with
  | error failure => exact loaded
  | ok final =>
    have written := lies.get?_set_self final
    have kept := lies.get?_set_ne position (position.alone_ne lies (by decide)) final
    rw [found, ← assignScalar_position scalar] at kept
    exact (loadSource?_of_get? written).trans (congrArg (Option.map _) kept)

/-- An assignment to a number of a source is not seen in any other one. -/
theorem Sound.loadSource?_assignsScalar_ne {handle : Handle StoredSource}
    (lies : Lies workspace place handle (.alone handle.address)) {other : Handle StoredSource}
    (liesOther : Lies workspace place other (.alone other.address)) (different : other ≠ handle)
    (stored : StoredSource) (path : Path) (content : Content) :
    (orKept workspace ((assignScalar stored path content).map
      fun changed => workspace.set other changed)).loadSource? handle =
        workspace.loadSource? handle := by
  have apart : Place.alone handle.address ≠ .alone other.address := fun alone =>
    different (Handle.eq_of_alone alone).symm
  cases assignScalar stored path content with
  | error failure => rfl
  | ok final =>
    have agrees := (changes_set liesOther final).agrees (· ≠ .alone other.address)
      fun _ different both => different both
    exact agrees.loadSource?_alone sound lies apart fun stored present =>
      Lies.alone_ne (sound.positionLies lies present) liesOther (by decide)

/-- An assignment to a source is seen in it, and one to its position in all sources that
share it. -/
theorem Sound.loadSource?_assignsSource {handle : Handle StoredSource}
    (lies : Lies workspace place handle (.alone handle.address)) {source : LayoutSource}
    (loaded : workspace.loadSource? handle = some source) {other : Handle StoredSource}
    (liesOther : Lies workspace place other (.alone other.address)) (path : Path)
    (content : Content) :
    (orKept workspace (workspace.assignSource other path content)).loadSource? handle =
      some (((workspace.pathWithin? (.source handle) (.source other) path).map
        fun inner => assignedSource source inner content).getD source) := by
  rcases liesOther.exists_get? with ⟨storedOther, presentOther⟩
  have positionOther := sound.positionLies liesOther presentOther
  by_cases shared : Exists fun rest => path = .member "position" :: rest
  · rcases shared with ⟨rest, rfl⟩
    have assignment : workspace.assignSource other (.member "position" :: rest) content =
        workspace.assignVector storedOther.position rest content := by
      simp only [Workspace.assignSource, presentOther, orUnsuitable, ok_bind]
    have found : workspace.positionOf? other = some storedOther.position := by
      rw [positionOf?, presentOther, Option.map_some]
    have within : workspace.pathWithin? (.source handle) (.source other) (.member "position" :: rest) =
        workspace.pathWithin? (.source handle) (.vector storedOther.position) rest := by
      simp only [pathWithin?, found]
    rw [assignment, sound.loadSource?_assignsVector lies loaded positionOther rest content, within]
  · have assignment : workspace.assignSource other path content =
        (assignScalar storedOther path content).map fun changed => workspace.set other changed := by
      simp only [Workspace.assignSource, presentOther, orUnsuitable, ok_bind]
      split
      · exact absurd ⟨_, rfl⟩ shared
      · cases assignScalar storedOther path content <;> rfl
    have within : workspace.pathWithin? (.source handle) (.source other) path =
        if Asset.source other = .source handle then some path else none := by
      unfold pathWithin?
      split
      · contradiction
      · exact absurd ⟨_, rfl⟩ shared
      · rfl
    rw [assignment, within]
    by_cases same : other = handle
    · subst same
      rw [if_pos rfl, Option.map_some, Option.getD_some, assignedSource_of_scalar shared]
      exact sound.loadSource?_assignsScalar lies presentOther loaded path content
    · rw [if_neg fun both => same (Asset.source.inj both), Option.map_none, Option.getD_none]
      exact (sound.loadSource?_assignsScalar_ne lies liesOther same storedOther path content).trans
        loaded

/-- A vector that is part of a modifier is assigned apart from the rest of it. -/
theorem Sound.assignsPart {handle : Handle StoredModifier}
    (lies : Lies workspace place handle (.alone handle.address)) {stored : StoredModifier}
    (present : workspace.get? handle = some stored) {part : Part} {vector : Handle Components}
    (inner : Lies workspace place vector ((Place.alone handle.address).inner part))
    {entries : Components} (found : workspace.get? vector = some entries) (path : Path)
    (content : Content) :
    Exists fun changed => orKept workspace (workspace.assignVector vector path content) = changed ∧
      Agrees (· ≠ (Place.alone handle.address).inner part) workspace place changed ∧
      changed.get? handle = some stored ∧
      changed.get? vector = some (assignedEntries entries path content) := by
  rcases sound.assignsVector inner found path content with ⟨evolves, written⟩
  have agrees := evolves.changes.agrees (· ≠ (Place.alone handle.address).inner part)
    fun _ different same => different same
  exact ⟨_, rfl, agrees, (agrees.get? lies (Place.inner_ne _ _).symm).trans present, written⟩

/-- What is part of a modifier is no part of its speed. -/
theorem Sound.loadSpeed?_apartFrom {handle : Handle StoredModifier} {part : Part}
    {speed : Handle StoredSpeed} (lies : Lies workspace place speed (.alone speed.address))
    {changed : Workspace}
    (agrees : Agrees (· ≠ (Place.alone handle.address).inner part) workspace place changed) :
    changed.loadSpeed? speed = workspace.loadSpeed? speed :=
  agrees.loadSpeed? sound lies fun root _ => by simp [Place.inner, Place.alone]

/-- A modifier is another object than its speed and the values of that. -/
theorem Sound.alone_ne_of_mem_speedRoots {handle : Handle StoredModifier}
    (lies : Lies workspace place handle (.alone handle.address))
    {spawner : Spawner (Handle Components) (Handle StoredSpeed)}
    (present : workspace.get? handle = some (.position spawner)) {root : Nat}
    (shared : root ∈ workspace.speedRoots spawner.speed) :
    Place.alone root ≠ .alone handle.address := by
  intro alone
  rcases Sound.sharedRoot sound (sound.modifierFits lies present).2 shared with
    ⟨_, kind, found, kinds⟩
  rw [show root = handle.address from congrArg Place.root alone, lies.kind] at found
  cases found
  simp [Storable.kind] at kinds

/-- A shape without vectors can take the place of another one. -/
theorem Sound.modifierAt?_setShape {handle : Handle StoredModifier}
    (lies : Lies workspace place handle (.alone handle.address))
    {spawner : Spawner (Handle Components) (Handle StoredSpeed)}
    (present : workspace.get? handle = some (.position spawner)) {loaded : Spawner Components}
    (loads : spawner.mapM? workspace.get? workspace.loadSpeed? = some loaded)
    {shape : Shape (Handle Components)} {loadedShape : Shape Components}
    (round : forall load, shape.mapM? load = some loadedShape) :
    (workspace.set handle
      (.position { spawner with shape := shape } : StoredModifier)).modifierAt? handle =
        some (.position { loaded with shape := loadedShape }) := by
  rcases (sound.modifierFits lies present).2 with ⟨_, fitsCenter, fitsRotation, fitsSpeed⟩
  rcases Spawner.mapM?_eq_some_iff.mp loads with ⟨_, center, rotation, speed, dimension⟩
  have agrees := (changes_set lies (.position { spawner with shape := shape })).agrees
    (· ≠ .alone handle.address) fun _ different both => different both
  refine modifierAt?_position (lies.get?_set_self _)
    (Spawner.mapM?_eq_some_iff.mpr ⟨round _, ?_, ?_, ?_, dimension⟩)
  · exact (agrees.get? fitsCenter (Place.inner_ne _ _)).trans center
  · exact (agrees.get? fitsRotation (Place.inner_ne _ _)).trans rotation
  · exact (agrees.loadSpeed? sound fitsSpeed fun _ shared =>
      sound.alone_ne_of_mem_speedRoots lies present shared).trans speed

/-- Only the speed of a spawner is loaded from outside of it. -/
theorem Sound.modifierAt?_of_speed {handle : Handle StoredModifier}
    (lies : Lies workspace place handle (.alone handle.address))
    {spawner : Spawner (Handle Components) (Handle StoredSpeed)}
    (present : workspace.get? handle = some (.position spawner)) {loaded : Spawner Components}
    (loads : spawner.mapM? workspace.get? workspace.loadSpeed? = some loaded)
    {changed : Workspace}
    (agrees : Agrees (Place.alone handle.address).region workspace place changed) {speed : Speed}
    (found : changed.loadSpeed? spawner.speed = some speed) :
    changed.modifierAt? handle = some (.position { loaded with speed := speed }) := by
  rcases (sound.modifierFits lies present).2 with ⟨fitsShape, fitsCenter, fitsRotation, _⟩
  rcases Spawner.mapM?_eq_some_iff.mp loads with ⟨shape, center, rotation, _, dimension⟩
  have inner (part : Part) : (Place.alone handle.address).region
      ((Place.alone handle.address).inner part) := Place.region_inner (Place.region_self _) part
  exact modifierAt?_position ((agrees.get? lies (Place.region_self _)).trans present)
    (Spawner.mapM?_eq_some_iff.mpr ⟨(agrees.shape fitsShape (inner _)).trans shape,
      (agrees.get? fitsCenter (inner _)).trans center,
      (agrees.get? fitsRotation (inner _)).trans rotation, found, dimension⟩)

omit sound in
/-- A path that leads to no place of a stored spawner leads to none of the loaded one. -/
theorem assignedSpawner_of_misplaced {spawner : Spawner (Handle Components) (Handle StoredSpeed)}
    {loaded : Spawner Components} {load : Handle Components -> Option Components}
    (shape : spawner.shape.mapM? load = some loaded.shape) {path : Path} {content : Content}
    (noCenter : forall rest, path = .member "center" :: rest -> False)
    (noRotation : forall rest, path = .member "rotation" :: rest -> False)
    (noExtents : forall rest extents, path = .member "extents" :: rest ->
      spawner.shape = .cube extents -> False)
    (noSpeed : forall rest, path = .member "speed" :: rest -> False)
    (noCircle : forall radius x, path = [.member "radius"] -> spawner.shape = .circle radius ->
      content = .number x -> False)
    (noSphere : forall radius x, path = [.member "radius"] -> spawner.shape = .sphere radius ->
      content = .number x -> False) :
    assignedSpawner loaded path content = loaded := by
  unfold assignedSpawner
  split
  case h_1 => exact (noCenter _ rfl).elim
  case h_2 => exact (noRotation _ rfl).elim
  case h_3 selected =>
    rw [selected] at shape
    rcases Shape.exists_of_mapM?_cube shape with ⟨extents, held⟩
    exact (noExtents _ _ rfl held).elim
  case h_4 => exact (noSpeed _ rfl).elim
  case h_5 selected =>
    rw [selected] at shape
    exact (noCircle _ _ rfl (Shape.mapM?_eq_circle_iff.mp shape) rfl).elim
  case h_6 selected =>
    rw [selected] at shape
    exact (noSphere _ _ rfl (Shape.mapM?_eq_sphere_iff.mp shape) rfl).elim
  case h_7 => rfl

theorem Sound.modifierAt?_assignsSpawner {handle : Handle StoredModifier}
    (lies : Lies workspace place handle (.alone handle.address))
    {spawner : Spawner (Handle Components) (Handle StoredSpeed)}
    (present : workspace.get? handle = some (.position spawner)) {loaded : Spawner Components}
    (loads : spawner.mapM? workspace.get? workspace.loadSpeed? = some loaded) {path : Path}
    (astray : workspace.valueWithin? (.modifier handle) path = none) (content : Content) :
    (orKept workspace (workspace.assignSpawner handle spawner path content)).modifierAt? handle =
      some (.position (assignedSpawner loaded path content)) := by
  rcases (sound.modifierFits lies present).2 with ⟨fitsShape, fitsCenter, fitsRotation, fitsSpeed⟩
  rcases Spawner.mapM?_eq_some_iff.mp loads with ⟨shape, center, rotation, speed, dimension⟩
  -- One case for each place of a spawner, in the order in which they are tried: the three
  -- vectors, the speed, the two radii, and what is no place.
  unfold Workspace.assignSpawner
  split
  case h_1 content _ _ _ rest =>
    rcases sound.assignsPart lies present fitsCenter center rest content with
      ⟨changed, same, agrees, present', written⟩
    rw [same]
    exact modifierAt?_position present' (Spawner.mapM?_eq_some_iff.mpr
      ⟨(agrees.shape fitsShape (by simp [Place.inner])).trans shape, written,
        (agrees.get? fitsRotation (by simp [Place.inner])).trans rotation,
        (sound.loadSpeed?_apartFrom fitsSpeed agrees).trans speed, dimension⟩)
  case h_2 content _ _ _ rest =>
    rcases sound.assignsPart lies present fitsRotation rotation rest content with
      ⟨changed, same, agrees, present', written⟩
    rw [same]
    exact modifierAt?_position present' (Spawner.mapM?_eq_some_iff.mpr
      ⟨(agrees.shape fitsShape (by simp [Place.inner])).trans shape,
        (agrees.get? fitsCenter (by simp [Place.inner])).trans center, written,
        (sound.loadSpeed?_apartFrom fitsSpeed agrees).trans speed, dimension⟩)
  case h_3 content _ _ _ rest extents selected =>
    rw [selected] at fitsShape shape
    rcases Option.map_eq_some_iff.mp shape with ⟨entries, found, selected'⟩
    have assigned : assignedSpawner loaded (.member "extents" :: rest) content =
        { loaded with shape := .cube (assignedEntries entries rest content) } := by
      simp only [assignedSpawner, ← selected']
    rcases sound.assignsPart lies present fitsShape found rest content with
      ⟨changed, same, agrees, present', written⟩
    rw [same, assigned]
    refine modifierAt?_position present' (Spawner.mapM?_eq_some_iff.mpr ⟨?_,
      (agrees.get? fitsCenter (by simp [Place.inner])).trans center,
      (agrees.get? fitsRotation (by simp [Place.inner])).trans rotation,
      (sound.loadSpeed?_apartFrom fitsSpeed agrees).trans speed, dimension⟩)
    rw [selected]
    exact congrArg (Option.map _) written
  case h_4 content _ _ _ rest =>
    have inside : workspace.valueOfSpeed? spawner.speed rest = none := by
      simpa only [valueWithin?, present] using astray
    rcases fitsSpeed.exists_get? with ⟨stored, presentSpeed⟩
    have assigned : assignedSpawner loaded (.member "speed" :: rest) content = loaded := by
      simp only [assignedSpawner, assignedSpeed_of_astray presentSpeed speed inside]
    rw [assignSpeed_of_astray presentSpeed inside, assigned]
    exact modifierAt?_position present loads
  case h_5 radius x selected =>
    rw [selected] at shape
    have assigned : assignedSpawner loaded [.member "radius"] (.number x) =
        { loaded with shape := .circle x } := by
      simp only [assignedSpawner, ← Option.some.inj shape]
    rw [assigned]
    exact sound.modifierAt?_setShape lies present loads fun _ => rfl
  case h_6 radius x selected =>
    rw [selected] at shape
    have assigned : assignedSpawner loaded [.member "radius"] (.number x) =
        { loaded with shape := .sphere x } := by
      simp only [assignedSpawner, ← Option.some.inj shape]
    rw [assigned]
    exact sound.modifierAt?_setShape lies present loads fun _ => rfl
  case h_7 path content _ _ _ noCenter noRotation noSpeed noExtents noCircle noSphere =>
    rw [orKept_assignUnused,
      assignedSpawner_of_misplaced shape noCenter noRotation noExtents noSpeed noCircle noSphere]
    exact modifierAt?_position present loads

theorem Sound.modifierAt?_assignsAccel {handle : Handle StoredModifier}
    (lies : Lies workspace place handle (.alone handle.address)) {vector : Handle Components}
    (present : workspace.get? handle = some (.accel vector)) {entries : Components}
    (found : workspace.get? vector = some entries) (path : Path) (content : Content) :
    (orKept workspace (workspace.assignModifier handle path content)).modifierAt? handle =
      some (assignedModifier (.accel entries) path content) := by
  have fits : Lies workspace place vector ((Place.alone handle.address).inner .accel) :=
    (sound.modifierFits lies present).2
  by_cases inside : Exists fun rest => path = .member "accel" :: rest
  · rcases inside with ⟨rest, rfl⟩
    have assignment : workspace.assignModifier handle (.member "accel" :: rest) content =
        workspace.assignVector vector rest content := by
      simp only [Workspace.assignModifier, present, orUnsuitable, ok_bind]
    rcases sound.assignsPart lies present fits found rest content with
      ⟨changed, same, _, present', written⟩
    rw [assignment, same, modifierAt?_of_get? present']
    exact congrArg (Option.map _) written
  · have assignment : workspace.assignModifier handle path content =
        assignUnused workspace (modifierMembers (.accel vector)) path := by
      simp only [Workspace.assignModifier, present, orUnsuitable, ok_bind]
      split
      all_goals first | rfl | simp_all
    have kept : assignedModifier (.accel entries) path content = .accel entries := by
      unfold assignedModifier
      split
      all_goals first | rfl | simp_all
    rw [assignment, orKept_assignUnused, kept, modifierAt?_of_get? present]
    exact congrArg (Option.map _) found

omit sound in
theorem Lies.modifierAt?_assignsTexture {handle : Handle StoredModifier}
    (lies : Lies workspace place handle (.alone handle.address)) {texture : Float}
    (present : workspace.get? handle = some (.texture texture)) (path : Path) (content : Content) :
    (orKept workspace (workspace.assignModifier handle path content)).modifierAt? handle =
      some (assignedModifier (.texture texture) path content) := by
  by_cases inside : Exists fun x => path = [.member "texture"] ∧ content = .number x
  · rcases inside with ⟨x, rfl, rfl⟩
    have assignment : workspace.assignModifier handle [.member "texture"] (.number x) =
        .ok (workspace.set handle (.texture x : StoredModifier)) := by
      simp only [Workspace.assignModifier, present, orUnsuitable, ok_bind]
      rfl
    rw [assignment]
    exact modifierAt?_of_get? (lies.get?_set_self (.texture x : StoredModifier))
  · have assignment : workspace.assignModifier handle path content =
        assignUnused workspace (modifierMembers (.texture texture)) path := by
      simp only [Workspace.assignModifier, present, orUnsuitable, ok_bind]
      split
      all_goals first | rfl | simp_all
    have kept : assignedModifier (.texture texture) path content = .texture texture := by
      unfold assignedModifier
      split
      all_goals first | rfl | simp_all
    rw [assignment, orKept_assignUnused, kept]
    exact modifierAt?_of_get? present

/-- What can be assigned of a modifier that holds all itself is assigned in place. -/
theorem Sound.modifierAt?_assignsModifier {handle : Handle StoredModifier}
    (lies : Lies workspace place handle (.alone handle.address)) {stored : StoredModifier}
    (present : workspace.get? handle = some stored) (owned : Owned stored)
    {loaded : LoadedModifier} (seen : workspace.modifierAt? handle = some loaded) (path : Path)
    (content : Content) :
    (orKept workspace (workspace.assignModifier handle path content)).modifierAt? handle =
      some (assignedModifier loaded path content) := by
  rw [modifierAt?_of_get? present] at seen
  cases stored with
  | accel vector =>
    rcases Option.map_eq_some_iff.mp seen with ⟨entries, found, rfl⟩
    exact sound.modifierAt?_assignsAccel lies present found path content
  | texture texture =>
    cases seen
    exact lies.modifierAt?_assignsTexture present path content
  | _ => cases owned

end

end Workspace
end ParticleEffects
