import ParticleEffects.Proofs.Assignment
import ParticleEffects.Proofs.Making

namespace ParticleEffects
namespace Workspace

/-!
What commands are directed at.

A command changes one asset at most, apart from what it makes.  Its targets are the
roots of all that it can write to; what an asset only hands out a copy of is none of
them.  An assignment through a speed, or through the speed of a modifier, is made in
the value that it leads to.
-/

open Spatial ForceField Spawn

def Asset.address : Asset -> Nat
  | .vector handle => handle.address
  | .source handle => handle.address
  | .gradient handle => handle.address
  | .value handle => handle.address
  | .speed handle => handle.address
  | .modifier handle => handle.address
  | .effect handle => handle.address
  | .initLayout handle => handle.address
  | .updateLayout handle => handle.address
  | .renderLayout handle => handle.address

def Asset.kind : Asset -> Kind
  | .vector _ => .vector
  | .source _ => .source
  | .gradient _ => .gradient
  | .value _ => .value
  | .speed _ => .speed
  | .modifier _ => .modifier
  | .effect _ => .effect
  | .initLayout _ => .initLayout
  | .updateLayout _ => .updateLayout
  | .renderLayout _ => .renderLayout

def Asset.IsLayout : Asset -> Prop
  | .initLayout _ | .updateLayout _ | .renderLayout _ => True
  | _ => False

instance : DecidablePred Asset.IsLayout
  | .initLayout _ | .updateLayout _ | .renderLayout _ => isTrue trivial
  | .vector _ | .source _ | .gradient _ | .value _ | .speed _ | .modifier _ | .effect _ =>
    isFalse id

theorem Asset.IsLayout.kind_mem {asset : Asset} (layout : asset.IsLayout) :
    asset.kind ∈ [.initLayout, .updateLayout, .renderLayout] := by
  cases asset with
  | initLayout handle => simp [Asset.kind]
  | updateLayout handle => simp [Asset.kind]
  | renderLayout handle => simp [Asset.kind]
  | _ => cases layout

/-- The asset of a kind at an address. -/
def Kind.asset? (kind : Kind) (address : Nat) : Option Asset :=
  match kind with
  | .vector => some (.vector { address := address })
  | .source => some (.source { address := address })
  | .slots => none
  | .gradient => some (.gradient { address := address })
  | .value => some (.value { address := address })
  | .speed => some (.speed { address := address })
  | .modifier => some (.modifier { address := address })
  | .effect => some (.effect { address := address })
  | .initLayout => some (.initLayout { address := address })
  | .updateLayout => some (.updateLayout { address := address })
  | .renderLayout => some (.renderLayout { address := address })

theorem Asset.asset?_kind (asset : Asset) : asset.kind.asset? asset.address = some asset := by
  cases asset <;> rfl

/-- The name of the asset that a command changes. -/
def Command.subject? : Command -> Option String
  | .assign name .. | .assignHandout name .. | .addKey name .. | .replaceSource name ..
  | .replaceValue name .. | .register name .. => some name
  | .apply _ layoutName => some layoutName
  | _ => none

/-- The names that a command gives to assets. -/
def Command.bound : Command -> List String
  | .put name _ => [name]
  | .copy _ newName => [newName]
  | .compile _ (some name) => [layoutName name .init, layoutName name .update, layoutName name .render]
  | _ => []

section

variable (workspace : Workspace)

/-- The value that a path inside a speed leads to, with the path from there. -/
def valueOfSpeed? (handle : Handle StoredSpeed) : Path -> Option (Handle Value × Path)
  | .member name :: rest => do
    let stored <- workspace.get? handle
    let value <- stored.members.lookup name
    return (value, rest)
  | _ => none

/-- The value that a path inside an asset leads to, with the path from there. -/
def valueWithin? : Asset -> Path -> Option (Handle Value × Path)
  | .value handle, path => some (handle, path)
  | .speed handle, path => workspace.valueOfSpeed? handle path
  | .modifier handle, .member "speed" :: rest =>
    match workspace.get? handle with
    | some (.position spawner) => workspace.valueOfSpeed? spawner.speed rest
    | _ => none
  | _, _ => none

/-- The root of the value that a path inside an asset leads to. -/
def valueRoots (asset : Asset) (path : Path) : List Nat :=
  (workspace.valueWithin? asset path).toList.map fun found => found.1.address

/-- What an assignment inside an asset can write to.  The position of a source may be a
vector that others refer to, as may the values of a speed.  Gradients, and modifiers that
hold slots or a gradient, hand out copies. -/
def assignRoots (path : Path) : Asset -> List Nat
  | .gradient _ => []
  | .source handle =>
    handle.address :: ((workspace.get? handle).map fun source => source.position.address).toList
  | .value handle => workspace.valueRoots (.value handle) path
  | .speed handle => workspace.valueRoots (.speed handle) path
  | .modifier handle =>
    match workspace.get? handle, path with
    | some (.position _), .member "speed" :: _ => workspace.valueRoots (.modifier handle) path
    | some (.position _), _ | some (.accel _), _ | some (.texture _), _ => [handle.address]
    | _, _ => []
  | asset => [asset.address]

/-- What a command can write to of the asset that it changes. -/
def reach : Command -> Asset -> List Nat
  | .assign _ path _, asset => workspace.assignRoots path asset
  | .assignHandout _ .slots .., .updateLayout handle => [handle.address]
  | .assignHandout .., _ => []
  | _, asset => [asset.address]

/-- The asset that a command changes. -/
def directed? (command : Command) : Option Asset := command.subject?.bind workspace.lookup

/-- The roots of all that a command can write to. -/
def targets (command : Command) : List Nat :=
  (workspace.directed? command).toList.flatMap (workspace.reach command)

/-- The effects that a command registers modifiers for. -/
def registered : Command -> List Nat
  | .register name .. => (workspace.lookup name).toList.map Asset.address
  | _ => []

end

theorem eq_address_of_mem_reach {workspace : Workspace} {command : Command} {asset : Asset}
    (layout : asset.IsLayout) {root : Nat} (member : root ∈ workspace.reach command asset) :
    root = asset.address := by
  have assigned {path : Path} (member : root ∈ workspace.assignRoots path asset) :
      root = asset.address := by
    cases asset with
    | initLayout handle => exact List.mem_singleton.mp member
    | updateLayout handle => exact List.mem_singleton.mp member
    | renderLayout handle => exact List.mem_singleton.mp member
    | _ => cases layout
  unfold reach at member
  split at member
  · exact assigned member
  · exact List.mem_singleton.mp member
  · cases member
  · exact List.mem_singleton.mp member

theorem targets_eq_of_subject {workspace : Workspace} {command : Command} {name : String}
    (subject : command.subject? = some name) {asset : Asset}
    (found : workspace.lookup name = some asset) :
    workspace.targets command = workspace.reach command asset := by
  rw [targets, directed?, subject, Option.bind_some, found, Option.toList_some,
    List.flatMap_singleton]

theorem AssetLies.kindAt? {workspace : Workspace} {place : Placement} {asset : Asset}
    (lies : AssetLies workspace place asset) :
    workspace.kindAt? asset.address = some asset.kind := by
  cases asset <;> exact Lies.kind lies

/-! ## Assignments inside assets -/

section Assignments

variable {workspace changed : Workspace} {place : Placement}
  (separated : Separated workspace place) {path : Path} {content : Content}
  {registered : List Nat} {bound : List String}
include separated

/-- What is only written in copies is kept. -/
theorem Separated.keeps_copies
    (assigned : Exists fun place' => Evolves workspace.copySpot.region workspace.copySpot.region
      workspace place changed place') (roots : List Nat)
    (effects : forall root, root ∈ roots -> workspace.kindAt? root ≠ some .effect) :
    Exists fun place' => Kept roots registered bound workspace place changed place' := by
  rcases assigned with ⟨place', evolves⟩
  have root (spot : Place) (copied : workspace.copySpot.region spot) :
      spot.root = workspace.objects.size := copied.1
  exact ⟨place', separated.keeps evolves
    (fun spot copied => .inr (Nat.le_of_eq (root spot copied).symm))
    (fun grows spot copied => (root spot copied).symm ▸ grows) effects⟩

/-- What is written inside of one asset is kept otherwise. -/
theorem Separated.keeps_inside {address : Nat} {kind : Kind}
    (present : workspace.kindAt? address = some kind) (different : kind ≠ .effect)
    {place' : Placement} {added : Region}
    (evolves : Evolves (Place.alone address).region added workspace place changed place')
    (within : forall spot, added spot -> spot.root = address) :
    Kept [address] registered bound workspace place changed place' := by
  refine separated.keeps evolves (fun spot inside => .inl (List.mem_singleton.mpr inside.1))
    (fun _ spot inside => ?_) ?_
  · rw [within spot inside]
    exact Nat.lt_of_lt_of_le (lt_of_kindAt? present) evolves.changes.size_le
  · intro root isAddress isEffect
    rw [List.mem_singleton.mp isAddress, present] at isEffect
    exact different (Option.some.inj isEffect)

theorem Separated.assignVector {handle : Handle Components}
    (lies : Lies workspace place handle (.alone handle.address))
    (assigned : workspace.assignVector handle path content = .ok changed) :
    Kept [handle.address] registered bound workspace place changed place :=
  separated.keeps_inside lies.kind (by decide)
    ((separated.sound.assignVector lies assigned).weaken
      (fun _ same => same ▸ Place.region_self _) fun _ => id) fun _ => False.elim

theorem Separated.assignSource {handle : Handle StoredSource}
    (lies : Lies workspace place handle (.alone handle.address))
    (assigned : workspace.assignSource handle path content = .ok changed) :
    Kept (workspace.assignRoots path (.source handle)) registered bound workspace place changed
      place := by
  rcases lies.exists_get? with ⟨stored, present⟩
  have position : Lies workspace place stored.position (.alone stored.position.address) :=
    separated.sound.fits lies present
  have roots : workspace.assignRoots path (.source handle) =
      [handle.address, stored.position.address] := by
    rw [assignRoots, present]
    rfl
  rw [roots]
  refine separated.keeps (separated.sound.assignSource lies present assigned) ?_
    (fun _ _ => False.elim) ?_
  · rintro spot (rfl | rfl)
    · exact .inl List.mem_cons_self
    · exact .inl (List.mem_cons_of_mem _ List.mem_cons_self)
  · intro root member isEffect
    rcases List.mem_cons.mp member with rfl | later
    · rw [lies.kind] at isEffect
      cases isEffect
    · rw [List.mem_singleton.mp later, position.kind] at isEffect
      cases isEffect

theorem Separated.assignValue {handle : Handle Value}
    (lies : Lies workspace place handle (.alone handle.address))
    (assigned : workspace.assignValue handle path content = .ok changed) :
    Kept [handle.address] registered bound workspace place changed place := by
  rcases bind_eq_ok_iff.mp assigned with ⟨_, _, written⟩
  rcases bind_eq_ok_iff.mp written with ⟨final, _, same⟩
  cases same
  exact separated.keeps_inside lies.kind (by decide)
    ((Evolves.refl _ .nowhere separated.sound).set lies final (Place.region_self _) trivial)
    fun _ => False.elim

/-- An assignment inside a speed writes to the value that it leads to. -/
theorem Separated.assignSpeed {handle : Handle StoredSpeed}
    (lies : Lies workspace place handle (.alone handle.address))
    (assigned : workspace.assignSpeed handle path content = .ok changed) :
    Kept ((workspace.valueOfSpeed? handle path).toList.map fun found => found.1.address) registered
      bound workspace place changed place := by
  rcases bind_eq_ok_iff.mp assigned with ⟨stored, found, written⟩
  have present := orUnsuitable_eq_ok_iff.mp found
  split at written
  · rename_i name rest
    split at written
    · rename_i value selected
      have leads : workspace.valueOfSpeed? handle (.member name :: rest) = some (value, rest) := by
        simp only [valueOfSpeed?, present, Option.bind_eq_bind, Option.bind_some, selected]
        rfl
      rw [leads]
      exact separated.assignValue
        (separated.sound.speedFits lies present _ (Speed.mem_of_lookup selected)) written
    · cases assignUnused_eq written
      exact Kept.refl separated
  · cases assignUnused_eq written
    exact Kept.refl separated

/-- What a modifier holds itself, what it refers to, and what its speed shares. -/
theorem Separated.assignSpawner {handle : Handle StoredModifier}
    (lies : Lies workspace place handle (.alone handle.address))
    {spawner : Spawner (Handle Components) (Handle StoredSpeed)}
    (present : workspace.get? handle = some (.position spawner))
    (assigned : workspace.assignSpawner handle spawner path content = .ok changed) :
    Kept (workspace.assignRoots path (.modifier handle)) registered bound workspace place changed
      place := by
  have fits : SpawnerFits workspace place (.alone handle.address) spawner :=
    (separated.sound.modifierFits lies present).2
  have part {vector : Handle Components} {part : Part} {rest : Path}
      (inner : Lies workspace place vector ((Place.alone handle.address).inner part))
      (written : workspace.assignVector vector rest content = .ok changed) :
      Kept [handle.address] registered bound workspace place changed place :=
    separated.keeps_inside lies.kind (by decide)
      ((separated.sound.assignVector inner written).weaken
        (fun _ same => same ▸ Place.region_inner (Place.region_self _) _) fun _ => id)
      fun _ => False.elim
  have shaped {shape : Shape (Handle Components)}
      (fitsShape : ShapeFits workspace place (.alone handle.address) shape) :
      Kept [handle.address] registered bound workspace place
        (workspace.set handle (.position { spawner with shape := shape } : StoredModifier)) place :=
    separated.keeps_inside lies.kind (by decide)
      ((Evolves.refl _ .nowhere separated.sound).set lies _ (Place.region_self _)
        ⟨rfl, { fits with shape := fitsShape }⟩) fun _ => False.elim
  have own (elsewhere : forall rest, path ≠ .member "speed" :: rest) :
      workspace.assignRoots path (.modifier handle) = [handle.address] := by
    simp only [assignRoots, present]
  unfold Workspace.assignSpawner at assigned
  split at assigned
  · rw [own (by simp)]
    exact part fits.center assigned
  · rw [own (by simp)]
    exact part fits.rotation assigned
  · rename_i selected
    have extents := fits.shape
    rw [selected] at extents
    rw [own (by simp)]
    exact part extents assigned
  · simp only [assignRoots, valueRoots, valueWithin?, present]
    exact separated.assignSpeed fits.speed assigned
  · rw [own (by simp)]
    cases assigned
    exact shaped trivial
  · rw [own (by simp)]
    cases assigned
    exact shaped trivial
  · cases assignUnused_eq assigned
    exact Kept.refl separated

theorem Separated.assignModifier {handle : Handle StoredModifier}
    (lies : Lies workspace place handle (.alone handle.address))
    (assigned : workspace.assignModifier handle path content = .ok changed) :
    Exists fun place' => Kept (workspace.assignRoots path (.modifier handle)) registered bound
      workspace place changed place' := by
  rcases bind_eq_ok_iff.mp assigned with ⟨stored, found, written⟩
  have present := orUnsuitable_eq_ok_iff.mp found
  have fits := (separated.sound.modifierFits lies present).2
  split at written
  · simp only [assignRoots, present]
    exact ⟨place, separated.keeps_inside lies.kind (by decide)
      ((separated.sound.assignVector fits written).weaken
        (fun _ same => same ▸ Place.region_inner (Place.region_self _) _) fun _ => id)
      fun _ => False.elim⟩
  · simp only [assignRoots, present]
    cases written
    exact ⟨place, separated.keeps_inside lies.kind (by decide)
      ((Evolves.refl _ .nowhere separated.sound).set lies _ (Place.region_self _) ⟨rfl, trivial⟩)
      fun _ => False.elim⟩
  · exact ⟨place, separated.assignSpawner lies present written⟩
  · simp only [assignRoots, present]
    rcases bind_eq_ok_iff.mp written with ⟨slots, _, copied⟩
    rcases separated.sound.handOutSources slots.toList with ⟨place', handedOut⟩
    exact separated.keeps_copies ⟨place', handedOut.assign rfl copied⟩ _ fun _ absent => nomatch absent
  · simp only [assignRoots, present]
    exact separated.keeps_copies (separated.sound.assignKeys written) _ fun _ absent => nomatch absent
  · simp only [assignRoots, present]
    exact separated.keeps_copies (separated.sound.assignKeys written) _ fun _ absent => nomatch absent
  · cases assignUnused_eq written
    exact ⟨place, Kept.refl separated⟩

theorem Separated.assignUpdate {handle : Handle StoredUpdate}
    (lies : Lies workspace place handle (.alone handle.address))
    (assigned : workspace.assignUpdate handle path content = .ok changed) :
    Kept [handle.address] registered bound workspace place changed place := by
  rcases bind_eq_ok_iff.mp assigned with ⟨stored, found, written⟩
  have fits := (separated.sound.updateFits lies (orUnsuitable_eq_ok_iff.mp found)).2
  split at written
  · exact separated.keeps_inside lies.kind (by decide)
      ((separated.sound.assignVector fits.accel written).weaken
        (fun _ same => same ▸ Place.region_inner (Place.region_self _) _) fun _ => id)
      fun _ => False.elim
  · exact separated.keeps_inside lies.kind (by decide)
      ((separated.sound.assignSlots fits.forceField (by simp) written).weaken
        (fun _ => Place.region_of_region_inner) fun _ => id)
      fun _ => False.elim
  · cases assignUnused_eq written
    exact Kept.refl separated

theorem Separated.assignRender {handle : Handle StoredRender}
    (lies : Lies workspace place handle (.alone handle.address))
    (assigned : workspace.assignRender handle path content = .ok changed) :
    Exists fun place' => Kept [handle.address] registered bound workspace place changed place' := by
  have effects : forall root, root ∈ [handle.address] -> workspace.kindAt? root ≠ some .effect := by
    intro root isAddress isEffect
    rw [List.mem_singleton.mp isAddress, lies.kind] at isEffect
    cases isEffect
  rcases bind_eq_ok_iff.mp assigned with ⟨stored, found, written⟩
  have fits := (separated.sound.renderFits lies (orUnsuitable_eq_ok_iff.mp found)).2
  split at written
  · cases written
    exact ⟨place, separated.keeps_inside lies.kind (by decide)
      ((Evolves.refl _ .nowhere separated.sound).set lies _ (Place.region_self _)
        ⟨rfl, fits.colorGradient, fits.sizeGradient⟩) fun _ => False.elim⟩
  · rcases bind_eq_ok_iff.mp written with ⟨gradient, _, copied⟩
    exact separated.keeps_copies (separated.sound.assignKeys copied) _ effects
  · rcases bind_eq_ok_iff.mp written with ⟨gradient, _, copied⟩
    exact separated.keeps_copies (separated.sound.assignKeys copied) _ effects
  · cases assignUnused_eq written
    exact ⟨place, Kept.refl separated⟩

/-- An assignment to an effect changes nothing but its configuration. -/
theorem Separated.assignEffect {handle : Handle StoredEffect}
    (lies : Lies workspace place handle (.alone handle.address)) {effect : StoredEffect}
    (present : workspace.get? handle = some effect) (config : EffectConfig) :
    Kept [handle.address] registered bound workspace place
      (workspace.set handle { effect with config := config }) place := by
  have fits : Fits workspace place (.alone handle.address) handle.address (.effect effect) :=
    separated.sound.fits lies present
  have fits' : Fits workspace place (.alone handle.address) handle.address
      (.effect { effect with config := config }) := by
    refine ⟨rfl, fun stage modifier member => fits.2 stage modifier ?_⟩
    cases stage <;> exact member
  have evolves := (Evolves.refl (Place.alone handle.address).region .nowhere separated.sound).set
    lies { effect with config := config } (Place.region_self _) fits'
  refine ⟨separated.evolve evolves fun _ _ => False.elim, ?_, fun _ _ => rfl, ?_⟩
  · exact evolves.changes.weaken (fun _ inside => List.mem_singleton.mpr inside.1) fun _ =>
      False.elim
  · intro other held found _
    by_cases same : handle.address = other.address
    · cases other
      cases handle
      cases same
      cases present.symm.trans found
      exact ⟨config, get?_set_self present _⟩
    · exact ⟨held.config, (get?_set_ne workspace same _).trans found⟩

/-- An assignment inside an asset changes that asset only. -/
theorem Separated.assignInside {asset : Asset} (lies : AssetLies workspace place asset)
    (assigned : workspace.assignInside asset path content = .ok changed) :
    Exists fun place' => Kept (workspace.assignRoots path asset) registered bound
      workspace place changed place' := by
  cases asset with
  | vector handle => exact ⟨place, separated.assignVector lies assigned⟩
  | source handle => exact ⟨place, separated.assignSource lies assigned⟩
  | gradient handle =>
    exact separated.keeps_copies (separated.sound.assignKeys assigned) _ fun _ absent => nomatch absent
  | value handle => exact ⟨place, separated.assignValue lies assigned⟩
  | speed handle => exact ⟨place, separated.assignSpeed lies assigned⟩
  | modifier handle => exact separated.assignModifier lies assigned
  | effect handle =>
    rcases bind_eq_ok_iff.mp assigned with ⟨effect, found, written⟩
    rcases bind_eq_ok_iff.mp written with ⟨config, _, same⟩
    cases same
    exact ⟨place, separated.assignEffect lies (orUnsuitable_eq_ok_iff.mp found) config⟩
  | initLayout handle =>
    rcases bind_eq_ok_iff.mp assigned with ⟨layout, found, written⟩
    rcases bind_eq_ok_iff.mp written with ⟨final, _, same⟩
    cases same
    exact ⟨place, separated.keeps_inside (Lies.kind lies) (by decide)
      ((Evolves.refl _ .nowhere separated.sound).set lies final (Place.region_self _) rfl)
      fun _ => False.elim⟩
  | updateLayout handle => exact ⟨place, separated.assignUpdate lies assigned⟩
  | renderLayout handle => exact separated.assignRender lies assigned

theorem Separated.assign {name : String}
    (assigned : workspace.assign name path content = .ok changed) :
    Exists fun place' => Kept (workspace.targets (.assign name path content)) registered bound
      workspace place changed place' := by
  rcases bind_eq_ok_iff.mp assigned with ⟨asset, found, written⟩
  have selected := lookup_of_find found
  rw [targets_eq_of_subject rfl selected]
  split at written
  · cases written
    exact ⟨place, Kept.refl separated⟩
  · exact separated.assignInside (separated.named name asset selected) written

/-- A copy is handed out at a place of its own. -/
theorem Separated.handOut {name : String} {request : HandoutRequest} {copy : HandedOut}
    (handedOut : workspace.handOut name request = .ok copy) :
    Exists fun place' => Copied workspace.copySpot workspace place copy place' := by
  rcases bind_eq_ok_iff.mp handedOut with ⟨observation, _, made⟩
  split at made
  · cases made
    exact separated.sound.handOutKeys _
  · rcases bind_eq_ok_iff.mp made with ⟨entries, _, same⟩
    cases same
    exact separated.sound.handOutVector _
  · cases made
    exact separated.sound.handOutSources _
  · cases made
    exact separated.sound.handOutSources _
  · cases made
    exact separated.sound.handOutSource _
  · cases made

theorem Separated.assignHandout {name : String} {request : HandoutRequest}
    (assigned : workspace.assignHandout name request path content = .ok changed) :
    Exists fun place' => Kept (workspace.targets (.assignHandout name request path content))
      registered bound workspace place changed place' := by
  rcases bind_eq_ok_iff.mp assigned with ⟨asset, found, written⟩
  have selected := lookup_of_find found
  rw [targets_eq_of_subject rfl selected]
  have lies := separated.named name asset selected
  split at written
  · rename_i handle
    rcases bind_eq_ok_iff.mp written with ⟨stored, foundLayout, writtenSlots⟩
    have fits := (separated.sound.updateFits lies (orUnsuitable_eq_ok_iff.mp foundLayout)).2
    split at writtenSlots
    · cases writtenSlots
      exact ⟨place, Kept.refl separated⟩
    · exact ⟨place, separated.keeps_inside (Lies.kind lies) (by decide)
        ((separated.sound.assignSlots fits.forceField (by simp) writtenSlots).weaken
          (fun _ => Place.region_of_region_inner) fun _ => id) fun _ => False.elim⟩
  · rcases bind_eq_ok_iff.mp written with ⟨copy, handedOut, writtenCopy⟩
    split at writtenCopy
    · cases writtenCopy
      exact ⟨place, Kept.refl separated⟩
    · rcases separated.handOut handedOut with ⟨place', copied⟩
      refine separated.keeps_copies ⟨place', copied.assign rfl writtenCopy⟩ _ ?_
      intro root member isEffect
      cases asset with
      | updateLayout handle =>
        cases request with
        | slots =>
          rw [List.mem_singleton.mp member, Lies.kind lies] at isEffect
          cases isEffect
        | _ => cases member
      | _ => cases request <;> cases member

end Assignments

end Workspace
end ParticleEffects
