import ParticleEffects.Proofs.Application

namespace ParticleEffects
namespace Workspace

/-!
Separated workspaces.

A workspace is separated by a placement that is sound, if what its names stand for is
part of nothing.  Everything that is part of an object belongs to that object alone,
and what is added later belongs to what is added later or is written to.
-/

open Spatial ForceField Spawn

/-- What a name stands for is part of nothing. -/
def AssetLies (workspace : Workspace) (place : Placement) : Asset -> Prop
  | .vector handle => Lies workspace place handle (.alone handle.address)
  | .source handle => Lies workspace place handle (.alone handle.address)
  | .gradient handle => Lies workspace place handle (.alone handle.address)
  | .value handle => Lies workspace place handle (.alone handle.address)
  | .speed handle => Lies workspace place handle (.alone handle.address)
  | .modifier handle => Lies workspace place handle (.alone handle.address)
  | .effect handle => Lies workspace place handle (.alone handle.address)
  | .initLayout handle => Lies workspace place handle (.alone handle.address)
  | .updateLayout handle => Lies workspace place handle (.alone handle.address)
  | .renderLayout handle => Lies workspace place handle (.alone handle.address)

structure Separated (workspace : Workspace) (place : Placement) : Prop where
  sound : Sound workspace place
  bounded : forall address, address < workspace.objects.size ->
    (place address).root < workspace.objects.size
  named : forall name asset, workspace.lookup name = some asset -> AssetLies workspace place asset

/-- The places of objects that are part of an old one. -/
def Region.before (size : Nat) : Region := fun place => place.root < size

/-- The places of objects that are part of a new one. -/
def Region.beyond (size : Nat) : Region := fun place => size <= place.root

theorem Region.inward_before (size : Nat) : (Region.before size).Inward := fun _ inside _ => inside

section

variable {written added : Region} {workspace changed : Workspace} {place place' : Placement}

theorem AssetLies.change {asset : Asset} (lies : AssetLies workspace place asset)
    (changes : Changes written added workspace place changed place') :
    AssetLies changed place' asset := by
  cases asset <;> exact Lies.change lies changes

/-- What evolves stays separated, if what is added is part of something that is there. -/
theorem Separated.evolve (separated : Separated workspace place)
    (evolves : Evolves written added workspace place changed place')
    (inside : workspace.objects.size < changed.objects.size ->
      forall spot, added spot -> spot.root < changed.objects.size) :
    Separated changed place' where
  sound := evolves.sound
  bounded address present := by
    by_cases old : address < workspace.objects.size
    · rw [evolves.changes.place_eq address old]
      exact Nat.lt_of_lt_of_le (separated.bounded address old) evolves.changes.size_le
    · exact inside (Nat.lt_of_le_of_lt (Nat.not_lt.mp old) present) _
        (evolves.changes.fresh address (Nat.not_lt.mp old) present)
  named name asset found := by
    rw [lookup, evolves.names_eq] at found
    exact (separated.named name asset found).change evolves.changes

theorem separated_empty : Separated {} fun address => .alone address where
  sound _ _ present := by simp at present
  bounded _ present := absurd present (Nat.not_lt_zero _)
  named _ _ found := by cases found

/-- Names have nothing to do with objects. -/
theorem changes_bind (written added : Region) (workspace : Workspace) (place : Placement)
    (name : String) (asset : Asset) :
    Changes written added workspace place (workspace.bind name asset) place where
  size_le := Nat.le_refl _
  place_eq _ _ := rfl
  kind_eq _ _ := rfl
  kept _ _ _ := rfl
  fresh _ beyond present := absurd present (Nat.not_lt.mpr beyond)

theorem AssetLies.bind {asset : Asset} (lies : AssetLies workspace place asset) (name : String)
    (other : Asset) : AssetLies (workspace.bind name other) place asset :=
  lies.change (changes_bind .nowhere .nowhere workspace place name other)

theorem Separated.bind (separated : Separated workspace place) (name : String) {asset : Asset}
    (lies : AssetLies workspace place asset) : Separated (workspace.bind name asset) place where
  sound address object present := (separated.sound address object present).change
    (changes_bind .nowhere .nowhere workspace place name asset)
  bounded := separated.bounded
  named other found present := by
    by_cases same : other = name
    · subst same
      rw [lookup_bind_self] at present
      cases present
      exact lies.bind _ _
    · rw [lookup_bind_ne workspace asset same] at present
      exact (separated.named other found present).bind _ _

end

/-! ## Growth -/

/-- A separated workspace in which all that was there before is as it was. -/
structure Grown (workspace : Workspace) (place : Placement) (changed : Workspace)
    (place' : Placement) : Prop where
  evolves : Evolves (.beyond workspace.objects.size) (.beyond workspace.objects.size)
    workspace place changed place'
  separated : Separated changed place'

namespace Grown

variable {workspace changed final : Workspace} {place place' place'' : Placement}

theorem refl (separated : Separated workspace place) : Grown workspace place workspace place :=
  ⟨Evolves.refl _ _ separated.sound, separated⟩

theorem trans (first : Grown workspace place changed place')
    (second : Grown changed place' final place'') : Grown workspace place final place'' where
  evolves := first.evolves.trans (second.evolves.weaken
    (fun _ beyond => Nat.le_trans first.evolves.changes.size_le beyond)
    fun _ beyond => Nat.le_trans first.evolves.changes.size_le beyond)
  separated := second.separated

theorem size_le (grown : Grown workspace place changed place') :
    workspace.objects.size <= changed.objects.size :=
  grown.evolves.changes.size_le

theorem agrees (grown : Grown workspace place changed place') :
    Agrees (.before workspace.objects.size) workspace place changed :=
  grown.evolves.changes.agrees _ fun _ inside beyond => Nat.not_lt.mpr beyond inside

/-- All that is there already stays the same. -/
theorem getElem?_eq (grown : Grown workspace place changed place')
    (separated : Separated workspace place) {address : Nat}
    (old : address < workspace.objects.size) :
    changed.objects[address]? = workspace.objects[address]? :=
  grown.agrees address old (separated.bounded address old)

/-- Names are read as before. -/
theorem components_eq (grown : Grown workspace place changed place')
    (separated : Separated workspace place) (name : String) :
    changed.components (.named name) = workspace.components (.named name) := by
  apply components_named_congr
  · rw [lookup, grown.evolves.names_eq, lookup]
  · intro handle found
    have lies : Lies workspace place handle (.alone handle.address) := separated.named name _ found
    exact grown.agrees.get? lies (lt_of_kindAt? lies.kind)

/-- Modifiers are loaded as before. -/
theorem modifierAt?_eq (grown : Grown workspace place changed place')
    (separated : Separated workspace place) {modifier : Handle StoredModifier}
    (lies : Lies workspace place modifier (.alone modifier.address)) :
    changed.modifierAt? modifier = workspace.modifierAt? modifier := by
  apply grown.agrees.modifierAt? (Region.inward_before _) separated.sound lies
    (lt_of_kindAt? lies.kind)
  · intro stored root present shared
    have fits := (separated.sound.modifierFits lies present).2
    rcases separated.sound.sharedRoot fits shared with ⟨_, _, kind, _⟩
    exact lt_of_kindAt? kind
  · intro stored name _ _
    exact grown.components_eq separated name

end Grown

/-- What is founded outgrows the workspace. -/
theorem Founded.grown {α : Type} [Storable α] {workspace : Workspace} {place place' : Placement}
    {result : Workspace × Handle α} (founded : Founded workspace place result place')
    (separated : Separated workspace place) : Grown workspace place result.1 place' where
  evolves := founded.evolves.weaken
    (fun _ inside => Nat.le_trans founded.new (Nat.le_of_eq inside.1.symm))
    fun _ inside => Nat.le_trans founded.new (Nat.le_of_eq inside.1.symm)
  separated := separated.evolve founded.evolves fun _ _ inside =>
    Nat.lt_of_le_of_lt (Nat.le_of_eq inside.1) (lt_of_kindAt? founded.lies.kind)

/-- What is made of a new layout outgrows the workspace. -/
theorem Grown.evolve {workspace changed final : Workspace} {place place' place'' : Placement}
    {address : Nat} (grown : Grown workspace place changed place')
    (evolves : Evolves (Place.alone address).region (Place.alone address).region
      changed place' final place'')
    (new : workspace.objects.size <= address) (present : address < changed.objects.size) :
    Grown workspace place final place'' where
  evolves := grown.evolves.trans (evolves.weaken
    (fun _ inside => Nat.le_trans new (Nat.le_of_eq inside.1.symm))
    fun _ inside => Nat.le_trans new (Nat.le_of_eq inside.1.symm))
  separated := grown.separated.evolve evolves fun _ _ inside =>
    Nat.lt_of_le_of_lt (Nat.le_of_eq inside.1)
      (Nat.lt_of_lt_of_le present evolves.changes.size_le)

/-! ## Steps -/

/-- The places of objects that are part of one of some roots. -/
def Region.rooted (roots : List Nat) : Region := fun place => place.root ∈ roots

/-- What a step leaves alone.  It writes only to what is part of some roots, registers
modifiers only for some effects, and gives only some names to other assets. -/
structure Kept (roots registered : List Nat) (bound : List String) (workspace : Workspace)
    (place : Placement) (changed : Workspace) (place' : Placement) : Prop where
  separated : Separated changed place'
  changes : Changes (.rooted roots) .everywhere workspace place changed place'
  lookup_eq : forall name, name ∉ bound -> changed.lookup name = workspace.lookup name
  /-- The configuration of an effect may change without that. -/
  registrations : forall (handle : Handle StoredEffect) (effect : StoredEffect),
    workspace.get? handle = some effect -> handle.address ∉ registered ->
    Exists fun config => changed.get? handle = some { effect with config := config }

section

variable {roots registered : List Nat} {bound : List String} {workspace changed : Workspace}
  {place place' : Placement}

theorem Kept.refl (separated : Separated workspace place) :
    Kept roots registered bound workspace place workspace place where
  separated := separated
  changes := .refl workspace place
  lookup_eq _ _ := rfl
  registrations _ effect present _ := ⟨effect.config, present⟩

/-- Effects are part of nothing. -/
theorem Sound.place_of_effect (sound : Sound workspace place) {handle : Handle StoredEffect}
    {effect : StoredEffect} (present : workspace.get? handle = some effect) :
    place handle.address = .alone handle.address :=
  (sound handle.address _ (get?_eq_some_iff.mp present)).1

/-- What evolves is kept, if nothing but parts of the roots and of new objects is written,
and none of the roots is an effect. -/
theorem Separated.keeps (separated : Separated workspace place) {written added : Region}
    (evolves : Evolves written added workspace place changed place')
    (covered : forall spot, written spot -> spot.root ∈ roots ∨ workspace.objects.size <= spot.root)
    (inside : workspace.objects.size < changed.objects.size ->
      forall spot, added spot -> spot.root < changed.objects.size)
    (effects : forall root, root ∈ roots -> workspace.kindAt? root ≠ some .effect) :
    Kept roots registered bound workspace place changed place' := by
  have kept (address : Nat) (old : address < workspace.objects.size)
      (untouched : ¬ Region.rooted roots (place address)) :
      changed.objects[address]? = workspace.objects[address]? := by
    refine evolves.changes.kept address old fun touched => ?_
    rcases covered _ touched with rooted | beyond
    · exact untouched rooted
    · exact absurd (separated.bounded address old) (Nat.not_lt.mpr beyond)
  refine ⟨separated.evolve evolves inside, { evolves.changes with kept := kept, fresh := ?_ }, ?_, ?_⟩
  · exact fun _ _ _ => trivial
  · intro name _
    rw [lookup, evolves.names_eq, lookup]
  · intro handle effect present _
    refine ⟨effect.config, ?_⟩
    have apart : ¬ Region.rooted roots (place handle.address) := by
      rw [separated.sound.place_of_effect present]
      exact fun rooted => effects _ rooted (kindAt?_of_get? present)
    rw [get?, kept _ (address_lt_of_get? present) apart]
    exact present

/-- What grows is kept altogether. -/
theorem Grown.kept (grown : Grown workspace place changed place')
    (separated : Separated workspace place) :
    Kept roots registered bound workspace place changed place' where
  separated := grown.separated
  changes := {
    grown.evolves.changes with
    kept := fun _ old _ => grown.getElem?_eq separated old
    fresh := fun _ _ _ => trivial }
  lookup_eq name _ := by rw [lookup, grown.evolves.names_eq, lookup]
  registrations handle effect present _ := by
    refine ⟨effect.config, ?_⟩
    rw [get?, grown.getElem?_eq separated (address_lt_of_get? present)]
    exact present

theorem Kept.trans {final : Workspace} {place'' : Placement}
    (first : Kept roots registered bound workspace place changed place')
    (second : Kept roots registered bound changed place' final place'') :
    Kept roots registered bound workspace place final place'' where
  separated := second.separated
  changes := first.changes.trans second.changes
  lookup_eq name unbound := (second.lookup_eq name unbound).trans (first.lookup_eq name unbound)
  registrations handle effect present apart := by
    rcases first.registrations handle effect present apart with ⟨config, found⟩
    exact second.registrations handle { effect with config := config } found apart

/-- A name may be given to an asset behind a step. -/
theorem Kept.bind (kept : Kept roots registered bound workspace place changed place')
    {name : String} (isBound : name ∈ bound) {asset : Asset}
    (lies : AssetLies changed place' asset) :
    Kept roots registered bound workspace place (changed.bind name asset) place' where
  separated := kept.separated.bind name lies
  changes := kept.changes.trans (changes_bind _ _ changed place' name asset)
  lookup_eq other unbound := by
    have different : other ≠ name := fun same => unbound (same ▸ isBound)
    rw [lookup_bind_ne changed asset different]
    exact kept.lookup_eq other unbound
  registrations := kept.registrations

end

end Workspace
end ParticleEffects
