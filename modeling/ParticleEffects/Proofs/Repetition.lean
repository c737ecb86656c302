import ParticleEffects.Proofs.Runs

namespace ParticleEffects
namespace Workspace

/-!
Repeated compilation.

A compilation reads the modifiers of its effect, the gradients and the speeds that they
share, and the vectors that the edits of custom modifiers name.  A run that is directed at
none of these and registers nothing for the effect does not change what the effect is
compiled to, whatever it does to layouts, other effects and modifiers.  The speed of a
modifier, with its values, is what the modifier holds: a change of it is a change of the
modifier, under whichever name it is made.
-/

section

variable (workspace : Workspace)

/-- The root of the vector that a name stands for. -/
def vectorRoots (name : String) : List Nat :=
  match workspace.lookup name with
  | some (.vector handle) => [handle.address]
  | _ => []

/-- The names that a modifier reads whenever it is applied. -/
def readNames (modifier : Handle StoredModifier) : List String :=
  (workspace.get? modifier).toList.flatMap namesOf

/-- The roots of all that a modifier reads when it is applied. -/
def readRoots (modifier : Handle StoredModifier) : List Nat :=
  modifier.address :: (workspace.get? modifier).toList.flatMap workspace.sharedRoots ++
    (workspace.readNames modifier).flatMap workspace.vectorRoots

/-- What the compilation of an effect depends on. -/
def watchedBy (handle : Handle StoredEffect) (effect : StoredEffect) : Watched where
  roots := (effect.calls.map Prod.snd).flatMap workspace.readRoots
  names := (effect.calls.map Prod.snd).flatMap workspace.readNames
  effects := [handle.address]

/-- A step is directed at a layout or at nothing, or at least at nothing that the
compilation of an effect depends on. -/
def LeavesAlone (handle : Handle StoredEffect) (effect : StoredEffect) (reached : Workspace)
    (command : Command) : Prop :=
  (workspace.watchedBy handle effect).SparedBy reached command ∨
    (forall asset, asset ∈ reached.directed? command -> asset.IsLayout) ∧
      forall name, name ∈ command.bound -> name ∉ (workspace.watchedBy handle effect).names

instance (handle : Handle StoredEffect) (effect : StoredEffect) (reached : Workspace)
    (command : Command) : Decidable (workspace.LeavesAlone handle effect reached command) :=
  inferInstanceAs (Decidable (_ ∨ _))

end

section

variable {watched : Watched} {workspace changed : Workspace} {place place' : Placement}

/-- A modifier whose reads are watched is loaded as before. -/
theorem Watched.Held.modifierAt?_eq (held : watched.Held workspace place changed place')
    (separated : Separated workspace place) {modifier : Handle StoredModifier}
    (lies : Lies workspace place modifier (.alone modifier.address))
    (roots : forall root, root ∈ workspace.readRoots modifier -> root ∈ watched.roots)
    (names : forall name, name ∈ workspace.readNames modifier -> name ∈ watched.names) :
    changed.modifierAt? modifier = workspace.modifierAt? modifier := by
  have reads {stored : StoredModifier} (present : workspace.get? modifier = some stored)
      {name : String} (named : name ∈ namesOf stored) : name ∈ workspace.readNames modifier := by
    simpa [readNames, present] using named
  apply held.agrees.modifierAt? (Region.inward_rooted _) separated.sound lies
    (roots _ (by simp [readRoots]))
  · intro stored root present shared
    exact roots root (by simp [readRoots, present, shared])
  · intro stored name present named
    apply components_named_congr (held.lookup_eq name (names name (reads present named)))
    intro handle selected
    have lies : Lies workspace place handle (.alone handle.address) := separated.named name _ selected
    refine held.agrees.get? lies (roots handle.address ?_)
    have vector : handle.address ∈ workspace.vectorRoots name := by
      simp [vectorRoots, selected]
    exact List.mem_append_right _ (List.mem_flatMap.mpr ⟨name, reads present named, vector⟩)

/-- An effect whose reads are watched is loaded as before. -/
theorem Watched.Held.loadEffect?_eq {handle : Handle StoredEffect} {effect : StoredEffect}
    (held : (workspace.watchedBy handle effect).Held workspace place changed place')
    (separated : Separated workspace place) (present : workspace.get? handle = some effect)
    {loaded : Effect LoadedModifier} (found : workspace.loadEffect? effect = some loaded)
    (config : EffectConfig) :
    changed.loadEffect? { effect with config := config } = some { loaded with config := config } := by
  rcases loadEffect?_eq_some_iff.mp found with ⟨_, foundAt⟩
  have same (stage : Stage) : (effect.modifiers stage).mapM changed.modifierAt? =
      some (loaded.modifiers stage) := by
    rw [← foundAt stage]
    apply mapM_congr
    intro modifier member
    have called : modifier ∈ effect.calls.map Prod.snd :=
      List.mem_map_of_mem (Effect.mem_calls.mpr member)
    exact held.modifierAt?_eq separated (separated.modifiers_lie present stage modifier member)
      (fun root read => List.mem_flatMap.mpr ⟨modifier, called, read⟩)
      (fun name read => List.mem_flatMap.mpr ⟨modifier, called, read⟩)
  refine loadEffect?_eq_some_iff.mpr ⟨rfl, fun stage => ?_⟩
  cases stage with
  | init => exact same .init
  | update => exact same .update
  | render => exact same .render

/-- What a modifier reads is a modifier, a gradient, a speed, a value or a vector. -/
theorem Separated.kindAt?_of_read (separated : Separated workspace place)
    {modifier : Handle StoredModifier} (lies : Lies workspace place modifier (.alone modifier.address))
    {root : Nat} (read : root ∈ workspace.readRoots modifier) :
    Exists fun kind => workspace.kindAt? root = some kind ∧
      kind ∈ [.modifier, .gradient, .speed, .value, .vector] := by
  rcases List.mem_append.mp read with held | named
  · rcases List.mem_cons.mp held with rfl | shared
    · exact ⟨_, lies.kind, by decide⟩
    · rcases List.mem_flatMap.mp shared with ⟨stored, present, shared⟩
      have fits := (separated.sound.modifierFits lies (Option.mem_toList.mp present)).2
      rcases separated.sound.sharedRoot fits shared with ⟨_, kind, found, kinds⟩
      exact ⟨kind, found, by simp at kinds ⊢; tauto⟩
  · rcases List.mem_flatMap.mp named with ⟨name, _, rooted⟩
    unfold vectorRoots at rooted
    split at rooted
    · rename_i vector selected
      rw [List.mem_singleton.mp rooted]
      exact ⟨.vector, (separated.named name _ selected).kindAt?, by decide⟩
    · cases rooted

/-- A step that is directed at a layout or at nothing spares all that the compilation of an
effect depends on, if it takes no name away that is read. -/
theorem Watched.Held.sparedBy_of_layout {handle : Handle StoredEffect} {effect : StoredEffect}
    (held : (workspace.watchedBy handle effect).Held workspace place changed place')
    (separated : Separated workspace place) (present : workspace.get? handle = some effect)
    {command : Command}
    (directed : forall asset, asset ∈ changed.directed? command -> asset.IsLayout)
    (unread : forall name, name ∈ command.bound -> name ∉ (workspace.watchedBy handle effect).names) :
    (workspace.watchedBy handle effect).SparedBy changed command := by
  have apart {asset : Asset} {root : Nat} {kind : Kind} (layout : asset.IsLayout)
      (isLayout : changed.kindAt? root = some asset.kind) (old : workspace.kindAt? root = some kind)
      (member : kind ∈ [.modifier, .gradient, .speed, .value, .vector, .effect]) : False := by
    rw [← held.changes.kind_eq root (lt_of_kindAt? old), isLayout] at old
    have layoutKind := layout.kind_mem
    rw [Option.some.inj old] at layoutKind
    cases kind <;> simp at layoutKind member
  have kindAt (asset : Asset) (directedAt : changed.directed? command = some asset) :
      changed.kindAt? asset.address = some asset.kind := by
    rcases Option.bind_eq_some_iff.mp directedAt with ⟨name, _, found⟩
    exact (held.separated.named name asset found).kindAt?
  refine ⟨fun root member read => ?_, unread, fun root member same => ?_⟩
  · rcases List.mem_flatMap.mp member with ⟨asset, selected, reached⟩
    have directedAt := Option.mem_toList.mp selected
    rw [eq_address_of_mem_reach (directed asset directedAt) reached] at read
    rcases List.mem_flatMap.mp read with ⟨modifier, called, read⟩
    rcases List.mem_map.mp called with ⟨⟨stage, modifier⟩, registered, rfl⟩
    rcases separated.kindAt?_of_read
      (separated.modifiers_lie present stage modifier (Effect.mem_calls.mp registered)) read with
      ⟨kind, old, kinds⟩
    exact apart (directed asset directedAt) (kindAt asset directedAt) old (by simp at kinds ⊢; tauto)
  · cases command with
    | register name stage names =>
      rcases List.mem_map.mp member with ⟨asset, selected, rfl⟩
      have directedAt : changed.directed? (.register name stage names) = some asset :=
        Option.mem_toList.mp selected
      have layoutAt := kindAt asset directedAt
      rw [List.mem_singleton.mp same] at layoutAt
      exact apart (directed asset directedAt) layoutAt (kindAt?_of_get? present)
        (by simp [Storable.kind])
    | _ => cases member

end

/-- A compilation, and writes to the layouts that it returned. -/
def fountainRun : List Command := [
  .compile "fountain" (some "first"),
  .assign "first.update" [.member "accel", .index 1] (.number 7),
  .assign "first.update" [.member "forceField", .index 0, .member "mass"] (.number 9)]

end Workspace
end ParticleEffects
