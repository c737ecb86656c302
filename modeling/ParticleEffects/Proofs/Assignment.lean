import ParticleEffects.Proofs.LayoutStorage

namespace ParticleEffects
namespace Workspace

/-!
What an assignment writes to.

An assignment inside a vector, a source or slots stays inside of the place where they
lie, and one inside a slot leaves the other slots alone.  What an asset hands out lies
at a place of its own, so that an assignment inside of it writes to nothing that was
there before.
-/

open Spatial ForceField Spawn

theorem orUnsuitable_eq_ok_iff {α : Type} {found : Option α} {content : α} :
    orUnsuitable found = .ok content ↔ found = some content := by
  cases found <;> simp [orUnsuitable]

theorem assignUnused_eq {Record : Type} {record changed : Record} {members : List String}
    {path : Path} (assigned : assignUnused record members path = .ok changed) : changed = record := by
  unfold assignUnused at assigned
  split at assigned
  · cases assigned
    rfl
  · split at assigned
    · cases assigned
    · cases assigned
      rfl
  · cases assigned

theorem assignScalar_position {Position : Type} {source changed : PointSource Position} {path : Path}
    {content : Content} (assigned : assignScalar source path content = .ok changed) :
    changed.position = source.position := by
  unfold assignScalar at assigned
  split at assigned
  case h_6 => rw [assignUnused_eq assigned]
  all_goals
    cases assigned
    rfl

theorem getElem?_of_resize {slots : StoredSlots} {length n : Nat} {handle : Handle StoredSource}
    (filled : (resize none slots length)[n]? = some (some handle)) :
    slots[n]? = some (some handle) := by
  rw [resize, List.getElem?_append] at filled
  split at filled
  · rw [List.getElem?_take] at filled
    split at filled
    · exact filled
    · cases filled
  · rw [List.getElem?_replicate] at filled
    split at filled
    · cases filled
    · cases filled

section Assignments

variable {workspace changed : Workspace} {place : Placement} (sound : Sound workspace place)
  {path : Path} {content : Content} {spot : Place}
include sound

theorem Sound.assignVector {handle : Handle Components} (lies : Lies workspace place handle spot)
    (assigned : workspace.assignVector handle path content = .ok changed) :
    Evolves (· = spot) .nowhere workspace place changed place := by
  rcases bind_eq_ok_iff.mp assigned with ⟨entries, _, written⟩
  rcases bind_eq_ok_iff.mp written with ⟨final, _, same⟩
  cases same
  exact (Evolves.refl _ _ sound).set lies final rfl trivial

theorem Sound.assignSource {handle : Handle StoredSource} (lies : Lies workspace place handle spot)
    {stored : StoredSource} (present : workspace.get? handle = some stored)
    (assigned : workspace.assignSource handle path content = .ok changed) :
    Evolves (fun spot' => spot' = spot ∨ spot' = positionSpot spot stored.position) .nowhere
      workspace place changed place := by
  have position : Lies workspace place stored.position (positionSpot spot stored.position) :=
    sound.fits lies present
  rcases bind_eq_ok_iff.mp assigned with ⟨held, found, written⟩
  cases present.symm.trans (orUnsuitable_eq_ok_iff.mp found)
  split at written
  · exact (sound.assignVector position written).weaken (fun _ => .inr) fun _ => id
  · rcases bind_eq_ok_iff.mp written with ⟨final, scalar, same⟩
    cases same
    refine (Evolves.refl _ _ sound).set lies final (.inl rfl) ?_
    have kept := assignScalar_position scalar
    show Lies workspace place final.position (positionSpot spot final.position)
    rwa [kept]

/-- A source that is part of something is changed inside of its place. -/
theorem Sound.assignNested {handle : Handle StoredSource} (lies : Lies workspace place handle spot)
    (nested : spot.parts ≠ [])
    (assigned : workspace.assignSource handle path content = .ok changed) :
    Evolves spot.region .nowhere workspace place changed place := by
  rcases lies.exists_get? with ⟨stored, present⟩
  refine (sound.assignSource lies present assigned).weaken ?_ fun _ => id
  rintro place (rfl | rfl)
  · exact Place.region_self _
  · rw [positionSpot_of_nested nested]
    exact Place.region_inner (Place.region_self _) _

/-- An assignment inside a slot stays inside of that slot. -/
theorem Sound.assignSlot {handle : Handle StoredSlots} (lies : Lies workspace place handle spot)
    {n : Nat} {rest : Path}
    (assigned : workspace.assignSlots handle (.index n :: rest) content = .ok changed) :
    Evolves (spot.inner (.slot n)).region .nowhere workspace place changed place := by
  rcases bind_eq_ok_iff.mp assigned with ⟨slots, found, written⟩
  rcases bind_eq_ok_iff.mp written with ⟨source, held, inside⟩
  have present := orUnsuitable_eq_ok_iff.mp found
  have filled : slots[n]? = some (some source) :=
    Option.join_eq_some_iff.mp (orUnsuitable_eq_ok_iff.mp held)
  exact sound.assignNested ((sound.slotsFit lies present).filled n source filled) (by simp) inside

/-- The slots of a layout or of a copy can be made fewer or more. -/
theorem Sound.assignSlots {handle : Handle StoredSlots} (lies : Lies workspace place handle spot)
    (layout : spot.parts ≠ [.store])
    (assigned : workspace.assignSlots handle path content = .ok changed) :
    Evolves spot.region .nowhere workspace place changed place := by
  rcases bind_eq_ok_iff.mp assigned with ⟨slots, found, written⟩
  have fits := sound.slotsFit lies (orUnsuitable_eq_ok_iff.mp found)
  split at written
  · rcases bind_eq_ok_iff.mp written with ⟨length, _, same⟩
    cases same
    refine (Evolves.refl _ _ sound).set lies _ (Place.region_self _)
      ⟨?_, fun store => absurd store layout⟩
    exact fun n source filled => fits.filled n source (getElem?_of_resize filled)
  · exact (sound.assignSlot lies assigned).weaken (fun _ => Place.region_of_region_inner) fun _ => id
  · cases assignUnused_eq written
    exact Evolves.refl _ _ sound

end Assignments

/-! ## Copies -/

/-- What was handed out lies at a place. -/
def HandoutLies (workspace : Workspace) (place : Placement) (spot : Place) : Handout -> Prop
  | .vector handle => Lies workspace place handle spot
  | .source handle => Lies workspace place handle spot
  | .slots handle => Lies workspace place handle spot
  | .keys keys => forall key, key ∈ keys -> Lies workspace place key.value spot

/-- A copy that was handed out at a place. -/
structure Copied (spot : Place) (workspace : Workspace) (place : Placement) (copy : HandedOut)
    (place' : Placement) : Prop where
  evolves : Evolves spot.region spot.region workspace place copy.workspace place'
  lies : HandoutLies copy.workspace place' spot copy.handout

/-- Where copies are kept, apart from everything that is there already. -/
def copySpot (workspace : Workspace) : Place := (Place.alone workspace.objects.size).inner .slots

@[simp]
theorem parts_copySpot (workspace : Workspace) : workspace.copySpot.parts = [.slots] := rfl

section Copies

variable {workspace changed : Workspace} {place : Placement} (sound : Sound workspace place)
include sound

theorem Sound.handOutVector (entries : Components) : Exists fun place' =>
    Copied workspace.copySpot workspace place (workspace.handOutVector entries) place' := by
  have added := sound.addVector entries workspace.copySpot
  exact ⟨_, added.evolves.allow _, added.lies⟩

theorem Sound.handOutSource (source : LayoutSource) : Exists fun place' =>
    Copied workspace.copySpot workspace place (workspace.handOutSource source) place' := by
  rcases sound.addSource source.copy workspace.copySpot (by simp) with ⟨place', added, _⟩
  exact ⟨place', added.evolves.allow _, added.lies⟩

theorem Sound.handOutSources (sources : List Source) : Exists fun place' =>
    Copied workspace.copySpot workspace place (workspace.handOutSources sources) place' := by
  rcases sound.addSlots (layoutSlots sources) workspace.copySpot
    (by simp) with ⟨place', evolves, lies, _⟩
  exact ⟨place', evolves, lies⟩

theorem Sound.handOutKeys (any : AnyGradient) : Exists fun place' =>
    Copied workspace.copySpot workspace place (workspace.handOutKeys any) place' := by
  rcases Sound.addKeys any.kind workspace.copySpot any.gradient.toList sound with ⟨place', keys⟩
  exact ⟨place', keys.evolves.allow _, keys.values⟩

/-- An assignment inside a copy stays inside of it. -/
theorem Sound.assignCopy {spot : Place} {handout : Handout}
    (lies : HandoutLies workspace place spot handout) (copied : spot.parts = [.slots])
    (path : Path) (content : Content) :
    Evolves spot.region .nowhere workspace place (workspace.assignCopy handout path content) place := by
  unfold Workspace.assignCopy
  dsimp only
  split
  case h_1 _ changed assigned =>
    split at assigned
    · exact (sound.assignVector lies assigned).weaken (fun _ same => same ▸ Place.region_self _)
        fun _ => id
    · exact sound.assignNested lies (by simp [copied]) assigned
    · exact sound.assignSlots lies (by simp [copied]) assigned
    · split at assigned
      · rename_i key found
        exact (sound.assignVector (lies key (List.mem_of_getElem? found)) assigned).weaken
          (fun _ same => same ▸ Place.region_self _) fun _ => id
      · cases assigned
    · cases assigned
  case h_2 =>
    -- A place that cannot be assigned to leaves the copy as it is.
    exact Evolves.refl _ _ sound

omit sound in
/-- An assignment inside what is handed out stays inside of the copy. -/
theorem Copied.assign {spot : Place} {place' : Placement} {copy : HandedOut}
    (copy_lies : Copied spot workspace place copy place') (copied : spot.parts = [.slots])
    {path : Path} {content : Content} (assigned : copy.assign path content = .ok changed) :
    Evolves spot.region spot.region workspace place changed place' := by
  rcases bind_eq_ok_iff.mp assigned with ⟨_, _, written⟩
  split at written
  · cases written
    exact copy_lies.evolves.trans ((copy_lies.evolves.sound.assignCopy copy_lies.lies copied path
      content).weaken (fun _ => id) fun _ => False.elim)
  · cases written
    exact copy_lies.evolves

/-- The keys of a gradient are only handed out. -/
theorem Sound.assignKeys {handle : Handle StoredGradient} {path : Path} {content : Content}
    (assigned : workspace.assignKeys handle path content = .ok changed) :
    Exists fun place' => Evolves workspace.copySpot.region workspace.copySpot.region
      workspace place changed place' := by
  rcases bind_eq_ok_iff.mp assigned with ⟨any, _, written⟩
  split at written
  · rcases sound.handOutKeys any with ⟨place', copied⟩
    exact ⟨place', copied.assign rfl written⟩
  · cases assignUnused_eq written
    exact ⟨place, Evolves.refl _ _ sound⟩

end Copies

end Workspace
end ParticleEffects
