import ParticleEffects.Proofs.Histories
import ParticleEffects.Proofs.LastWrites
import ParticleEffects.Proofs.NumberValue

namespace ParticleEffects

/-!
What the slots of a force field hold after a run.

A slot is addressed by its number and by nothing else.  A modifier with a force field
has sixteen slots at all times; each of them holds the source that was last put there,
and at first the one that the modifier was made with.  What is refused changes nothing.
-/

open Spatial ForceField Number

namespace ForceField

/-! ## Addresses -/

/-- A number that is no place among the slots. -/
def OutOfRange (index : Float) : Prop :=
  index.isNaN = true ∨ index.isInf = true ∨ ¬ IsWhole index ∨ index < 0 ∨ 16 <= index

namespace Slots

theorem address?_eq_some_iff_natural? (index : Float) (slot : Fin slotCount) :
    address? index = some slot ↔ natural? index = some slot.val := by
  unfold address?
  split
  · rename_i n found
    rw [found]
    split
    · simp [Fin.ext_iff]
    · rename_i outside
      simp only [reduceCtorEq, Option.some.injEq, false_iff]
      exact fun same => outside (same ▸ slot.isLt)
  · rename_i missing
    simp [missing]

/-- A slot is addressed by its number; both zeros address the first slot. -/
theorem address?_eq_some_iff (index : Float) (slot : Fin slotCount) :
    address? index = some slot ↔
      index.isFinite = true ∧ (Datum.ofFloat index).value = slot.val := by
  rw [address?_eq_some_iff_natural?, natural?_eq_some_iff]

theorem not_outOfRange_of_address? {index : Float} {slot : Fin slotCount}
    (found : address? index = some slot) : ¬ OutOfRange index := by
  have steps := natural?_eq_some_iff_steps.mp ((address?_eq_some_iff_natural? index slot).mp found)
  rcases steps with ⟨finite, notBelow, whole, count⟩
  rw [isFinite_eq_not, Bool.not_eq_true', Bool.or_eq_false_iff] at finite
  rintro (none | infinite | fraction | below | above)
  · exact absurd none (Bool.eq_false_iff.mp finite.1)
  · exact absurd infinite (Bool.eq_false_iff.mp finite.2)
  · exact fraction ((isWhole_iff index).mpr whole)
  · exact absurd ((lt_zero_iff index).mp below) (by simp [notBelow])
  · have enough := (Nat.le_div_iff_mul_le Format.double.unit_pos).mpr
      ((sixteen_le_iff index).mp above).2
    rw [count] at enough
    exact absurd slot.isLt (Nat.not_lt.mpr enough)

theorem exists_address?_of_not_outOfRange {index : Float} (inside : ¬ OutOfRange index) :
    Exists fun slot => address? index = some slot := by
  simp only [OutOfRange, not_or, not_not] at inside
  rcases inside with ⟨number, finite, whole, notBelow, notAbove⟩
  have below : (Datum.ofFloat index).isBelowZero = false :=
    Bool.eq_false_iff.mpr fun isBelow => notBelow ((lt_zero_iff index).mpr isBelow)
  have small : (Datum.ofFloat index).steps / Format.double.unit < slotCount := by
    rw [slotCount, Nat.div_lt_iff_lt_mul Format.double.unit_pos]
    by_contra many
    exact notAbove ((sixteen_le_iff index).mpr ⟨below, Nat.not_lt.mp many⟩)
  refine ⟨⟨_, small⟩, (address?_eq_some_iff_natural? index _).mpr
    (natural?_eq_some_iff_steps.mpr ⟨?_, below, (isWhole_iff index).mp whole, rfl⟩)⟩
  rw [isFinite_eq_not, Bool.eq_false_iff.mpr number, Bool.eq_false_iff.mpr finite]
  rfl

/-- A number addresses no slot exactly where it is out of range. -/
theorem address?_eq_none_iff (index : Float) : address? index = none ↔ OutOfRange index := by
  constructor
  · intro missing
    by_contra inside
    rcases exists_address?_of_not_outOfRange inside with ⟨slot, found⟩
    cases missing.symm.trans found
  · intro outside
    cases found : address? index with
    | none => rfl
    | some slot => exact absurd outside (not_outOfRange_of_address? found)

/-! ## Contents -/

/-- The slots with sources put into them, one after the other. -/
def putAll (slots : Slots) (entries : List (Fin slotCount × Source)) : Slots :=
  entries.foldl (fun slots entry => slots.set entry.1 entry.2) slots

/-- The source that is put into a slot last. -/
def lastAt (slot : Fin slotCount) : List (Fin slotCount × Source) -> Option Source :=
  lastOf fun entry => if entry.1 = slot then some entry.2 else none

theorem getElem_putAll (slot : Fin slotCount) (entries : List (Fin slotCount × Source)) :
    forall slots : Slots, (slots.putAll entries)[slot] = (lastAt slot entries).getD slots[slot] := by
  induction entries with
  | nil => intro slots; rfl
  | cons entry rest inductionHypothesis =>
    intro slots
    have first : (slots.putAll (entry :: rest))[slot] =
        (putAll (slots.set entry.1 entry.2) rest)[slot] := rfl
    rw [first, inductionHypothesis, lastAt, lastOf_cons]
    cases lastOf (fun entry : Fin slotCount × Source =>
      if entry.1 = slot then some entry.2 else none) rest with
    | some source => rfl
    | none =>
      simp only [Option.getD_none, Option.none_or, Fin.getElem_fin, Vector.getElem_set, Fin.ext_iff]
      split <;> rfl

theorem putAll_append (slots : Slots) (entries others : List (Fin slotCount × Source)) :
    slots.putAll (entries ++ others) = (slots.putAll entries).putAll others :=
  List.foldl_append

theorem pack_toList (slots : Slots) : ForceField.pack slots.toList = .ok slots.pack := by
  rw [ForceField.pack, if_pos (Nat.le_of_eq slots.length_toList), filled_toList]

end Slots

end ForceField

namespace Workspace

/-! ## One replacement -/

variable {workspace : Workspace} {place : Placement}

/-- A slot that is replaced is replaced in what is loaded of the slots. -/
theorem Sound.loadField?_replaceSlot (sound : Sound workspace place)
    {modifier : Handle StoredModifier} {store : Handle StoredSlots}
    (lies : Lies workspace place modifier (.alone modifier.address))
    (present : workspace.get? modifier = some (.forceField store)) {slots : Slots}
    (loaded : workspace.loadField? store = some slots) {source : Source} {slot : Fin slotCount}
    {changed : Workspace} (replaced : workspace.replaceSlot store source slot = .ok changed) :
    changed.get? modifier = some (.forceField store) ∧
      changed.loadField? store = some (slots.set slot source) := by
  rcases bind_eq_ok_iff.mp replaced with ⟨held, found, same⟩
  have foundHeld := orUnsuitable_eq_ok_iff.mp found
  have liesStore : Lies workspace place store ((Place.alone modifier.address).inner .store) :=
    (sound.modifierFits lies present).2
  have fits := sound.slotsFit liesStore foundHeld
  rcases exists_of_loadField? loaded with ⟨loadedSlots, foundSlots, seen⟩
  rw [loadSlots?_of_get? foundHeld] at foundSlots
  rcases sound.addSource (.ofSource source)
    (((Place.alone modifier.address).inner .store).inner (.slot slot)) (by simp) with
    ⟨place', added, loadedSource⟩
  have liesStore' := liesStore.change added.evolves.changes
  have written (content : StoredSlots) := changes_set liesStore' content
  have agrees (content : StoredSlots) := (written content).agrees
    (slotsFrom ((Place.alone modifier.address).inner .store) 0) fun _ inside same =>
      not_slotsFrom_self _ _ (same ▸ inside)
  have left : changed = (workspace.addSource (.ofSource source)).1.set store
      (held.set slot (some (workspace.addSource (.ofSource source)).2)) := by
    rw [← writeAt_of_lt none (by rw [(fits.complete rfl).1]; exact slot.isLt)]
    exact (Except.ok.inj same).symm
  have others : (held.mapM fun slot => slot.mapM changed.loadSource?) = some loadedSlots := by
    rw [left, (agrees _).slots (inward_slotsFrom _ _) added.evolves.sound
      (fun n handle filled => (fits.filled n handle filled).change added.evolves.changes)
      fun n => ⟨n, Nat.zero_le n, Place.region_self _⟩]
    exact (added.evolves.changes.grows.slots Region.inward_everywhere sound fits.filled
      fun _ => trivial).trans foundSlots
  have replacement : (some (workspace.addSource (.ofSource source)).2).mapM changed.loadSource? =
      some (some (.ofSource source)) := by
    rw [left, Option.mapM_some, (agrees _).loadSource? (inward_slotsFrom _ _) added.evolves.sound
      added.lies (by simp) ⟨slot, Nat.zero_le _, Place.region_self _⟩, loadedSource]
    rfl
  constructor
  · rw [left, liesStore'.get?_set_ne (lies.change added.evolves.changes) (Place.inner_ne _ _).symm]
    exact (added.evolves.changes.grows.get? lies trivial).trans present
  · have foundReplaced : changed.loadSlots? store =
        some (loadedSlots.set slot (some (.ofSource source))) := by
      refine (loadSlots?_of_get? (left ▸ liesStore'.get?_set_self _)).trans ?_
      exact mapM_set replacement others slot
    have seenReplaced : seenSources? (loadedSlots.set slot (some (.ofSource source))) =
        some (slots.set slot source).toList := by
      rw [Vector.toList_set, seenSources?]
      exact mapM_set (by rfl) seen slot
    rw [loadField?, foundReplaced, Option.bind_eq_bind, Option.bind_some, seenReplaced,
      Option.bind_eq_bind, Option.bind_some, Slots.ofList?_toList]

/-- A modifier with a force field that holds what was put into its slots. -/
structure HoldsSlots (handle : Handle StoredModifier) (initial : Slots) (workspace : Workspace)
    (place : Placement) (entries : List (Fin slotCount × Source)) : Prop where
  lies : Lies workspace place handle (.alone handle.address)
  held : Exists fun store => workspace.get? handle = some (.forceField store) ∧
    workspace.loadField? store = some (Slots.putAll initial entries)

/-- What a command puts into a slot of a modifier. -/
def putSources (workspace : Workspace) (handle : Handle StoredModifier) :
    Command -> List (Fin slotCount × Source)
  | .replaceSource name operand index =>
    if workspace.lookup name = some (.modifier handle) then
      match workspace.readSource operand, Slots.address? index with
      | .ok source, some slot => [(slot, source)]
      | _, _ => []
    else []
  | _ => []

theorem modifierAt?_of_loadField? {handle : Handle StoredModifier} {store : Handle StoredSlots}
    (present : workspace.get? handle = some (.forceField store)) {slots : Slots}
    (loaded : workspace.loadField? store = some slots) :
    workspace.modifierAt? handle = some (.forceField slots) := by
  simp only [modifierAt?_of_get? present, loadModifier?, Modifier.mapM?, loaded, Option.map_some]

theorem step_pack_of_modifierAt? {name : String} {handle : Handle StoredModifier}
    (selected : workspace.lookup name = some (.modifier handle)) {slots : Slots}
    (seen : workspace.modifierAt? handle = some (.forceField slots)) :
    workspace.step (.pack name) = .ok {
      workspace := workspace
      answer := .packed slots.pack } := by
  simp only [step, packBuffer, observe_of_lookup selected, view_modifier seen, ok_bind,
    Slots.pack_toList]
  rfl

section

variable {handle : Handle StoredModifier} {initial : Slots}
  {entries : List (Fin slotCount × Source)} (holds : HoldsSlots handle initial workspace place entries)
include holds

theorem HoldsSlots.modifierAt?_eq :
    workspace.modifierAt? handle = some (.forceField (Slots.putAll initial entries)) := by
  rcases holds.held with ⟨store, present, loaded⟩
  exact modifierAt?_of_loadField? present loaded

/-- A slot that is addressed is filled with the source. -/
theorem HoldsSlots.replaceSource (separated : Separated workspace place) {name : String}
    (selected : workspace.lookup name = some (.modifier handle)) {operand : SourceOperand}
    {source : Source} (read : workspace.readSource operand = .ok source) {index : Float}
    {slot : Fin slotCount} (addressed : Slots.address? index = some slot) :
    Exists fun changed => Exists fun place' =>
      workspace.step (.replaceSource name operand index) = .ok {
        workspace := changed
        answer := .replaced (.modifier (.forceField ((Slots.putAll initial entries).set slot source)))
          none } ∧
      Separated changed place' ∧
      HoldsSlots handle initial changed place' (entries ++ [(slot, source)]) := by
  rcases holds.held with ⟨store, present, loaded⟩
  have liesStore : Lies workspace place store ((Place.alone handle.address).inner .store) :=
    (separated.sound.modifierFits holds.lies present).2
  rcases liesStore.exists_get? with ⟨held, foundHeld⟩
  have succeeds : Exists fun changed => workspace.replaceSlot store source slot = .ok changed :=
    ⟨_, by rw [replaceSlot, orUnsuitable_eq_ok_iff.mpr foundHeld, ok_bind]; rfl⟩
  rcases succeeds with ⟨changed, replaced⟩
  have kept : Exists fun place' => Kept [handle.address] [] [] workspace place changed place' :=
    separated.replaceSlot holds.lies present slot.isLt replaced
  rcases kept with ⟨place', kept⟩
  rcases separated.sound.loadField?_replaceSlot holds.lies present loaded replaced with
    ⟨present', loaded'⟩
  have selected' := (kept.lookup_eq name List.not_mem_nil).trans selected
  refine ⟨changed, place', ?_, kept.separated, holds.lies.change kept.changes, store, present', ?_⟩
  · simp only [step, read, ok_bind, findSlots, findModifier_of_lookup selected, present,
      Slots.address, addressed, replaced, observe_of_lookup selected',
      view_modifier (modifierAt?_of_loadField? present' loaded')]
    rfl
  · rw [loaded', Slots.putAll_append]
    rfl

/-- Where no slot is addressed, nothing is changed. -/
theorem HoldsSlots.refuse {name : String} (selected : workspace.lookup name = some (.modifier handle))
    {operand : SourceOperand} {source : Source} (read : workspace.readSource operand = .ok source)
    {index : Float} (missing : Slots.address? index = none) :
    workspace.step (.replaceSource name operand index) = .ok {
      workspace := workspace
      answer := .replaced (.modifier (.forceField (Slots.putAll initial entries)))
        (some (.outOfRange index)) } := by
  rcases holds.held with ⟨store, present, loaded⟩
  simp only [step, read, ok_bind, findSlots, findModifier_of_lookup selected, present,
    Slots.address, missing, observe_of_lookup selected, view_modifier holds.modifierAt?_eq]
  rfl

/-- No other command can be directed at the modifier. -/
theorem HoldsSlots.exists_replaceSource_of_step {command : Command} {step : Step}
    (stepped : workspace.step command = .ok step) (suits : command.Suits (.modifier handle))
    (directed : workspace.directed? command = some (.modifier handle))
    (reached : handle.address ∈ workspace.reach command (.modifier handle)) :
    Exists fun name => Exists fun operand => Exists fun index => Exists fun source =>
      command = .replaceSource name operand index ∧
        workspace.lookup name = some (.modifier handle) ∧
        workspace.readSource operand = .ok source := by
  rcases holds.held with ⟨store, present, _⟩
  cases command with
  | replaceSource name operand index =>
    rcases bind_eq_ok_iff.mp stepped with ⟨source, read, _⟩
    exact ⟨name, operand, index, source, rfl, directed, read⟩
  | assign name path content =>
    simp only [reach, assignRoots, present] at reached
    cases reached
  | assignHandout name request path content => cases request <;> cases reached
  | _ => cases suits

/-- Every command puts into the slots what it contributes. -/
theorem HoldsSlots.runCommand (command : Command) (separated : Separated workspace place) :
    Exists fun place' => Separated (workspace.runCommand command).2 place' ∧
      HoldsSlots handle initial (workspace.runCommand command).2 place'
        (entries ++ workspace.putSources handle command) := by
  by_cases puts : Exists fun name => Exists fun operand => Exists fun index =>
      Exists fun source => command = .replaceSource name operand index ∧
        workspace.lookup name = some (.modifier handle) ∧
        workspace.readSource operand = .ok source
  · rcases puts with ⟨name, operand, index, source, rfl, selected, read⟩
    rw [putSources, if_pos selected, read]
    cases addressed : Slots.address? index with
    | some slot =>
      rcases holds.replaceSource separated selected read addressed with
        ⟨changed, place', stepped, separated', holds'⟩
      simp only [Workspace.runCommand, stepped]
      exact ⟨place', separated', holds'⟩
    | none =>
      simp only [Workspace.runCommand, holds.refuse selected read addressed, List.append_nil]
      exact ⟨place, separated, holds⟩
  · have nothing : workspace.putSources handle command = [] := by
      cases command with
      | replaceSource name operand index =>
        rw [putSources]
        split
        · rename_i selected
          cases read : workspace.readSource operand with
          | error failure => rfl
          | ok source => exact absurd ⟨name, operand, index, source, rfl, selected, read⟩ puts
        · rfl
      | _ => rfl
    rw [nothing, List.append_nil]
    rcases separated.untouched_runCommand command (.modifier handle) holds.lies.kind
      (show Kind.modifier ∉ [.vector, .value] by decide) fun stepped suits directed reached =>
        puts (holds.exists_replaceSource_of_step stepped suits directed reached) with
      ⟨place', separated', changes, agrees⟩
    have inward := Place.inward_region (Place.alone handle.address)
    rcases holds.held with ⟨store, present, loaded⟩
    have liesStore : Lies workspace place store ((Place.alone handle.address).inner .store) :=
      (separated.sound.modifierFits holds.lies present).2
    exact ⟨place', separated', holds.lies.change changes, store,
      (agrees.get? holds.lies (Place.region_self _)).trans present,
      (agrees.loadField? inward separated.sound liesStore
        (inward _ (Place.region_self _) _)).trans loaded⟩

end

/-! ## All slots -/

/-- What is put into the slots of a modifier over a run, in the order of the calls. -/
def sourcesPut (handle : Handle StoredModifier) :
    Workspace -> List Command -> List (Fin slotCount × Source) :=
  gather fun workspace => workspace.putSources handle

/-- What acts on a modifier with a force field, in a workspace where it holds these slots. -/
structure ShowsSlots (workspace : Workspace) (handle : Handle StoredModifier) (slots : Slots) :
    Prop where
  /-- There is one source in each slot. -/
  seen : workspace.modifierAt? handle = some (.forceField slots)
  /-- A refused number changes nothing. -/
  refused : forall {name : String} {operand : SourceOperand} {source : Source} {index : Float},
    workspace.lookup name = some (.modifier handle) -> workspace.readSource operand = .ok source ->
    OutOfRange index ->
      workspace.step (.replaceSource name operand index) = .ok {
        workspace := workspace
        answer := .replaced (.modifier (.forceField slots)) (some (.outOfRange index)) }
  /-- Every other number changes the slot that it is. -/
  replaced : forall {name : String} {operand : SourceOperand} {source : Source} {index : Float},
    workspace.lookup name = some (.modifier handle) -> workspace.readSource operand = .ok source ->
    ¬ OutOfRange index ->
      Exists fun slot : Fin slotCount => Exists fun changed =>
        index.isFinite = true ∧ (Datum.ofFloat index).value = slot.val ∧
        workspace.step (.replaceSource name operand index) = .ok {
          workspace := changed
          answer := .replaced (.modifier (.forceField (slots.set slot source))) none } ∧
        changed.modifierAt? handle = some (.forceField (slots.set slot source))
  /-- The slots can be packed. -/
  packed : forall {name : String}, workspace.lookup name = some (.modifier handle) ->
    workspace.step (.pack name) = .ok { workspace := workspace, answer := .packed slots.pack }
  /-- The sources can be counted. -/
  counted : slots.activeCount <= slotCount

theorem HoldsSlots.shows {handle : Handle StoredModifier} {initial : Slots}
    {entries : List (Fin slotCount × Source)}
    (holds : HoldsSlots handle initial workspace place entries)
    (separated : Separated workspace place) :
    ShowsSlots workspace handle (Slots.putAll initial entries) where
  seen := holds.modifierAt?_eq
  refused selected read outside :=
    holds.refuse selected read ((Slots.address?_eq_none_iff _).mpr outside)
  replaced {name operand source index} selected read inside := by
    rcases Slots.exists_address?_of_not_outOfRange inside with ⟨slot, addressed⟩
    rcases (Slots.address?_eq_some_iff index slot).mp addressed with ⟨finite, value⟩
    rcases holds.replaceSource separated selected read addressed with
      ⟨changed, place', stepped, _, holds'⟩
    refine ⟨slot, changed, finite, value, stepped, ?_⟩
    rw [holds'.modifierAt?_eq, Slots.putAll_append]
    rfl
  packed selected := step_pack_of_modifierAt? selected holds.modifierAt?_eq
  counted := activeCount_le_slotCount _

/-- Slots that are made for a modifier hold their sources. -/
theorem Sound.loadField?_addSlots (sound : Sound workspace place) {slots : Slots}
    {extended : Workspace} {store : Handle StoredSlots}
    (made : workspace.addSlots (layoutSlots slots.toList) = (extended, store)) :
    (extended.add (.forceField store : StoredModifier)).1.loadField? store = some slots := by
  rcases sound.addSlots (layoutSlots slots.toList) ((Place.alone 0).inner .store)
    fun _ => complete_layoutSlots slots with ⟨place', evolves, lies, loadedSlots⟩
  rw [made] at evolves lies loadedSlots
  have loaded : extended.loadField? store = some slots := by
    rw [loadField?, loadedSlots, Option.bind_eq_bind, Option.bind_some, seenSources?_layoutSlots,
      Option.bind_eq_bind, Option.bind_some, Slots.ofList?_toList]
  have grows := (changes_add extended place' (.forceField store : StoredModifier)
    (.alone 0)).grows
  exact (grows.loadField? Region.inward_everywhere evolves.sound lies trivial).trans loaded

section

variable {operands : List SourceOperand} {sources : List Source}
  (read : operands.mapM workspace.readSource = .ok sources)
include read

theorem put_forceField_of_many (many : slotCount < sources.length) (name : String) :
    workspace.step (.put name (.modifier (.forceField operands))) =
      .error (.slots .tooManySources) := by
  have refused : Slots.ofSources sources = .error .tooManySources :=
    if_neg (Nat.not_le.mpr many)
  simp only [Workspace.step, Workspace.put, Workspace.make, Workspace.readModifier, read, ok_bind,
    refused]
  rfl

/-- A modifier that is made with a force field holds its sources. -/
theorem Separated.exists_holdsSlots (separated : Separated workspace place)
    (fitting : sources.length <= slotCount) (name : String) :
    Exists fun step => Exists fun handle => Exists fun place' =>
      workspace.step (.put name (.modifier (.forceField operands))) = .ok step ∧
      step.workspace.lookup name = some (.modifier handle) ∧
      Separated step.workspace place' ∧
      HoldsSlots handle (Slots.filled sources) step.workspace place' [] := by
  have accepted : Slots.ofSources sources = .ok (Slots.filled sources) := if_pos fitting
  rcases made : workspace.addSlots (layoutSlots (Slots.filled sources).toList) with
    ⟨extended, store⟩
  have loaded := separated.sound.loadField?_addSlots made
  have readModifier : workspace.readModifier name (.forceField operands) =
      .ok (extended, .forceField store) := by
    simp only [Workspace.readModifier, read, ok_bind, accepted, Except.mapError, made]
    rfl
  rcases separated.readModifier readModifier with ⟨place', grown, lies⟩
  have put : workspace.put name (.modifier (.forceField operands)) =
      .ok ((extended.add (.forceField store : StoredModifier)).1.bind name
        (.modifier (extended.add (.forceField store : StoredModifier)).2)) := by
    simp only [Workspace.put, Workspace.make, readModifier, ok_bind]
    rfl
  have present := get?_add_self extended (.forceField store : StoredModifier)
  generalize extended.add (.forceField store : StoredModifier) = made at loaded put present grown lies
  rcases made with ⟨larger, handle⟩
  have whole : AssetLies larger place' (.modifier handle) := lies
  have holds : HoldsSlots handle (Slots.filled sources)
      (larger.bind name (.modifier handle)) place' [] :=
    ⟨whole.bind _ _, store, present, loaded⟩
  have selected := lookup_bind_self larger name (.modifier handle)
  have stepped : workspace.step (.put name (.modifier (.forceField operands))) = .ok {
      workspace := larger.bind name (.modifier handle)
      answer := .observed (.modifier (.forceField (Slots.filled sources))) } := by
    simp only [Workspace.step, put, ok_bind, stepTo, observe_of_lookup selected,
      view_modifier holds.modifierAt?_eq]
    rfl
  exact ⟨_, handle, place', stepped, selected, grown.separated.bind name whole, holds⟩

end

/-- A modifier with a force field is made of at most sixteen sources.  After every run each
of its slots holds the source that was last put there or the one it was made with, and is
empty where there is neither; only numbers of slots are accepted, and all is packed. -/
theorem slots_hold_last_sources (history : List Command) (name : String)
    {operands : List SourceOperand} {sources : List Source}
    (read : operands.mapM (runTo {} history).readSource = .ok sources) :
    ((runTo {} history).step (.put name (.modifier (.forceField operands))) =
      .error (.slots .tooManySources) ↔ slotCount < sources.length) ∧
    (sources.length <= slotCount ->
      Exists fun step => Exists fun handle =>
        (runTo {} history).step (.put name (.modifier (.forceField operands))) = .ok step ∧
        step.workspace.lookup name = some (.modifier handle) ∧
        forall between : List Command, Exists fun slots =>
          ShowsSlots (step.workspace.runTo between) handle slots ∧
          forall slot : Fin slotCount, slots[slot] =
            ((Slots.lastAt slot (sourcesPut handle step.workspace between)).or
              sources[slot.val]?).getD .empty) := by
  rcases exists_separated history with ⟨place, separated⟩
  refine ⟨⟨fun refused => ?_, fun many => put_forceField_of_many read many name⟩, fun fitting => ?_⟩
  · by_contra few
    rcases separated.exists_holdsSlots read (Nat.not_lt.mp few) name with
      ⟨step, _, _, stepped, _⟩
    cases stepped.symm.trans refused
  · rcases separated.exists_holdsSlots read fitting name with
      ⟨step, handle, place', stepped, selected, separated', holds⟩
    refine ⟨step, handle, stepped, selected, fun between => ?_⟩
    rcases Separated.shows_runTo (fun command separated holds => holds.runCommand command separated)
      between separated' holds with ⟨_, separated'', holds'⟩
    refine ⟨_, holds'.shows separated'', fun slot => ?_⟩
    rw [List.nil_append, Slots.getElem_putAll, sourcesPut, Option.getD_or]
    exact congrArg (Option.getD _) (Slots.getElem_filled sources slot.val slot.isLt)

/-- A source of some mass at the origin. -/
def ball (mass : Float) : SourceOperand := .given { mass := some mass }

/-- What is read of such a source. -/
def ballSource (mass : Float) : Source := { Source.empty with mass := mass }

/-- Replacements of the last slot, of no slot and, by both zeros, of the first. -/
def ballCalls : List Command := [
  .replaceSource "field" (ball 2) 15,
  .replaceSource "field" (ball 3) 16,
  .replaceSource "field" (ball 4) 0,
  .replaceSource "field" (ball 5) (-0.0)]

/-- The step that makes the modifier. -/
def ballStep : Step :=
  ((runTo {} []).step (.put "field" (.modifier (.forceField [ball 0, ball 1])))).toOption.get
    (by decide +kernel)

theorem slots_hold_last_balls :
    Exists fun handle => Exists fun slots =>
      (runTo {} []).step (.put "field" (.modifier (.forceField [ball 0, ball 1]))) = .ok ballStep ∧
      ShowsSlots (ballStep.workspace.runTo ballCalls) handle slots ∧
      slots[0] = ballSource 5 ∧ slots[1] = ballSource 1 ∧ slots[2] = .empty ∧
      slots[15] = ballSource 2 := by
  have read : [ball 0, ball 1].mapM (runTo {} []).readSource = .ok [ballSource 0, ballSource 1] :=
    toOption_eq_some_iff.mp (by decide +kernel)
  rcases (slots_hold_last_sources [] "field" read).2 (by decide) with
    ⟨step, handle, stepped, selected, holds⟩
  have answered : (runTo {} []).step (.put "field" (.modifier (.forceField [ball 0, ball 1]))) =
      .ok ballStep := toOption_eq_some_iff.mp (Option.some_get _).symm
  cases stepped.symm.trans answered
  have made : ballStep.workspace.lookup "field" = some (.modifier { address := 33 }) := by
    decide +kernel
  cases selected.symm.trans made
  rcases holds ballCalls with ⟨slots, shows', contents⟩
  have first := contents ⟨0, by decide⟩
  have second := contents ⟨1, by decide⟩
  have third := contents ⟨2, by decide⟩
  have last := contents ⟨15, by decide⟩
  exact ⟨_, slots, answered, shows', first.trans (by decide +kernel),
    second.trans (by decide +kernel), third.trans (by decide +kernel),
    last.trans (by decide +kernel)⟩

end Workspace
end ParticleEffects
