import ParticleEffects.Proofs.ShaderSources
import ParticleEffects.Proofs.SlotHistory

namespace ParticleEffects

/-!
Which sources of a force field are active, and what a replacement changes about that.

A source is active as long as no slot up to its own is without mass.  A source that is put
behind the first gap is therefore hidden, one without mass hides what is behind it, and one
that fills the first gap lets the sources up to the next gap come forth at once.
-/

open Number

namespace ForceField

/-! ## Gaps -/

/-- A source whose mass is zero, of either sign. -/
def Source.IsMassless (source : Source) : Prop :=
  Exists fun negative => Datum.ofFloat source.mass = .signed negative 0

theorem hasMass_eq_false_iff (source : Source) : source.hasMass = false ↔ source.IsMassless := by
  rw [PointSource.hasMass, Bool.not_eq_false', ← Datum.isZero_ofFloat, Source.IsMassless]
  cases Datum.ofFloat source.mass with
  | nan =>
    constructor
    · intro zero
      cases zero
    · rintro ⟨_, zero⟩
      cases zero
  | signed negative pattern =>
    rw [Datum.isZero_signed]
    constructor
    · intro zero
      exact ⟨negative, congrArg (Datum.signed negative) (Fin.ext zero)⟩
    · rintro ⟨_, zero⟩
      cases zero
      rfl

theorem hasMass_iff (source : Source) : source.hasMass = true ↔ ¬ source.IsMassless := by
  rw [← hasMass_eq_false_iff, Bool.not_eq_false]

/-- The longest part of the sources, from the front on, in which none is without mass. -/
structure IsActiveFront (active sources : List Source) : Prop where
  front : active <+: sources
  massive : forall source, source ∈ active -> ¬ source.IsMassless
  longest : forall other, other <+: sources ->
    (forall source, source ∈ other -> ¬ source.IsMassless) -> other <+: active

/-- The first place without mass from some slot on, or the number of slots where there is
none. -/
structure IsNextGap (slots : Slots) (start gap : Nat) : Prop where
  start_le : start <= gap
  gap_le : gap <= slotCount
  massive : forall slot : Fin slotCount, start <= slot.val -> slot.val < gap ->
    ¬ slots[slot].IsMassless
  massless : forall slot : Fin slotCount, slot.val = gap -> slots[slot].IsMassless

/-- The length of what is taken from the front is the first place where nothing is taken. -/
theorem length_takeWhile_eq_iff {α : Type} (taken : α -> Bool) (entries : List α) :
    forall count : Nat, (entries.takeWhile taken).length = count ↔
      count <= entries.length ∧ forall place entry, entries[place]? = some entry ->
        (place < count -> taken entry = true) ∧ (place = count -> taken entry = false) := by
  induction entries with
  | nil =>
    intro count
    constructor
    · rintro rfl
      exact ⟨Nat.le_refl _, fun place entry found => nomatch List.getElem?_nil.symm.trans found⟩
    · rintro ⟨none, _⟩
      exact (Nat.le_zero.mp none).symm
  | cons entry rest inductionHypothesis =>
    intro count
    cases kept : taken entry with
    | false =>
      rw [List.takeWhile_cons_of_neg (by simp [kept]), List.length_nil]
      constructor
      · rintro rfl
        refine ⟨Nat.zero_le _, fun place other found => ⟨fun less => by omega, fun first => ?_⟩⟩
        rw [first, List.getElem?_cons_zero, Option.some_inj] at found
        exact found ▸ kept
      · rintro ⟨_, places⟩
        by_contra later
        have first := (places 0 entry List.getElem?_cons_zero).1 (by omega)
        rw [kept] at first
        cases first
    | true =>
      rw [List.takeWhile_cons_of_pos kept, List.length_cons]
      cases count with
      | zero =>
        refine iff_of_false (Nat.succ_ne_zero _) fun ⟨_, places⟩ => ?_
        have first := (places 0 entry List.getElem?_cons_zero).2 rfl
        rw [kept] at first
        cases first
      | succ count =>
        rw [Nat.succ_inj, inductionHypothesis count, List.length_cons, Nat.succ_le_succ_iff]
        refine and_congr_right fun _ => ⟨fun places place other found => ?_,
          fun places place other found => ?_⟩
        · cases place with
          | zero =>
            rw [List.getElem?_cons_zero, Option.some_inj] at found
            exact ⟨fun _ => found ▸ kept, fun zero => by omega⟩
          | succ place =>
            rw [List.getElem?_cons_succ] at found
            rw [Nat.succ_lt_succ_iff, Nat.succ_inj]
            exact places place other found
        · have following := places (place + 1) other (List.getElem?_cons_succ.trans found)
          rwa [Nat.succ_lt_succ_iff, Nat.succ_inj] at following

namespace Slots

theorem activeSources_eq (slots : Slots) :
    slots.activeSources = slots.toList.takeWhile PointSource.hasMass := by
  rw [activeSources, ForceField.activeSources,
    List.take_of_length_le (Nat.le_of_eq slots.length_toList)]

theorem isActiveFront_activeSources (slots : Slots) :
    IsActiveFront slots.activeSources slots.toList := by
  rw [activeSources_eq]
  refine ⟨List.takeWhile_prefix _, fun source member =>
    (hasMass_iff source).mp (List.mem_takeWhile_imp member), fun other front massive => ?_⟩
  rcases front with ⟨rest, whole⟩
  rw [← whole, List.takeWhile_append_of_pos fun source member =>
    (hasMass_iff source).mpr (massive source member)]
  exact List.prefix_append _ _

/-- The number of active sources is the place of the first gap, and nothing else is. -/
theorem activeCount_eq_iff (slots : Slots) (count : Nat) :
    slots.activeCount = count ↔ IsNextGap slots 0 count := by
  have counted : slots.activeCount = (slots.toList.takeWhile PointSource.hasMass).length :=
    congrArg List.length slots.activeSources_eq
  have found (slot : Fin slotCount) : slots.toList[slot.val]? = some slots[slot] := by
    rw [Vector.getElem?_toList]
    exact Vector.getElem?_eq_getElem slot.isLt
  rw [counted, length_takeWhile_eq_iff, slots.length_toList]
  constructor
  · rintro ⟨most, places⟩
    exact ⟨Nat.zero_le _, most,
      fun slot _ less => (hasMass_iff _).mp ((places slot _ (found slot)).1 less),
      fun slot same => (hasMass_eq_false_iff _).mp ((places slot _ (found slot)).2 same)⟩
  · intro gap
    refine ⟨gap.gap_le, fun place source held => ?_⟩
    rcases List.getElem?_eq_some_iff.mp held with ⟨inside, _⟩
    rw [slots.length_toList] at inside
    cases (found ⟨place, inside⟩).symm.trans held
    exact ⟨fun less => (hasMass_iff _).mpr (gap.massive ⟨place, inside⟩ (Nat.zero_le _) less),
      fun same => (hasMass_eq_false_iff _).mpr (gap.massless ⟨place, inside⟩ same)⟩

theorem isNextGap_activeCount (slots : Slots) : IsNextGap slots 0 slots.activeCount :=
  (slots.activeCount_eq_iff _).mp rfl

end Slots

/-! ## Replacements -/

/-- How many sources are active in slots of which one was replaced, with the number of them
before. -/
structure CountsAfter (changed : Slots) (count : Nat) (slot : Fin slotCount) (source : Source) :
    Prop where
  /-- A gap ends the active sources, unless they have ended before. -/
  massless : source.IsMassless -> changed.activeCount = min count slot.val
  elsewhere : ¬ source.IsMassless -> slot.val ≠ count -> changed.activeCount = count
  /-- Where the first gap is filled, the next one counts. -/
  filled : ¬ source.IsMassless -> slot.val = count ->
    IsNextGap changed (slot.val + 1) changed.activeCount

section

variable (slots : Slots) (slot : Fin slotCount) (source : Source)

theorem activeCount_set_of_massless (massless : source.IsMassless) :
    Slots.activeCount (slots.set slot source slot.isLt) = min slots.activeCount slot.val := by
  have gap := slots.isNextGap_activeCount
  rw [Slots.activeCount_eq_iff]
  refine ⟨Nat.zero_le _, (Nat.min_le_left _ _).trans gap.gap_le, fun other _ less => ?_,
    fun other same => ?_⟩
  · rw [Fin.getElem_fin, Vector.getElem_set_ne _ _ (by omega)]
    exact gap.massive other (Nat.zero_le _) (by omega)
  · by_cases replaced : slot = other
    · rw [← replaced, Fin.getElem_fin, Vector.getElem_set_self]
      exact massless
    · have different := fun values => replaced (Fin.ext values)
      rw [Fin.getElem_fin, Vector.getElem_set_ne _ _ different]
      exact gap.massless other (by omega)

theorem activeCount_set_of_ne (massive : ¬ source.IsMassless)
    (different : slot.val ≠ slots.activeCount) :
    Slots.activeCount (slots.set slot source slot.isLt) = slots.activeCount := by
  have gap := slots.isNextGap_activeCount
  rw [Slots.activeCount_eq_iff]
  refine ⟨Nat.zero_le _, gap.gap_le, fun other _ less => ?_, fun other same => ?_⟩
  · by_cases replaced : slot = other
    · rw [← replaced, Fin.getElem_fin, Vector.getElem_set_self]
      exact massive
    · rw [Fin.getElem_fin, Vector.getElem_set_ne _ _ fun values => replaced (Fin.ext values)]
      exact gap.massive other (Nat.zero_le _) less
  · rw [Fin.getElem_fin, Vector.getElem_set_ne _ _ (by omega)]
    exact gap.massless other same

theorem isNextGap_set_of_eq (massive : ¬ source.IsMassless)
    (same : slot.val = slots.activeCount) :
    IsNextGap (slots.set slot source slot.isLt) (slot.val + 1)
      (Slots.activeCount (slots.set slot source slot.isLt)) := by
  have gap := slots.isNextGap_activeCount
  have gap' := Slots.isNextGap_activeCount (slots.set slot source slot.isLt)
  generalize Slots.activeCount (slots.set slot source slot.isLt) = next at gap' ⊢
  refine ⟨?_, gap'.gap_le, fun other _ => gap'.massive other (Nat.zero_le _), gap'.massless⟩
  -- The next gap is no slot up to the replaced one, since none of these is without mass.
  by_contra early
  have inside : next < slotCount := by omega
  have massless := gap'.massless ⟨next, inside⟩ rfl
  by_cases replaced : slot = ⟨next, inside⟩
  · rw [← replaced, Fin.getElem_fin, Vector.getElem_set_self] at massless
    exact massive massless
  · have different : slot.val ≠ next := fun values => replaced (Fin.ext values)
    rw [Fin.getElem_fin, Vector.getElem_set_ne _ _ different] at massless
    exact gap.massive ⟨next, inside⟩ (Nat.zero_le _) (by dsimp only; omega) massless

theorem countsAfter_set :
    CountsAfter (slots.set slot source slot.isLt) slots.activeCount slot source where
  massless := activeCount_set_of_massless slots slot source
  elsewhere := activeCount_set_of_ne slots slot source
  filled := isNextGap_set_of_eq slots slot source

end

end ForceField

namespace Workspace

open ForceField

/-! ## Modifiers -/

section

variable {workspace : Workspace} {place : Placement}

theorem exists_field_of_modifierAt? {handle : Handle StoredModifier} {slots : Slots}
    (seen : workspace.modifierAt? handle = some (.forceField slots)) :
    Exists fun store => workspace.get? handle = some (.forceField store) ∧
      workspace.loadField? store = some slots := by
  rcases Option.bind_eq_some_iff.mp seen with ⟨stored, present, loaded⟩
  cases stored with
  | forceField store =>
    rcases Option.map_eq_some_iff.mp loaded with ⟨found, loadedField, same⟩
    cases same
    exact ⟨store, present, loadedField⟩
  | position spawner =>
    rcases Option.map_eq_some_iff.mp loaded with ⟨_, _, same⟩
    cases same
  | accel vector =>
    rcases Option.map_eq_some_iff.mp loaded with ⟨_, _, same⟩
    cases same
  | color gradient =>
    rcases Option.map_eq_some_iff.mp loaded with ⟨_, _, same⟩
    cases same
  | size gradient =>
    rcases Option.map_eq_some_iff.mp loaded with ⟨_, _, same⟩
    cases same
  | texture texture => cases loaded
  | custom hooks => cases loaded

/-- What is handed out under a name as its active sources. -/
def HandsOutActive (workspace : Workspace) (name : String) (sources : List Source) : Prop :=
  Exists fun copy => Exists fun handle =>
    workspace.handOut name .activeSources = .ok copy ∧ copy.handout = .slots handle ∧
    (copy.workspace.loadSlots? handle).bind seenSources? = some sources

section

variable (separated : Separated workspace place) {handle : Handle StoredModifier} {name : String}
  (selected : workspace.lookup name = some (.modifier handle)) {slots : Slots}
  (seen : workspace.modifierAt? handle = some (.forceField slots))
include separated selected seen

/-- A modifier with a force field holds the slots that are seen. -/
theorem Separated.holdsSlots : HoldsSlots handle slots workspace place [] :=
  ⟨separated.named _ _ selected, exists_field_of_modifierAt? seen⟩

theorem Separated.handsOutActive : HandsOutActive workspace name slots.activeSources := by
  have observed := (observe_of_lookup selected).trans (view_modifier seen)
  refine ⟨workspace.handOutSources slots.activeSources,
    (workspace.addSlots (layoutSlots slots.activeSources)).2, ?_, rfl, ?_⟩
  · simp only [Workspace.handOut, observed, ok_bind]
    rfl
  · rcases separated.sound.addSlots (layoutSlots slots.activeSources) workspace.copySpot
      (by simp) with ⟨_, _, _, loaded⟩
    have loadedSources := congrArg (Option.bind · seenSources?) loaded
    exact loadedSources.trans (seenSources?_layoutSlots _)

/-- A replacement that is not refused puts the source into the slot that the number is. -/
theorem Separated.exists_slot_of_replaceSource {operand : SourceOperand} {index : Float}
    {step : Step} (stepped : workspace.step (.replaceSource name operand index) = .ok step)
    {observation : Observation} (accepted : step.answer = .replaced observation none) :
    Exists fun source => Exists fun slot : Fin slotCount =>
      workspace.readSource operand = .ok source ∧
      index.isFinite = true ∧ (Datum.ofFloat index).value = slot.val ∧
      observation = .modifier (.forceField (slots.set slot source slot.isLt)) ∧
      step.workspace.modifierAt? handle = some (.forceField (slots.set slot source slot.isLt)) := by
  have holds := separated.holdsSlots selected seen
  rcases bind_eq_ok_iff.mp stepped with ⟨source, read, _⟩
  cases addressed : Slots.address? index with
  | none =>
    cases stepped.symm.trans (holds.refuse selected read addressed)
    cases accepted
  | some slot =>
    rcases holds.replaceSource separated selected read addressed with
      ⟨changed, place', replaced, _, holds'⟩
    cases stepped.symm.trans replaced
    cases accepted
    rcases (Slots.address?_eq_some_iff index slot).mp addressed with ⟨finite, value⟩
    exact ⟨source, slot, read, finite, value, rfl, holds'.modifierAt?_eq⟩

end

end

/-- The active sources of a modifier are those before its first gap, and a replacement changes
their number only by a gap among them or by filling the first one. -/
theorem active_sources_follow_replacements (history : List Command)
    {handle : Handle StoredModifier} {slots : Slots}
    (seen : (runTo {} history).modifierAt? handle = some (.forceField slots)) :
    IsActiveFront slots.activeSources slots.toList ∧
    slots.activeCount = slots.activeSources.length ∧ IsNextGap slots 0 slots.activeCount ∧
    forall {name : String}, (runTo {} history).lookup name = some (.modifier handle) ->
      HandsOutActive (runTo {} history) name slots.activeSources ∧
      forall {operand : SourceOperand} {index : Float} {step : Step} {observation : Observation},
        (runTo {} history).step (.replaceSource name operand index) = .ok step ->
        step.answer = .replaced observation none ->
        Exists fun source => Exists fun slot : Fin slotCount =>
          (runTo {} history).readSource operand = .ok source ∧
          index.isFinite = true ∧ (Datum.ofFloat index).value = slot.val ∧
          observation = .modifier (.forceField (slots.set slot source slot.isLt)) ∧
          step.workspace.modifierAt? handle = some (.forceField (slots.set slot source slot.isLt)) ∧
          CountsAfter (slots.set slot source slot.isLt) slots.activeCount slot source := by
  rcases exists_separated history with ⟨place, separated⟩
  refine ⟨slots.isActiveFront_activeSources, rfl, slots.isNextGap_activeCount,
    fun selected => ⟨separated.handsOutActive selected seen, fun stepped accepted => ?_⟩⟩
  rcases separated.exists_slot_of_replaceSource selected seen stepped accepted with
    ⟨source, slot, read, finite, value, observed, seen'⟩
  exact ⟨source, slot, read, finite, value, observed, seen', countsAfter_set slots slot source⟩

/-- A run that makes a modifier with a gap between two sources. -/
def gapped : List Command := [.put "pair" (.modifier (.forceField [ball 1, ball (-0.0), ball 2]))]

/-- The source behind the gap comes forth when the gap is filled. -/
theorem hidden_source_comes_forth :
    Exists fun handle => Exists fun slots : Slots =>
      Exists fun step => Exists fun changed : Slots =>
      (runTo {} gapped).modifierAt? handle = some (.forceField slots) ∧
      (runTo {} gapped).lookup "pair" = some (.modifier handle) ∧ slots.activeCount = 1 ∧
      (runTo {} gapped).step (.replaceSource "pair" (ball 3) 1) = .ok step ∧
      step.answer = .replaced (.modifier (.forceField changed)) none ∧
      step.workspace.modifierAt? handle = some (.forceField changed) ∧
      IsNextGap changed 2 changed.activeCount ∧ changed.activeCount = 3 := by
  rcases exists_separated [] with ⟨place, separated⟩
  have read : [ball 1, ball (-0.0), ball 2].mapM (runTo {} []).readSource =
      .ok [ballSource 1, ballSource (-0.0), ballSource 2] :=
    toOption_eq_some_iff.mp (by decide +kernel)
  rcases separated.exists_holdsSlots read (by decide) "pair" with
    ⟨made, handle, place', stepped, selected, separated', holds⟩
  have reached : runTo {} gapped = made.workspace := by
    change (runCommand (runTo {} []) _).2 = _
    rw [runCommand, stepped]
  rw [← reached] at selected separated' holds
  have addressed : Slots.address? 1 = some ⟨1, by decide⟩ := by decide +kernel
  have readThird : (runTo {} gapped).readSource (ball 3) = .ok (ballSource 3) := rfl
  rcases holds.replaceSource separated' selected readThird addressed with
    ⟨changed, place'', replaced, _, _⟩
  have seen := holds.modifierAt?_eq
  have counted : Slots.activeCount (Slots.filled
      [ballSource 1, ballSource (-0.0), ballSource 2]) = 1 := by decide +kernel
  rcases active_sources_follow_replacements gapped seen with ⟨_, _, _, acts⟩
  rcases (acts selected).2 replaced rfl with
    ⟨source, slot, read', finite, value, _, seen', counts⟩
  cases readThird.symm.trans read'
  cases addressed.symm.trans ((Slots.address?_eq_some_iff 1 slot).mpr ⟨finite, value⟩)
  exact ⟨handle, _, _, _, seen, selected, counted, replaced, rfl, seen',
    counts.filled (by rw [← hasMass_iff]; decide +kernel) counted.symm, by decide +kernel⟩

end Workspace
end ParticleEffects
