import ParticleEffects.Proofs.Histories
import ParticleEffects.Proofs.StableKeys

namespace ParticleEffects

/-!
What a gradient holds after a run.

A gradient holds the keys it was made with and those that were added to it later,
under whatever name, each with the components that its vector had when it was added.
Nothing else changes it, so that its keys are the stable sort of all insertions.
-/

open Spatial

namespace Gradient

variable {ρ Value Target : Type} [LE ρ] [DecidableLE ρ]

/-- Bisection looks at nothing but the ratios. -/
theorem bisect_congr {keys : Array (GradientKey ρ Value)} {keys' : Array (GradientKey ρ Target)}
    (ratios : forall (place : Nat) (inside : place < keys.size) (inside' : place < keys'.size),
      keys'[place].ratio = keys[place].ratio)
    (ratio : ρ) (low high : Nat) (bounded : high <= keys.size) (bounded' : high <= keys'.size) :
    bisect keys' ratio low high bounded' = bisect keys ratio low high bounded := by
  fun_induction bisect keys ratio low high bounded with
  | case1 low high bounded within middle reached inductionHypothesis =>
    rw [bisect, dif_pos within]
    dsimp only
    rw [if_pos (by rwa [ratios _ (by omega)]), inductionHypothesis]
  | case2 low high bounded within middle beyond inductionHypothesis =>
    rw [bisect, dif_pos within]
    dsimp only
    rw [if_neg (by rwa [ratios _ (by omega)]), inductionHypothesis]
  | case3 low high bounded empty => rw [bisect, dif_neg empty]

theorem insertionPoint_congr {gradient : Gradient ρ Value} {other : Gradient ρ Target}
    (same : other.toList.map GradientKey.ratio = gradient.toList.map GradientKey.ratio) (ratio : ρ) :
    other.insertionPoint ratio = gradient.insertionPoint ratio := by
  have size : other.keys.size = gradient.keys.size := by
    simpa [toList] using congrArg List.length same
  have ratios (place : Nat) (inside : place < gradient.keys.size) (inside' : place < other.keys.size) :
      other.keys[place].ratio = gradient.keys[place].ratio := by
    have entries := congrArg (fun ratios => ratios[place]?) same
    simpa [toList, inside, inside'] using entries
  simp only [insertionPoint, size]
  exact bisect_congr ratios ratio 0 _ _ _

/-- A key may be inserted before or after the values are given in another way. -/
theorem mapM?_insert {load : Value -> Option Target} {gradient : Gradient ρ Value}
    {loaded : Gradient ρ Target} (found : gradient.mapM? load = some loaded)
    {key : GradientKey ρ Value} {key' : GradientKey ρ Target} (foundKey : key.mapM? load = some key') :
    (gradient.insert key).mapM? load = some (loaded.insert key') := by
  rcases Option.map_eq_some_iff.mp found with ⟨keys, foundKeys, rfl⟩
  have ratioOf {key : GradientKey ρ Value} {loaded : GradientKey ρ Target}
      (found : key.mapM? load = some loaded) : loaded.ratio = key.ratio := by
    rcases Option.map_eq_some_iff.mp found with ⟨_, _, rfl⟩
    rfl
  have point : (ofList keys).insertionPoint key'.ratio = gradient.insertionPoint key.ratio := by
    rw [ratioOf foundKey]
    exact insertionPoint_congr (map_eq_map_of_mapM _ _ ratioOf foundKeys) key.ratio
  have inserted : (gradient.insert key).toList.mapM (GradientKey.mapM? load) =
      some ((ofList keys).insert key').toList := by
    rw [toList_insert, toList_insert, point, toList_ofList]
    exact mapM_insertIdx foundKey foundKeys _
  exact Option.map_eq_some_iff.mpr ⟨_, inserted, rfl⟩

theorem ofKeys_append (keys others : List (GradientKey ρ Value)) :
    (ofKeys keys).insertAll others = ofKeys (keys ++ others) :=
  (List.foldl_append ..).symm

end Gradient

namespace Workspace

/-! ## Insertions -/

section

variable (workspace : Workspace)

/-- The keys that a gradient starts with. -/
def startKeys (kind : GradientKind) :
    GradientStart -> Except Failure (List (GradientKey Float (Vector Component kind.width)))
  | .empty => .ok []
  | .constant value => do return [<- workspace.readKey kind (0, value)]
  | .linear start stop => do
    return [<- workspace.readKey kind (0, start), <- workspace.readKey kind (1, stop)]

/-- The keys that a new gradient is made with, in the order of their insertion. -/
def insertions (draft : GradientDraft) :
    Except Failure (List (GradientKey Float (Vector Component draft.kind.width))) := do
  let start <- workspace.startKeys draft.kind draft.start
  let keys <- draft.keys.mapM (workspace.readKey draft.kind)
  return start ++ keys

/-- The key that a command adds to a gradient. -/
def addedKeys (kind : GradientKind) (handle : Handle StoredGradient) :
    Command -> List (GradientKey Float (Vector Component kind.width))
  | .addKey name ratio value =>
    if workspace.lookup name = some (.gradient handle) then
      (workspace.readKey kind (ratio, value)).toOption.toList
    else []
  | _ => []

end

variable {workspace : Workspace} {place : Placement}

theorem readStart_eq (kind : GradientKind) (start : GradientStart) :
    workspace.readStart kind start = (workspace.startKeys kind start).map Gradient.ofKeys := by
  cases start with
  | empty => rfl
  | constant value =>
    simp only [readStart, startKeys, readKey, readValue]
    cases workspace.components value <;> rfl
  | linear start stop =>
    simp only [readStart, startKeys, readKey, readValue]
    cases workspace.components start with
    | error failure => rfl
    | ok entries => cases workspace.components stop <;> rfl

theorem readGradient_of_insertions {draft : GradientDraft}
    {keys : List (GradientKey Float (Vector Component draft.kind.width))}
    (read : workspace.insertions draft = .ok keys) :
    workspace.readGradient draft = .ok { kind := draft.kind, gradient := .ofKeys keys } := by
  rcases bind_eq_ok_iff.mp read with ⟨start, foundStart, rest⟩
  rcases bind_eq_ok_iff.mp rest with ⟨others, foundOthers, same⟩
  cases same
  rw [readGradient, readStart_eq, foundStart, foundOthers, ← Gradient.ofKeys_append]
  rfl

/-! ## One key -/

/-- A key that is added to a stored gradient is added to what is loaded of it. -/
theorem Sound.loadGradient?_insertKey (sound : Sound workspace place)
    {handle : Handle StoredGradient} (lies : Lies workspace place handle (.alone handle.address))
    {any : AnyGradient} (loaded : workspace.loadGradient? handle = some any) {ratio : Float}
    {entries : Components} {changed : Workspace}
    (inserted : workspace.insertKey handle ratio entries = .ok changed) :
    changed.loadGradient? handle = some (any.addKey ratio entries) := by
  rcases bind_eq_ok_iff.mp inserted with ⟨stored, found, same⟩
  have present := orUnsuitable_eq_ok_iff.mp found
  have values := (sound.gradientFits lies present).values
  rw [loadGradient?_of_get? present] at loaded
  rcases Option.map_eq_some_iff.mp loaded with ⟨gradient, foundKeys, rfl⟩
  have added := sound.addVector (entries.copy stored.kind.width)
    ((Place.alone handle.address).inner .key)
  have lies' := lies.change added.evolves.changes
  have left : changed = (workspace.add (entries.copy stored.kind.width)).1.set handle { stored with
      gradient := stored.gradient.addKey ratio
        (workspace.add (entries.copy stored.kind.width)).2 } := (Except.ok.inj same).symm
  rw [left, loadGradient?_of_get? (lies'.get?_set_self _)]
  refine congrArg (Option.map _) (Gradient.mapM?_insert ?_ ?_)
  · exact (congrArg (Option.map _) ((lies'.keys_set _ stored.kind fun key member =>
      (values key member).change added.evolves.changes).trans
        (added.evolves.changes.grows.keys stored.kind values trivial))).trans foundKeys
  · have value (content : StoredGradient) :=
      (lies'.get?_set_ne added.lies (Place.inner_ne _ _) content).trans (get?_add_self _ _)
    refine (congrArg (Option.map _) (congrArg (Option.map _) (value _))).trans ?_
    rw [Option.map_some, Option.map_some, Components.copy, toVector_toList]

/-- A gradient that is part of nothing and holds what was inserted into it. -/
structure HoldsKeys (kind : GradientKind) (handle : Handle StoredGradient) (workspace : Workspace)
    (place : Placement) (keys : List (GradientKey Float (Vector Component kind.width))) : Prop where
  lies : Lies workspace place handle (.alone handle.address)
  loaded : workspace.loadGradient? handle = some { kind := kind, gradient := .ofKeys keys }

theorem findGradient_of_lookup {name : String} {handle : Handle StoredGradient}
    (selected : workspace.lookup name = some (.gradient handle)) :
    workspace.findGradient name = .ok handle := by
  simp only [findGradient, find, selected, ok_bind]

theorem view_gradient {handle : Handle StoredGradient} {any : AnyGradient}
    (loaded : workspace.loadGradient? handle = some any) :
    workspace.view (.gradient handle) = .ok (.gradient any) := by
  simp only [view, loaded, orUnsuitable, ok_bind]
  rfl

section

variable {kind : GradientKind} {handle : Handle StoredGradient}
  {keys : List (GradientKey Float (Vector Component kind.width))}

theorem readKey_eq_ok_iff {ratio : Float} {value : VectorOperand}
    {key : GradientKey Float (Vector Component kind.width)} :
    workspace.readKey kind (ratio, value) = .ok key ↔
      Exists fun entries => workspace.components value = .ok entries ∧
        key = { ratio := ratio, value := Components.toVector kind.width entries } := by
  simp only [readKey, readValue]
  cases workspace.components value with
  | error failure =>
    constructor
    · intro read
      cases read
    · rintro ⟨entries, found, _⟩
      cases found
  | ok entries =>
    constructor
    · intro read
      cases read
      exact ⟨entries, rfl, rfl⟩
    · rintro ⟨_, ⟨⟩, rfl⟩
      rfl

theorem addKey_ofKeys (ratio : Float) (entries : Components) :
    ({ kind := kind, gradient := .ofKeys keys } : AnyGradient).addKey ratio entries = {
      kind := kind
      gradient := .ofKeys (keys ++
        [{ ratio := ratio, value := Components.toVector kind.width entries }]) } := by
  rw [← Gradient.ofKeys_append]
  rfl

/-- A key that can be read is added. -/
theorem HoldsKeys.addKey (holds : HoldsKeys kind handle workspace place keys)
    (separated : Separated workspace place) {name : String} {ratio : Float} {value : VectorOperand}
    (selected : workspace.lookup name = some (.gradient handle))
    {key : GradientKey Float (Vector Component kind.width)}
    (read : workspace.readKey kind (ratio, value) = .ok key) :
    Exists fun place' => Separated (workspace.runCommand (.addKey name ratio value)).2 place' ∧
      HoldsKeys kind handle (workspace.runCommand (.addKey name ratio value)).2 place'
        (keys ++ [key]) := by
  rcases readKey_eq_ok_iff.mp read with ⟨entries, found, rfl⟩
  rcases holds.lies.exists_get? with ⟨stored, present⟩
  have succeeds : Exists fun changed => workspace.insertKey handle ratio entries = .ok changed :=
    ⟨_, by rw [insertKey, orUnsuitable_eq_ok_iff.mpr present, ok_bind]; rfl⟩
  rcases succeeds with ⟨changed, inserted⟩
  have added : workspace.addKey name ratio value = .ok changed := by
    rw [Workspace.addKey, findGradient_of_lookup selected, ok_bind, found, ok_bind, inserted]
  have loaded := separated.sound.loadGradient?_insertKey holds.lies holds.loaded inserted
  rw [addKey_ofKeys] at loaded
  have kept : Exists fun place' => Kept [handle.address] [] [] workspace place changed place' :=
    separated.insertKey holds.lies inserted
  rcases kept with ⟨place', kept⟩
  have selected' := (kept.lookup_eq name List.not_mem_nil).trans selected
  have left : (workspace.runCommand (.addKey name ratio value)).2 = changed := by
    simp only [runCommand, step, added, ok_bind, observe_of_lookup selected', view_gradient loaded]
    rfl
  rw [left]
  exact ⟨place', kept.separated, holds.lies.change kept.changes, loaded⟩

/-- No other command can be directed at a gradient. -/
theorem exists_addKey_of_step {command : Command} {step : Step}
    (stepped : workspace.step command = .ok step) (suits : command.Suits (.gradient handle))
    (directed : workspace.directed? command = some (.gradient handle))
    (reached : handle.address ∈ workspace.reach command (.gradient handle)) :
    Exists fun name => Exists fun ratio => Exists fun value => Exists fun key =>
      command = .addKey name ratio value ∧ workspace.lookup name = some (.gradient handle) ∧
        workspace.readKey kind (ratio, value) = .ok key := by
  cases command with
  | addKey name ratio value =>
    rcases bind_eq_ok_iff.mp stepped with ⟨_, added, _⟩
    rcases bind_eq_ok_iff.mp added with ⟨_, _, inserted⟩
    rcases bind_eq_ok_iff.mp inserted with ⟨entries, found, _⟩
    exact ⟨name, ratio, value, _, rfl, directed, readKey_eq_ok_iff.mpr ⟨entries, found, rfl⟩⟩
  | assign name path content => cases reached
  | assignHandout name request path content => cases request <;> cases reached
  | _ => cases suits

/-- Every command adds to a gradient what it contributes. -/
theorem HoldsKeys.runCommand (command : Command) (separated : Separated workspace place)
    (holds : HoldsKeys kind handle workspace place keys) :
    Exists fun place' => Separated (workspace.runCommand command).2 place' ∧
      HoldsKeys kind handle (workspace.runCommand command).2 place'
        (keys ++ workspace.addedKeys kind handle command) := by
  by_cases adds : Exists fun name => Exists fun ratio => Exists fun value => Exists fun key =>
      command = .addKey name ratio value ∧ workspace.lookup name = some (.gradient handle) ∧
        workspace.readKey kind (ratio, value) = .ok key
  · rcases adds with ⟨name, ratio, value, key, rfl, selected, read⟩
    rw [addedKeys, if_pos selected, read]
    exact holds.addKey separated selected read
  · have nothing : workspace.addedKeys kind handle command = [] := by
      cases command with
      | addKey name ratio value =>
        rw [addedKeys]
        split
        · rename_i selected
          cases read : workspace.readKey kind (ratio, value) with
          | error failure => rfl
          | ok key => exact absurd ⟨name, ratio, value, key, rfl, selected, read⟩ adds
        · rfl
      | _ => rfl
    rw [nothing, List.append_nil]
    rcases separated.untouched_runCommand command (.gradient handle) holds.lies.kind
      (show Kind.gradient ∉ [.vector, .value] by decide) fun stepped suits directed reached =>
        adds (exists_addKey_of_step stepped suits directed reached) with
      ⟨place', separated', changes, agrees⟩
    exact ⟨place', separated', holds.lies.change changes,
      (agrees.loadGradient? (Place.inward_region _) separated.sound holds.lies
        (Place.region_self _)).trans holds.loaded⟩

end

/-! ## All keys -/

/-- What is added to a gradient over a run, in the order of the calls. -/
def keysAdded (kind : GradientKind) (handle : Handle StoredGradient) :
    Workspace -> List Command -> List (GradientKey Float (Vector Component kind.width)) :=
  gather fun workspace => workspace.addedKeys kind handle

/-- A gradient that is made holds the keys of its draft. -/
theorem Separated.exists_holdsKeys (separated : Separated workspace place) (name : String)
    {draft : GradientDraft} {keys : List (GradientKey Float (Vector Component draft.kind.width))}
    (read : workspace.insertions draft = .ok keys) :
    Exists fun step => Exists fun handle => Exists fun place' =>
      workspace.step (.put name (.gradient (.given draft))) = .ok step ∧
      step.workspace.lookup name = some (.gradient handle) ∧
      Separated step.workspace place' ∧ HoldsKeys draft.kind handle step.workspace place' keys := by
  have readAny := readGradient_of_insertions read
  have ordered : (Gradient.ofKeys keys).InOrder := inOrder_of_readGradient readAny
  rcases separated.sound.addGradient { kind := draft.kind, gradient := .ofKeys keys }
    (.alone workspace.objects.size) fun _ => ordered with ⟨_, _, loaded⟩
  have added : Exists fun place' => Made workspace place
      (workspace.addGradient { kind := draft.kind, gradient := .ofKeys keys }) place' :=
    separated.addGradient ordered
  rcases added with ⟨place', grown, lies⟩
  generalize result : workspace.addGradient { kind := draft.kind, gradient := .ofKeys keys } = made
    at loaded grown lies
  rcases made with ⟨extended, handle⟩
  have put : workspace.put name (.gradient (.given draft)) =
      .ok (extended.bind name (.gradient handle)) := by
    simp only [Workspace.put, Workspace.make, Workspace.gradientHandle, readAny, ok_bind]
    rw [result]
    rfl
  have selected := lookup_bind_self extended name (.gradient handle)
  have loaded' : (extended.bind name (.gradient handle)).loadGradient? handle =
      some { kind := draft.kind, gradient := .ofKeys keys } := loaded
  have stepped : workspace.step (.put name (.gradient (.given draft))) = .ok {
      workspace := extended.bind name (.gradient handle)
      answer := .observed (.gradient { kind := draft.kind, gradient := .ofKeys keys }) } := by
    simp only [Workspace.step, put, ok_bind, stepTo, observe_of_lookup selected, view_gradient loaded']
    rfl
  have whole : AssetLies extended place' (.gradient handle) := lies
  exact ⟨_, handle, place', stepped, selected, grown.separated.bind name whole, whole.bind _ _,
    loaded'⟩

/-- The keys of a gradient are the stable sort of all insertions, those it was made with
and those of every later run, and calls at different ratios may be made in any order. -/
theorem keys_are_stable_sort (history : List Command) (name : String) {draft : GradientDraft}
    {made : List (GradientKey Float (Vector Component draft.kind.width))}
    (read : (runTo {} history).insertions draft = .ok made) :
    Exists fun step => Exists fun handle =>
      (runTo {} history).step (.put name (.gradient (.given draft))) = .ok step ∧
      step.workspace.lookup name = some (.gradient handle) ∧
      forall between : List Command,
        Gradient.NumberKeys (made ++ keysAdded draft.kind handle step.workspace between) ->
        (Exists fun gradient =>
          (step.workspace.runTo between).loadGradient? handle =
            some { kind := draft.kind, gradient := gradient } ∧
          gradient.toList = (made ++ keysAdded draft.kind handle step.workspace between).mergeSort
            Gradient.byRatio ∧
          Gradient.StableSort (made ++ keysAdded draft.kind handle step.workspace between)
            gradient.toList) ∧
        forall other : List Command,
          Gradient.NumberKeys (keysAdded draft.kind handle step.workspace other) ->
          (forall ratio,
            Gradient.keysAt ratio (keysAdded draft.kind handle step.workspace between) =
              Gradient.keysAt ratio (keysAdded draft.kind handle step.workspace other)) ->
          (step.workspace.runTo other).loadGradient? handle =
            (step.workspace.runTo between).loadGradient? handle := by
  rcases exists_separated history with ⟨place, separated⟩
  rcases separated.exists_holdsKeys name read with
    ⟨step, handle, place', stepped, selected, separated', holds⟩
  have loaded (commands : List Command) : (step.workspace.runTo commands).loadGradient? handle = some {
      kind := draft.kind
      gradient := .ofKeys (made ++ keysAdded draft.kind handle step.workspace commands) } := by
    rcases Separated.shows_runTo (fun command => HoldsKeys.runCommand command) commands separated'
      holds with ⟨_, _, held⟩
    exact held.loaded
  refine ⟨step, handle, stepped, selected, fun between numeric =>
    ⟨⟨_, loaded between, Gradient.toList_ofKeys numeric, Gradient.stableSort_ofKeys numeric⟩,
      fun other numeric' agree => ?_⟩⟩
  rw [loaded, loaded]
  have same := Gradient.ofKeys_eq_of_keysAt
    (Gradient.numberKeys_append_iff.mpr ⟨(Gradient.numberKeys_append_iff.mp numeric).1, numeric'⟩)
    numeric fun ratio => by rw [Gradient.keysAt_append, Gradient.keysAt_append, agree]
  rw [same]

/-- A gradient with two keys at its start. -/
def fade : GradientDraft where
  kind := .size
  start := .linear (.given (.ofNumbers [1, 1])) (.given (.ofNumbers [0, 0]))
  keys := [(0, .given (.ofNumbers [2, 2]))]

/-- A key with a value of two equal components. -/
def fadeKey (ratio size : Float) : GradientKey Float (Vector Component fade.kind.width) :=
  { ratio := ratio, value := Components.toVector fade.kind.width (.ofNumbers [size, size]) }

/-- Keys in the middle and, once more, at the start. -/
def fadeCalls : List Command := [
  .addKey "fade" 0.5 (.given (.ofNumbers [3, 3])),
  .addKey "fade" (-0.0) (.given (.ofNumbers [4, 4]))]

/-- The step that makes the gradient. -/
def fadeStep : Step :=
  ((runTo {} []).step (.put "fade" (.gradient (.given fade)))).toOption.get (by decide +kernel)

theorem fade_keys_are_stable_sort :
    Exists fun handle => Exists fun gradient =>
      (runTo {} []).step (.put "fade" (.gradient (.given fade))) = .ok fadeStep ∧
      (fadeStep.workspace.runTo fadeCalls).loadGradient? handle =
        some { kind := fade.kind, gradient := gradient } ∧
      (fadeStep.workspace.runTo fadeCalls.reverse).loadGradient? handle =
        some { kind := fade.kind, gradient := gradient } ∧
      Gradient.StableSort
        [fadeKey 0 1, fadeKey 1 0, fadeKey 0 2, fadeKey 0.5 3, fadeKey (-0.0) 4]
        gradient.toList := by
  have read : (runTo {} []).insertions fade = .ok [fadeKey 0 1, fadeKey 1 0, fadeKey 0 2] :=
    toOption_eq_some_iff.mp (by decide +kernel)
  rcases keys_are_stable_sort [] "fade" read with ⟨step, handle, stepped, selected, holds⟩
  have answered : (runTo {} []).step (.put "fade" (.gradient (.given fade))) = .ok fadeStep :=
    toOption_eq_some_iff.mp (Option.some_get _).symm
  cases stepped.symm.trans answered
  have made : fadeStep.workspace.lookup "fade" = some (.gradient { address := 3 }) := by
    decide +kernel
  cases selected.symm.trans made
  have added : keysAdded fade.kind { address := 3 } fadeStep.workspace fadeCalls =
      [fadeKey 0.5 3, fadeKey (-0.0) 4] := by
    decide +kernel
  have reversed : keysAdded fade.kind { address := 3 } fadeStep.workspace fadeCalls.reverse =
      [fadeKey (-0.0) 4, fadeKey 0.5 3] := by
    decide +kernel
  rcases holds fadeCalls (by rw [added]; decide +kernel) with ⟨⟨gradient, loaded, _, sorted⟩, swap⟩
  have same := swap fadeCalls.reverse (by rw [reversed]; decide +kernel) fun ratio => by
    rw [added, reversed]
    exact Gradient.keysAt_swap (by decide +kernel)
  rw [added] at sorted
  exact ⟨_, gradient, answered, loaded, same.trans loaded, sorted⟩

end Workspace
end ParticleEffects
