import ParticleEffects.Proofs.KeptCopies

namespace ParticleEffects
namespace Workspace

/-!
Isolation of what is stored from its maker.

An asset is made with the contents that its operands have at that time, and from then on a
session shows its mutations and nothing else.  The vectors and sources that it was made of, the
values that it hands out and the copies that are made of it can be changed at will: such a
change is no mutation of the asset.  Three parts are shared, and all of them are meant.  A color
or size modifier shows the keys that its gradient gets, a position modifier shows the values of
its speed, with what is assigned to them, and a source shows the vector that is its position.
-/

open Spatial ForceField Spawn

variable {workspace : Workspace} {place : Placement}

/-! ## Steps -/

/-- What is seen of an asset changes by its mutations. -/
theorem Separated.view_runCommand (separated : Separated workspace place) {asset : Asset}
    (lies : AssetLies workspace place asset) {observation : Observation}
    (told : observation.IsTold) (seen : workspace.view asset = .ok observation)
    (command : Command) :
    (workspace.runCommand command).2.view asset =
      .ok (observation.replay (workspace.mutations asset command)) := by
  cases asset with
  | source handle =>
    rcases bind_eq_ok_iff.mp seen with ⟨source, found, same⟩
    cases same
    rcases separated.loadSource?_runCommand lies (orUnsuitable_eq_ok_iff.mp found) command with
      ⟨changed, found', replayed⟩
    rw [replayed]
    simp only [view, found', orUnsuitable, ok_bind]
    rfl
  | gradient handle =>
    rcases bind_eq_ok_iff.mp seen with ⟨any, found, same⟩
    cases same
    rw [showsGradient_gradient.replay rfl any command]
    exact view_gradient (separated.loadGradient?_runCommand lies (orUnsuitable_eq_ok_iff.mp found)
      command)
  | modifier handle =>
    rcases bind_eq_ok_iff.mp seen with ⟨loaded, found, same⟩
    cases same
    rcases separated.modifierAt?_runCommand lies told (orUnsuitable_eq_ok_iff.mp found) command with
      ⟨changed, found', replayed⟩
    rw [replayed]
    exact view_modifier found'
  | _ =>
    rcases bind_eq_ok_iff.mp seen with ⟨_, _, same⟩
    cases same
    cases told

/-- A custom modifier keeps its hooks. -/
theorem Separated.custom_runCommand (separated : Separated workspace place)
    {handle : Handle StoredModifier} (lies : Lies workspace place handle (.alone handle.address))
    {hooks : StoredHooks} (present : workspace.get? handle = some (.custom hooks))
    (command : Command) :
    (workspace.runCommand command).2.get? handle = some (.custom hooks) := by
  have agrees := separated.modifier_untouched lies present (fun _ same => nomatch same) command
    fun _ _ _ _ _ => by simp only [assignRoots, present, List.not_mem_nil, not_false_eq_true]
  exact (agrees.get? lies (Place.region_self _)).trans present

namespace Session

variable {session : Session}

/-- The changes that an action makes to what is seen of an asset. -/
def mutations (session : Session) (asset : Asset) : Action -> List Mutation
  | .run command => session.workspace.mutations asset command
  | .keep .. | .change .. => []

theorem Apart.view_act (apart : session.Apart place) {asset : Asset}
    (lies : AssetLies session.workspace place asset) {observation : Observation}
    (told : observation.IsTold) (seen : session.workspace.view asset = .ok observation)
    (action : Action) :
    (session.act action).workspace.view asset =
      .ok (observation.replay (session.mutations asset action)) := by
  cases action with
  | run command => exact apart.separated.view_runCommand lies told seen command
  | keep name request =>
    rcases apart.keep name request with ⟨_, _, _, clear, agrees⟩
    exact lies.view_of_clear apart.separated.sound told seen agrees clear
  | change n path content =>
    rcases apart.changeCopy n path content with ⟨_, _, _, clear, agrees⟩
    exact lies.view_of_clear apart.separated.sound told seen agrees clear

theorem Apart.custom_act (apart : session.Apart place) {handle : Handle StoredModifier}
    (lies : Lies session.workspace place handle (.alone handle.address)) {hooks : StoredHooks}
    (present : session.workspace.get? handle = some (.custom hooks)) (action : Action) :
    (session.act action).workspace.get? handle = some (.custom hooks) := by
  cases action with
  | run command => exact apart.separated.custom_runCommand lies present command
  | keep name request =>
    rcases apart.keep name request with ⟨_, _, _, clear, agrees⟩
    exact (agrees.get? lies (lies.apartFrom clear)).trans present
  | change n path content =>
    rcases apart.changeCopy n path content with ⟨_, _, _, clear, agrees⟩
    exact (agrees.get? lies (lies.apartFrom clear)).trans present

/-! ## Runs -/

/-- The changes that several actions make to what is seen of an asset. -/
def mutationsOver (asset : Asset) : Session -> List Action -> List Mutation
  | _, [] => []
  | session, action :: rest =>
    session.mutations asset action ++ mutationsOver asset (session.act action) rest

/-- What is seen of an asset in a session is told by its mutations. -/
def Isolates (session : Session) (asset : Asset) (observation : Observation) : Prop :=
  forall between, (session.actAll between).workspace.view asset =
    .ok (observation.replay (session.mutationsOver asset between))

theorem Apart.isolates (apart : session.Apart place) {asset : Asset}
    (lies : AssetLies session.workspace place asset) {observation : Observation}
    (told : observation.IsTold) (seen : session.workspace.view asset = .ok observation) :
    session.Isolates asset observation := by
  intro between
  induction between generalizing session place observation with
  | nil => exact seen
  | cons action rest inductionHypothesis =>
    rcases apart.act action with ⟨_, led⟩
    have seen' := apart.view_act lies told seen action
    have later := inductionHypothesis led.apart (lies.change led.changes) (told.replay _) seen'
    rw [mutationsOver, Observation.replay_append]
    exact later

theorem Apart.custom_actAll (apart : session.Apart place) {handle : Handle StoredModifier}
    (lies : Lies session.workspace place handle (.alone handle.address)) {hooks : StoredHooks}
    (present : session.workspace.get? handle = some (.custom hooks)) (between : List Action) :
    (session.actAll between).workspace.get? handle = some (.custom hooks) := by
  induction between generalizing session place with
  | nil => exact present
  | cons action rest inductionHypothesis =>
    rcases apart.act action with ⟨_, led⟩
    exact inductionHypothesis led.apart (lies.change led.changes)
      (apart.custom_act lies present action)

/-! ## Isolation -/

/-- The session after a step. -/
def after (session : Session) (step : Step) : Session := { session with workspace := step.workspace }

/-- A step that makes an asset with the given contents.  Nothing was called by its name
before, and from then on nothing but its mutations is seen of it. -/
structure Makes (session : Session) (name : String) (observation : Observation) (step : Step) :
    Prop where
  answer : step.answer = .observed observation
  isolated : Exists fun asset => step.workspace.lookup name = some asset ∧
    (forall other, session.workspace.lookup other ≠ some asset) ∧
    (session.after step).Isolates asset observation

/-- What is seen of an asset that was made is told by its mutations. -/
theorem Makes.view_actAll {name : String} {observation : Observation} {step : Step}
    (makes : session.Makes name observation step) {asset : Asset}
    (selected : step.workspace.lookup name = some asset) {between : List Action}
    {collected : List Mutation}
    (mutates : (session.after step).mutationsOver asset between = collected) :
    ((session.after step).actAll between).workspace.view asset =
      .ok (observation.replay collected) := by
  rcases makes.isolated with ⟨made, named, _, isolated⟩
  cases named.symm.trans selected
  rw [← mutates]
  exact isolated between

theorem Apart.makes (apart : session.Apart place) {extended : Workspace} {asset : Asset}
    {place' : Placement} (grown : Grown session.workspace place extended place')
    (lies : AssetLies extended place' asset)
    (new : session.workspace.objects.size <= asset.address) {observation : Observation}
    (told : observation.IsTold) (seen : extended.view asset = .ok observation) (name : String) :
    Exists fun step => (extended.bind name asset).stepTo name = .ok step ∧
      session.Makes name observation step := by
  have selected := lookup_bind_self extended name asset
  have seen' := told.view_bind seen name asset
  refine ⟨{ workspace := extended.bind name asset, answer := .observed observation }, ?_, rfl, asset,
    selected, apart.separated.lookup_ne_of_new new, ?_⟩
  · simp only [stepTo, observe_of_lookup selected, seen', ok_bind]
    rfl
  · have apart' := apart.change (grown.separated.bind name lies)
      (grown.evolves.changes.trans (changes_bind _ _ extended place' name asset))
    exact apart'.isolates (lies.bind name asset) told seen'

theorem Apart.put_makes (apart : session.Apart place) (name : String) {draft : Draft}
    {observation : Observation} (read : session.workspace.contents draft = .ok observation) :
    Exists fun step => session.workspace.step (.put name draft) = .ok step ∧
      session.Makes name observation step := by
  rcases apart.separated.exists_make name read with ⟨extended, asset, made, new, seen⟩
  rcases apart.separated.make made with ⟨place', grown, lies⟩
  rcases apart.makes grown lies new (isTold_of_contents read) seen name with ⟨step, led, makes⟩
  refine ⟨step, ?_, makes⟩
  have put : session.workspace.put name draft = .ok (extended.bind name asset) := by
    simp only [Workspace.put, made, ok_bind]
    rfl
  simp only [Workspace.step, put, ok_bind, led]

theorem Apart.copy_makes (apart : session.Apart place) {name : String}
    {gradient : Handle StoredGradient}
    (selected : session.workspace.lookup name = some (.gradient gradient)) {any : AnyGradient}
    (loaded : session.workspace.loadGradient? gradient = some any) (newName : String) :
    Exists fun step => session.workspace.step (.copy name newName) = .ok step ∧
      session.Makes newName (.gradient any.copy) step := by
  have ordered : any.copy.gradient.InOrder := Gradient.inOrder_ofKeys any.gradient.toList
  rcases apart.separated.sound.addGradient_new any.copy with ⟨new, found⟩
  have added : Exists fun place' =>
      Made session.workspace place (session.workspace.addGradient any.copy) place' :=
    apart.separated.addGradient ordered
  rcases added with ⟨place', made⟩
  have lies : AssetLies (session.workspace.addGradient any.copy).1 place'
      (.gradient (session.workspace.addGradient any.copy).2) := made.lies
  have told : (Observation.gradient any.copy).IsTold := trivial
  rcases apart.makes made.grown lies new told (view_gradient found) newName with
    ⟨step, led, makes⟩
  refine ⟨step, ?_, makes⟩
  simp only [Workspace.step, findGradient_of_lookup selected, loaded, orUnsuitable, ok_bind]
  exact led

end Session

/-- In every session what is stored is isolated from what it was made of and from what it hands
out.  What is made has the contents of its operands, a copy of a gradient those of the gradient,
and what has a name shows its mutations only; a custom modifier keeps its hooks.  Among the
mutations of a modifier are the keys of the gradient that it shares, and the values that the
speed gets that it shares, with the assignments to them. -/
theorem assets_are_isolated {session : Session} (reached : session.Reached) :
    (forall {name : String} {draft : Draft} {observation : Observation},
      session.workspace.contents draft = .ok observation ->
      Exists fun step => session.workspace.step (.put name draft) = .ok step ∧
        session.Makes name observation step) ∧
    (forall {name newName : String} {gradient : Handle StoredGradient} {any : AnyGradient},
      session.workspace.lookup name = some (.gradient gradient) ->
      session.workspace.loadGradient? gradient = some any ->
      Exists fun step => session.workspace.step (.copy name newName) = .ok step ∧
        session.Makes newName (.gradient any.copy) step) ∧
    (forall {name : String} {asset : Asset} {observation : Observation},
      session.workspace.lookup name = some asset -> observation.IsTold ->
      session.workspace.view asset = .ok observation -> session.Isolates asset observation) ∧
    (forall {name : String} {handle : Handle StoredModifier} {hooks : StoredHooks},
      session.workspace.lookup name = some (.modifier handle) ->
      session.workspace.get? handle = some (.custom hooks) ->
      forall between,
        (session.actAll between).workspace.get? handle = some (.custom hooks)) := by
  rcases reached.exists_apart with ⟨place, apart⟩
  refine ⟨fun read => apart.put_makes _ read, fun selected loaded =>
    apart.copy_makes selected loaded _, fun selected told seen =>
    apart.isolates (apart.separated.named _ _ selected) told seen,
    fun selected present between =>
    apart.custom_actAll (apart.separated.named _ _ selected) present between⟩

/-- A session with a vector, a gradient and a value that are lent, a modifier that shares the
gradient, one whose maker keeps its hooks, and one whose speed is the value in two directions. -/
def lent : Session := ({} : Session).actAll [
  .run (.put "up" (.vector (.ofNumbers [0, 1, 0]))),
  .run (.put "fade" (.gradient (.given { kind := .size, start := .empty, keys := [] }))),
  .run (.put "wide" (.modifier (.size (.named "fade")))),
  .run (.put "free" (.modifier (.hooks {}))),
  .run (.put "pace" (.value (.given (.single 1)))),
  .run (.put "drift" (.speed (.given (.world (.named "pace") (.given (.single 0)) (.named "pace"))))),
  .run (.put "cloud" (.modifier (.position {
    shape := .circle none, center := some (.named "up"), speed := some (.named "drift") })))]

/-- Changes of what was lent, of a modifier that was made of it and of keys that were kept. -/
def lentChanges : List Action := [
  .run (.assign "up" [.index 1] (.number 9)),
  .run (.assign "lift" [.member "accel", .index 0] (.number 2)),
  .run (.addKey "fade" 0.5 (.named "up")),
  .keep "fade" .keys,
  .run (.assign "up" [.index 0] (.number 7)),
  .change 0 [.index 0, .member "value", .index 0] (.number 3),
  .run (.assign "pace" [.member "value"] (.number 5)),
  .run (.replaceValue "drift" "y" (.given (.uniform 1 2)))]

def emptySize : AnyGradient := { kind := .size, gradient := .empty }

/-- The spawner of the modifier that shares its speed, with that speed. -/
def cloudWith (speed : Speed) : Spawner Components :=
  (Spawner.ofOptions {
    shape := .circle none, center := some (.ofNumbers [0, 1, 0]) }).withSpeed speed

theorem view_lent_cloud : lent.workspace.view (.modifier { address := 9 }) =
    .ok (.modifier (.position (cloudWith (.world (.single 1) (.single 0) (.single 1))))) := by
  rfl

/-- An assignment to a value is seen of the modifier whose speed refers to it. -/
theorem lent_value_is_seen :
    lent.workspace.directed? (.assign "pace" [.member "value"] (.number 5)) =
      some (.value { address := 4 }) ∧
    lent.workspace.lookup "cloud" = some (.modifier { address := 9 }) ∧
    lent.workspace.view (.modifier { address := 9 }) =
      .ok (.modifier (.position (cloudWith (.world (.single 1) (.single 0) (.single 1))))) ∧
    (lent.act (.run (.assign "pace" [.member "value"] (.number 5)))).workspace.view
        (.modifier { address := 9 }) =
      .ok (.modifier (.position (cloudWith (.world (.single 5) (.single 0) (.single 5))))) ∧
    (cloudWith (.world (.single 1) (.single 0) (.single 1))).positionCode ≠
      (cloudWith (.world (.single 5) (.single 0) (.single 5))).positionCode := by
  refine ⟨?_, ?_, view_lent_cloud, ?_, ?_⟩
  · decide +kernel
  · decide +kernel
  · rfl
  · decide +kernel

/-- The step of a command that can be run after the vector and the gradient were lent. -/
def lentStep (command : Command)
    (succeeds : (lent.workspace.step command).toOption.isSome = true) : Step :=
  (lent.workspace.step command).toOption.get succeeds

theorem step_lentStep {command : Command}
    (succeeds : (lent.workspace.step command).toOption.isSome = true) :
    lent.workspace.step command = .ok (lentStep command succeeds) :=
  toOption_eq_some_iff.mp (Option.some_get succeeds).symm

def liftStep : Step :=
  lentStep (.put "lift" (.modifier (.accel (.named "up")))) (by decide +kernel)

def copyStep : Step := lentStep (.copy "fade" "faded") (by decide +kernel)

theorem lent_assets_are_isolated :
    ((lent.after liftStep).actAll lentChanges).workspace.view (.modifier { address := 11 }) =
      .ok (.modifier (.accel (.ofNumbers [2, 1, 0]))) ∧
    ((lent.after copyStep).actAll lentChanges).workspace.view (.gradient { address := 10 }) =
      .ok (.gradient emptySize) ∧
    (lent.actAll lentChanges).workspace.view (.modifier { address := 2 }) =
      .ok (.modifier (.size (emptySize.addKey 0.5 (.ofNumbers [0, 9, 0])))) ∧
    (lent.actAll lentChanges).workspace.view (.modifier { address := 9 }) =
      .ok (.modifier (.position (cloudWith (.world (.single 5) (.uniform 1 2) (.single 5))))) ∧
    (lent.actAll lentChanges).workspace.get? ({ address := 3 } : Handle StoredModifier) =
      some (.custom (.given {})) := by
  have reached : lent.Reached := ⟨_, rfl⟩
  have fade : lent.workspace.lookup "fade" = some (.gradient { address := 1 }) := by
    decide +kernel
  have empty : lent.workspace.loadGradient? { address := 1 } = some emptySize := by
    rfl
  refine ⟨?_, ?_, ?_, ?_, ?_⟩
  · have up : lent.workspace.components (.named "up") = .ok (.ofNumbers [0, 1, 0]) :=
      toOption_eq_some_iff.mp (by decide +kernel)
    have read : lent.workspace.contents (.modifier (.accel (.named "up"))) =
        .ok (.modifier (.accel (.ofNumbers [0, 1, 0]))) := by
      simp only [contents, modifierContents, up, ok_bind]
      rfl
    have made : Exists fun step =>
        lent.workspace.step (.put "lift" (.modifier (.accel (.named "up")))) = .ok step ∧
        lent.Makes "lift" (.modifier (.accel (.ofNumbers [0, 1, 0]))) step :=
      (assets_are_isolated reached).1 read
    rcases made with ⟨step, stepped, makes⟩
    cases stepped.symm.trans (step_lentStep (by decide +kernel))
    have mutates : (lent.after liftStep).mutationsOver (.modifier { address := 11 }) lentChanges =
        [.place [.member "accel", .index 0] (.number 2)] := by
      decide +kernel
    exact makes.view_actAll (by decide +kernel) mutates
  · have made : Exists fun step => lent.workspace.step (.copy "fade" "faded") = .ok step ∧
        lent.Makes "faded" (.gradient emptySize.copy) step :=
      (assets_are_isolated reached).2.1 fade empty
    rcases made with ⟨step, stepped, makes⟩
    cases stepped.symm.trans (step_lentStep (by decide +kernel))
    have mutates : (lent.after copyStep).mutationsOver (.gradient { address := 10 }) lentChanges =
        [] := by
      decide +kernel
    exact makes.view_actAll (by decide +kernel) mutates
  · have wide : lent.workspace.lookup "wide" = some (.modifier { address := 2 }) := by
      decide +kernel
    have told : (Observation.modifier (.size emptySize)).IsTold := trivial
    have seen : lent.workspace.view (.modifier { address := 2 }) =
        .ok (.modifier (.size emptySize)) := by
      rfl
    have mutates : lent.mutationsOver (.modifier { address := 2 }) lentChanges =
        [.key 0.5 (.ofNumbers [0, 9, 0])] := by
      decide +kernel
    rw [(assets_are_isolated reached).2.2.1 wide told seen lentChanges, mutates]
    rfl
  · have cloud : lent.workspace.lookup "cloud" = some (.modifier { address := 9 }) := by
      decide +kernel
    have told (speed : Speed) : (Observation.modifier (.position (cloudWith speed))).IsTold := trivial
    have mutates : lent.mutationsOver (.modifier { address := 9 }) lentChanges =
        [.place [.member "speed", .member "x", .member "value"] (.number 5),
          .place [.member "speed", .member "z", .member "value"] (.number 5),
          .value "y" (.uniform 1 2)] := by
      decide +kernel
    rw [(assets_are_isolated reached).2.2.1 cloud (told _) view_lent_cloud lentChanges, mutates]
    rfl
  · have free : lent.workspace.lookup "free" = some (.modifier { address := 3 }) := by
      decide +kernel
    exact (assets_are_isolated reached).2.2.2 free rfl lentChanges

end Workspace
end ParticleEffects
