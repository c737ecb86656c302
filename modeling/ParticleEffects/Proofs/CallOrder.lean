import ParticleEffects.Proofs.Repetition

namespace ParticleEffects
namespace Workspace

/-!
The order of what a compilation does.

The report that several modifiers write the position code comes before all calls.
The modifiers are called in the order of their stages and, in each stage, of their
registration, up to the first call that fails; with it the compilation fails.  All
that was there before is left as it was, also by a compilation that fails.
-/

section

variable (workspace : Workspace)

/-- A registration with its modifier loaded. -/
def loadCall? (call : Stage × Handle StoredModifier) : Option (Stage × LoadedModifier) :=
  (workspace.modifierAt? call.2).map (Prod.mk call.1)

/-- The calls that are made of some registrations, and what they lead to: all of them
succeed, or those before one that fails. -/
inductive CallsMade (calls : List (Stage × Handle StoredModifier)) :
    List (Stage × Handle StoredModifier) -> Except ApplyError Layouts -> Prop where
  | all {loaded : List (Stage × LoadedModifier)} {layouts : Layouts}
    (found : calls.mapM workspace.loadCall? = some loaded)
    (leads : Leads Modifier.applyAt .new loaded layouts) : CallsMade calls calls (.ok layouts)
  | upTo (before after : List (Stage × Handle StoredModifier)) {call : Stage × Handle StoredModifier}
    (split : calls = before ++ call :: after)
    {loaded : List (Stage × LoadedModifier)} (found : before.mapM workspace.loadCall? = some loaded)
    {reached : Layouts} (leads : Leads Modifier.applyAt .new loaded reached)
    {failing : Stage × LoadedModifier} (foundCall : workspace.loadCall? call = some failing)
    {error : ApplyError} (fails : (Modifier.applyAt failing reached).error = some error) :
    CallsMade calls (before ++ [call]) (.error error)

end

theorem mapM_loadCall? {workspace : Workspace} (stage : Stage)
    {modifiers : List (Handle StoredModifier)} :
    forall {loaded : List LoadedModifier}, modifiers.mapM workspace.modifierAt? = some loaded ->
      (modifiers.map (Prod.mk stage)).mapM workspace.loadCall? =
        some (loaded.map (Prod.mk stage)) := by
  induction modifiers with
  | nil => intro loaded found; cases found; rfl
  | cons modifier rest inductionHypothesis =>
    intro loaded found
    rcases mapM_cons_eq_some_iff.mp found with ⟨first, others, foundFirst, foundOthers, rfl⟩
    refine mapM_cons_eq_some_iff.mpr ⟨(stage, first), others.map (Prod.mk stage), ?_,
      inductionHypothesis foundOthers, rfl⟩
    rw [loadCall?, foundFirst, Option.map_some]

/-- The registrations of an effect are loaded in their order. -/
theorem mapM_loadCall?_calls {workspace : Workspace} {effect : StoredEffect}
    {loaded : Effect LoadedModifier} (found : workspace.loadEffect? effect = some loaded) :
    effect.calls.mapM workspace.loadCall? = some loaded.calls := by
  rcases loadEffect?_eq_some_iff.mp found with ⟨_, foundAt⟩
  exact mapM_append_eq_some (mapM_append_eq_some (mapM_loadCall? .init (foundAt .init))
    (mapM_loadCall? .update (foundAt .update))) (mapM_loadCall? .render (foundAt .render))

/-- The calls of a compilation are those that its meaning makes. -/
theorem callsMade_of_loadEffect? {workspace : Workspace} {effect : StoredEffect}
    {loaded : Effect LoadedModifier} (found : workspace.loadEffect? effect = some loaded) :
    CallsMade workspace effect.calls (effect.calls.take loaded.meaning.called.length)
      loaded.meaning.left.outcome := by
  have foundCalls := mapM_loadCall?_calls found
  have comes : Comes Modifier.applyAt .new loaded.calls loaded.meaning :=
    comes_applyAll Modifier.applyAt loaded.calls .new
  generalize loaded.meaning = progress at comes ⊢
  cases comes with
  | ends leads =>
    rw [length_mapM foundCalls, List.take_length]
    exact .all foundCalls leads
  | fails before after split leads failure =>
    rename_i failing reached error
    rw [split] at foundCalls
    rcases exists_split_of_mapM foundCalls with ⟨earlier, call, later, same, foundBefore, foundCall⟩
    have made : effect.calls.take (before ++ [failing]).length = earlier ++ [call] := by
      rw [same, List.length_append, length_mapM foundBefore, List.length_singleton,
        List.take_length_add_append]
      rfl
    show CallsMade workspace effect.calls (effect.calls.take (before ++ [failing]).length)
      (Modifier.applyAt failing reached).outcome
    rw [made, Applied.outcome, failure]
    exact .upTo earlier later same foundBefore leads foundCall failure

/-- The reports of a compilation: one, before everything else, if several modifiers
write the position code. -/
def reportOf (effect : StoredEffect) : List Event :=
  if 1 < effect.initModifiers.length then
    [.overwrite { effectName := effect.config.name, count := effect.initModifiers.length }]
  else
    []

theorem eventsOf_eq (effect : StoredEffect) (count : Nat) :
    eventsOf effect count = reportOf effect ++ (effect.calls.take count).map callEvent := by
  unfold eventsOf Effect.overwriteReport? reportOf
  split <;> rfl

/-- A compilation leaves all that was there as it was. -/
theorem Compiles.getElem?_eq {effect : StoredEffect} {loaded : Effect LoadedModifier}
    {layoutsName : Option String} {workspace : Workspace} {place place' : Placement} {step : Step}
    (compiles : Compiles effect loaded layoutsName workspace place step place')
    (separated : Separated workspace place) {address : Nat}
    (old : address < workspace.objects.size) :
    step.workspace.objects[address]? = workspace.objects[address]? := by
  have kept := compiles.grown.getElem?_eq separated old
  cases error : loaded.meaning.left.error with
  | some failure => rw [compiles.failed failure error, kept]
  | none =>
    rcases compiles.succeeded error with ⟨handles, _, left⟩
    rw [left, ← kept]
    cases layoutsName <;> rfl

/-- A compilation makes its one report before all calls, if there is one to make, and then
the calls of its registrations in order, up to the first that fails.  What was there is
left alone, so that the next compilation of the effect goes the same way. -/
theorem compilation_makes_calls_in_order (history : List Command) {name : String}
    (layoutsName : Option String) {handle : Handle StoredEffect} {effect : StoredEffect}
    (selected : (runTo {} history).lookup name = some (.effect handle))
    (present : (runTo {} history).get? handle = some effect) :
    Exists fun step => Exists fun compilation => Exists fun made =>
      (runTo {} history).step (.compile name layoutsName) = .ok step ∧
      step.compilation? = some compilation ∧
      compilation.events = reportOf effect ++ made.map callEvent ∧
      CallsMade (runTo {} history) effect.calls made compilation.outcome ∧
      (forall address, address < (runTo {} history).objects.size ->
        step.workspace.objects[address]? = (runTo {} history).objects[address]?) ∧
      (forall {again : String} (layoutsAgain : Option String),
        (forall bound, bound ∈ (Command.compile name layoutsName).bound ->
          bound ∉ ((runTo {} history).watchedBy handle effect).names) ->
        step.workspace.lookup again = some (.effect handle) ->
        Exists fun second => step.workspace.step (.compile again layoutsAgain) = .ok second ∧
          second.compilation? = some compilation) := by
  rcases exists_separated history with ⟨place, separated⟩
  rcases separated.compiles selected present layoutsName with
    ⟨loaded, step, place', found, compiled, compiles⟩
  refine ⟨step, _, effect.calls.take loaded.meaning.called.length, compiled,
    compiles.compilation?_eq, eventsOf_eq _ _, callsMade_of_loadEffect? found,
    fun address old => compiles.getElem?_eq separated old, ?_⟩
  intro again layoutsAgain unread selectedAgain
  have stepped : (runTo {} history).step (.compile name layoutsName) = .ok step := compiled
  rcases separated.step stepped with ⟨_, kept⟩
  have spared : ((runTo {} history).watchedBy handle effect).SparedBy (runTo {} history)
      (.compile name layoutsName) := by
    refine ⟨fun _ absent => ?_, unread, fun _ absent => ?_⟩
    · cases absent
    · cases absent
  have held := spared.held kept
  have presentAgain : step.workspace.get? handle = some effect := by
    rw [Workspace.get?, compiles.getElem?_eq separated (address_lt_of_get? present)]
    exact present
  rcases kept.separated.compiles selectedAgain presentAgain layoutsAgain with
    ⟨loadedAgain, second, _, foundAgain, compiledSecond, compilesSecond⟩
  cases foundAgain.symm.trans (held.loadEffect?_eq separated present found effect.config)
  exact ⟨second, compiledSecond, compilesSecond.compilation?_eq⟩

/-- A run that makes an effect with two modifiers for the position code and one whose hook
fails before the last of its modifiers is called. -/
def sputter : List Command := [
  .put "sputter" (.effect { name := some "Sputter" }),
  .put "spray" (.modifier (.position { shape := .sphere none })),
  .put "ring" (.modifier (.position { shape := .circle none })),
  .put "gust" (.modifier (.custom { update := some {}, failure := some (.update, "calm") })),
  .put "drop" (.modifier (.texture 1)),
  .register "sputter" .init ["spray", "ring"],
  .register "sputter" .update ["gust"],
  .register "sputter" .render ["drop"]]

/-- The effect that the run makes. -/
def sputterEffect : StoredEffect :=
  ((runTo {} sputter).get? { address := 0 }).get (by decide +kernel)

/-- What is reported and called, and the error that ends it. -/
def Compilation.ending (compilation : Compilation) : List Event × Option ApplyError :=
  (compilation.events, match compilation.outcome with
    | .ok _ => none
    | .error error => some error)

theorem sputter_compilation_makes_calls :
    Exists fun step => Exists fun compilation => Exists fun made =>
      (runTo {} sputter).step (.compile "sputter" none) = .ok step ∧
      step.compilation? = some compilation ∧
      compilation.ending = (
        [.overwrite { effectName := "Sputter", count := 2 }, .call .init { address := 5 },
          .call .init { address := 10 }, .call .update { address := 11 }],
        some (.failed "calm")) ∧
      compilation.events = reportOf sputterEffect ++ made.map callEvent ∧
      CallsMade (runTo {} sputter) sputterEffect.calls made compilation.outcome := by
  have selected : (runTo {} sputter).lookup "sputter" = some (.effect { address := 0 }) := by
    decide +kernel
  have present : (runTo {} sputter).get? { address := 0 } = some sputterEffect :=
    (Option.some_get _).symm
  have ends : ((((runTo {} sputter).step (.compile "sputter" none)).toOption.bind
      Step.compilation?).map Compilation.ending) = some (
        [.overwrite { effectName := "Sputter", count := 2 }, .call .init { address := 5 },
          .call .init { address := 10 }, .call .update { address := 11 }],
        some (.failed "calm")) := by
    decide +kernel
  rcases compilation_makes_calls_in_order sputter none selected present with
    ⟨step, compilation, made, compiled, seen, events, calls, _⟩
  rw [compiled, Except.toOption, Option.bind_some, seen] at ends
  exact ⟨step, compilation, made, compiled, seen, Option.some.inj ends, events, calls⟩

end Workspace
end ParticleEffects
