import Mathlib.Data.List.Basic
import ParticleEffects.Effect.Compile

namespace ParticleEffects

/-!
What a compilation amounts to, apart from how modifiers and layouts are kept.

All registrations of an effect are calls in one order, and each call changes the
layout of its stage.  The calls are made up to the first one that fails, which is
stated here without the recursion that makes them: the calls before it lead from new
layouts to the ones on which it fails.
-/

/-- The registrations of an effect in the order in which they are called. -/
def Effect.calls {Registered : Type} (effect : Effect Registered) : List (Stage × Registered) :=
  effect.initModifiers.map (Prod.mk .init) ++ effect.updateModifiers.map (Prod.mk .update) ++
    effect.renderModifiers.map (Prod.mk .render)

/-! ## Registrations -/

namespace Effect

variable {Registered : Type}

theorem mem_calls {effect : Effect Registered} {stage : Stage} {modifier : Registered} :
    (stage, modifier) ∈ effect.calls ↔ modifier ∈ effect.modifiers stage := by
  cases stage <;> simp [calls, modifiers]

/-- Registration puts modifiers behind those of one stage, in their order. -/
theorem registerAll_eq (stage : Stage) (modifiers : List Registered) :
    forall effect : Effect Registered, effect.registerAll stage modifiers =
      match stage with
      | .init => { effect with initModifiers := effect.initModifiers ++ modifiers }
      | .update => { effect with updateModifiers := effect.updateModifiers ++ modifiers }
      | .render => { effect with renderModifiers := effect.renderModifiers ++ modifiers } := by
  induction modifiers with
  | nil => intro effect; cases stage <;> simp [registerAll]
  | cons modifier rest inductionHypothesis =>
    intro effect
    refine (inductionHypothesis (effect.register stage modifier)).trans ?_
    cases stage <;> simp [register]

theorem modifiers_registerAll (effect : Effect Registered) (registered : Stage)
    (modifiers : List Registered) (stage : Stage) :
    (effect.registerAll registered modifiers).modifiers stage =
      effect.modifiers stage ++ if registered = stage then modifiers else [] := by
  rw [registerAll_eq]
  cases registered <;> cases stage <;> simp [Effect.modifiers]

/-- An effect with modifiers registered behind those that it had, stage by stage. -/
def withRegistered (effect : Effect Registered) (added : Stage -> List Registered) :
    Effect Registered where
  config := effect.config
  initModifiers := effect.initModifiers ++ added .init
  updateModifiers := effect.updateModifiers ++ added .update
  renderModifiers := effect.renderModifiers ++ added .render

theorem modifiers_withRegistered (effect : Effect Registered) (added : Stage -> List Registered)
    (stage : Stage) :
    (effect.withRegistered added).modifiers stage = effect.modifiers stage ++ added stage := by
  cases stage <;> rfl

theorem registerAll_withRegistered (effect : Effect Registered) (registered : Stage)
    (modifiers : List Registered) (added : Stage -> List Registered) :
    (effect.registerAll registered modifiers).withRegistered added =
      effect.withRegistered fun stage =>
        (if registered = stage then modifiers else []) ++ added stage := by
  rw [registerAll_eq]
  cases registered <;> simp [withRegistered]

/-- Registrations for different stages may be made in either order. -/
theorem registerAll_comm (effect : Effect Registered) {first second : Stage}
    (different : first ≠ second) (modifiers others : List Registered) :
    (effect.registerAll first modifiers).registerAll second others =
      (effect.registerAll second others).registerAll first modifiers := by
  rw [registerAll_eq, registerAll_eq, registerAll_eq, registerAll_eq]
  cases first with
  | init => cases second with
    | init => exact absurd rfl different
    | _ => rfl
  | update => cases second with
    | update => exact absurd rfl different
    | _ => rfl
  | render => cases second with
    | render => exact absurd rfl different
    | _ => rfl

end Effect

/-! ## Calls -/

/-- The layouts before anything is applied. -/
def Layouts.new : Layouts := { init := {}, update := {}, render := {} }

/-- A modifier, applied to the layout of a stage. -/
def Modifier.applyAt (call : Stage × LoadedModifier) (layouts : Layouts) : Applied Layouts :=
  match call.1 with
  | .init => (call.2.applyInit layouts.init).map fun init => { layouts with init := init }
  | .update => (call.2.applyUpdate layouts.update).map fun update => { layouts with update := update }
  | .render => (call.2.applyRender layouts.render).map fun render => { layouts with render := render }

section

variable {Registered State : Type} (apply : Registered -> State -> Applied State)

/-- All of the calls succeed, one after the other, and lead from one state to another. -/
inductive Leads : State -> List Registered -> State -> Prop where
  | nil (state : State) : Leads state [] state
  | cons {state : State} {call : Registered} {rest : List Registered} {final : State}
    (succeeds : (apply call state).error = none)
    (others : Leads (apply call state).layout rest final) : Leads state (call :: rest) final

/-- How far calls come: to the end, or to the first one that fails. -/
inductive Comes (state : State) (calls : List Registered) : Progress Registered State -> Prop where
  | ends {final : State} (leads : Leads apply state calls final) :
    Comes state calls { called := calls, left := .done final }
  | fails (before after : List Registered) {call : Registered} {reached : State} {error : ApplyError}
    (split : calls = before ++ call :: after) (leads : Leads apply state before reached)
    (failure : (apply call reached).error = some error) :
    Comes state calls { called := before ++ [call], left := apply call reached }

theorem comes_applyAll (calls : List Registered) :
    forall state, Comes apply state calls (applyAll apply state calls) := by
  induction calls with
  | nil => intro state; exact .ends (.nil state)
  | cons call rest inductionHypothesis =>
    intro state
    cases result : (apply call state).error with
    | some error =>
      simp only [applyAll, result]
      exact .fails [] rest rfl (.nil state) result
    | none =>
      simp only [applyAll, result]
      have comes := inductionHypothesis (apply call state).layout
      generalize applyAll apply (apply call state).layout rest = progress at comes ⊢
      cases comes with
      | ends leads => exact .ends (.cons result leads)
      | fails before after split leads failure =>
        exact .fails (call :: before) after (congrArg (List.cons call) split)
          (.cons result leads) failure

/-- The later calls are made where none of the earlier ones fails. -/
theorem applyAll_append (earlier later : List Registered) :
    forall state, applyAll apply state (earlier ++ later) =
      match (applyAll apply state earlier).left.error with
      | none => {
          called := earlier ++
            (applyAll apply (applyAll apply state earlier).left.layout later).called
          left := (applyAll apply (applyAll apply state earlier).left.layout later).left }
      | some _ => applyAll apply state earlier := by
  induction earlier with
  | nil => intro state; rfl
  | cons call rest inductionHypothesis =>
    intro state
    cases result : (apply call state).error with
    | some error => simp only [List.cons_append, applyAll, result]
    | none =>
      simp only [List.cons_append, applyAll, result, inductionHypothesis]
      cases (applyAll apply (apply call state).layout rest).left.error <;> rfl

theorem called_eq_of_error_eq_none (calls : List Registered) (state : State)
    (finished : (applyAll apply state calls).left.error = none) :
    (applyAll apply state calls).called = calls := by
  have comes := comes_applyAll apply calls state
  generalize applyAll apply state calls = progress at comes finished ⊢
  cases comes with
  | ends leads => rfl
  | fails before after split leads failure => cases failure.symm.trans finished

/-- The calls that are made are the first ones. -/
theorem called_initial (calls : List Registered) (state : State) :
    (applyAll apply state calls).called <+: calls := by
  have comes := comes_applyAll apply calls state
  generalize applyAll apply state calls = progress at comes ⊢
  cases comes with
  | ends leads => exact List.prefix_rfl
  | fails before after split leads failure => exact ⟨after, by simp [split]⟩

end

/-- Calls on one part of a state are the calls on that part alone. -/
theorem applyAll_part {Registered Tagged State Part : Type} (tag : Registered -> Tagged)
    (get : State -> Part) (put : State -> Part -> State) (apply : Registered -> Part -> Applied Part)
    (applyTagged : Tagged -> State -> Applied State)
    (applies : forall call state,
      applyTagged (tag call) state = (apply call (get state)).map (put state))
    (get_put : forall state part, get (put state part) = part)
    (put_put : forall state part other, put (put state part) other = put state other)
    (put_get : forall state, put state (get state) = state) (calls : List Registered) :
    forall state, applyAll applyTagged state (calls.map tag) = {
      called := (applyAll apply (get state) calls).called.map tag
      left := (applyAll apply (get state) calls).left.map (put state) } := by
  induction calls with
  | nil =>
    intro state
    simp [applyAll, Applied.map, Applied.done, put_get]
  | cons call rest inductionHypothesis =>
    intro state
    cases result : (apply call (get state)).error with
    | some error => simp [applyAll, applies, Applied.map, result]
    | none =>
      simp [applyAll, applies, Applied.map, result, inductionHypothesis, get_put, put_put]

namespace Modifier

theorem applyAll_init (modifiers : List LoadedModifier) (layouts : Layouts) :
    applyAll applyAt layouts (modifiers.map (Prod.mk .init)) = {
      called := (applyAll applyInit layouts.init modifiers).called.map (Prod.mk .init)
      left := (applyAll applyInit layouts.init modifiers).left.map fun init =>
        { layouts with init := init } } :=
  applyAll_part (Prod.mk Stage.init) Layouts.init (fun layouts init => { layouts with init := init })
    applyInit applyAt (fun _ _ => rfl) (fun _ _ => rfl) (fun _ _ _ => rfl) (fun _ => rfl) modifiers
    layouts

theorem applyAll_update (modifiers : List LoadedModifier) (layouts : Layouts) :
    applyAll applyAt layouts (modifiers.map (Prod.mk .update)) = {
      called := (applyAll applyUpdate layouts.update modifiers).called.map (Prod.mk .update)
      left := (applyAll applyUpdate layouts.update modifiers).left.map fun update =>
        { layouts with update := update } } :=
  applyAll_part (Prod.mk Stage.update) Layouts.update
    (fun layouts update => { layouts with update := update })
    applyUpdate applyAt (fun _ _ => rfl) (fun _ _ => rfl) (fun _ _ _ => rfl) (fun _ => rfl) modifiers
    layouts

theorem applyAll_render (modifiers : List LoadedModifier) (layouts : Layouts) :
    applyAll applyAt layouts (modifiers.map (Prod.mk .render)) = {
      called := (applyAll applyRender layouts.render modifiers).called.map (Prod.mk .render)
      left := (applyAll applyRender layouts.render modifiers).left.map fun render =>
        { layouts with render := render } } :=
  applyAll_part (Prod.mk Stage.render) Layouts.render
    (fun layouts render => { layouts with render := render })
    applyRender applyAt (fun _ _ => rfl) (fun _ _ => rfl) (fun _ _ _ => rfl) (fun _ => rfl) modifiers
    layouts

end Modifier

namespace Effect

variable (effect : Effect LoadedModifier)

/-- What a compilation of an effect leads to. -/
def meaning : Progress (Stage × LoadedModifier) Layouts :=
  applyAll Modifier.applyAt .new effect.calls

/-- The configuration of an effect plays no part in what it is compiled to. -/
theorem meaning_of_config (config : EffectConfig) :
    ({ effect with config := config } : Effect LoadedModifier).meaning = effect.meaning := rfl

/-- What the calls of the first stage lead to. -/
def initStage : Progress LoadedModifier InitLayout :=
  applyAll Modifier.applyInit {} effect.initModifiers

def updateStage : Progress LoadedModifier UpdateLayout :=
  applyAll Modifier.applyUpdate {} effect.updateModifiers

def renderStage : Progress LoadedModifier RenderLayout :=
  applyAll Modifier.applyRender {} effect.renderModifiers

/-- The calls of the later stages, where the first one succeeds. -/
theorem meaning_of_init_succeeds (succeeds : effect.initStage.left.error = none) :
    effect.meaning =
      let later := applyAll Modifier.applyAt { Layouts.new with init := effect.initStage.left.layout }
        (effect.updateModifiers.map (Prod.mk .update) ++ effect.renderModifiers.map (Prod.mk .render))
      { called := effect.initModifiers.map (Prod.mk .init) ++ later.called, left := later.left } := by
  have first := Modifier.applyAll_init effect.initModifiers .new
  have finished : (applyAll Modifier.applyAt .new (effect.initModifiers.map (Prod.mk .init))).left.error
      = none := by
    rw [first]
    exact succeeds
  have reached : (applyAll Modifier.applyAt .new
      (effect.initModifiers.map (Prod.mk .init))).left.layout =
        { Layouts.new with init := effect.initStage.left.layout } := by
    rw [first]
    rfl
  rw [meaning, calls, List.append_assoc, applyAll_append, finished, reached]

theorem meaning_of_render (initSucceeds : effect.initStage.left.error = none)
    (updateSucceeds : effect.updateStage.left.error = none) :
    effect.meaning = {
      called := effect.initModifiers.map (Prod.mk .init) ++
        (effect.updateModifiers.map (Prod.mk .update) ++
          effect.renderStage.called.map (Prod.mk .render))
      left := effect.renderStage.left.map fun render => {
        init := effect.initStage.left.layout
        update := effect.updateStage.left.layout
        render := render } } := by
  have second := Modifier.applyAll_update effect.updateModifiers
    { Layouts.new with init := effect.initStage.left.layout }
  have finished : (applyAll Modifier.applyAt { Layouts.new with init := effect.initStage.left.layout }
      (effect.updateModifiers.map (Prod.mk .update))).left.error = none := by
    rw [second]
    exact updateSucceeds
  have reached : (applyAll Modifier.applyAt { Layouts.new with init := effect.initStage.left.layout }
      (effect.updateModifiers.map (Prod.mk .update))).left.layout =
        { Layouts.new with
          init := effect.initStage.left.layout, update := effect.updateStage.left.layout } := by
    rw [second]
    rfl
  rw [meaning_of_init_succeeds effect initSucceeds, applyAll_append, finished, reached,
    Modifier.applyAll_render]
  rfl

end Effect

end ParticleEffects
