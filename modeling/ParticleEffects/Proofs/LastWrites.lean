import ParticleEffects.Proofs.GradientOrder
import ParticleEffects.Proofs.Meaning

namespace ParticleEffects

/-!
What the built-in modifiers of an effect are compiled to.

Each of them replaces one field of one layout and leaves the others alone.  So a
field of a compiled layout is what the last modifier that writes this field alone
would write, and the order of modifiers that write different fields does not matter.
-/

open Spatial ForceField

/-- The fields of the layouts that built-in modifiers write. -/
inductive Field where
  | positionCode
  | accel
  | forceField
  | texture
  | color
  | size
  deriving DecidableEq

/-- The stage in whose layout a field is. -/
def Field.stage : Field -> Stage
  | .positionCode => .init
  | .accel | .forceField => .update
  | .texture | .color | .size => .render

/-- What the last entry of a list selects that selects anything. -/
def lastOf {α β : Type} (select : α -> Option β) (entries : List α) : Option β :=
  entries.reverse.findSome? select

section Last

variable {α β γ : Type} (select : α -> Option β)

theorem lastOf_append (first second : List α) :
    lastOf select (first ++ second) = (lastOf select second).or (lastOf select first) := by
  rw [lastOf, List.reverse_append, List.findSome?_append, lastOf, lastOf]

theorem lastOf_cons (entry : α) (rest : List α) :
    lastOf select (entry :: rest) = (lastOf select rest).or (select entry) := by
  rw [← List.singleton_append, lastOf_append]
  simp [lastOf]

theorem lastOf_map (f : β -> γ) (entries : List α) :
    lastOf (fun entry => (select entry).map f) entries = (lastOf select entries).map f := by
  induction entries with
  | nil => rfl
  | cons entry rest inductionHypothesis =>
    rw [lastOf_cons, lastOf_cons, inductionHypothesis]
    cases lastOf select rest <;> rfl

theorem lastOf_some (f : α -> β) (entries : List α) :
    lastOf (fun entry => some (f entry)) entries = entries.getLast?.map f := by
  rw [lastOf, List.getLast?_eq_head?_reverse]
  cases entries.reverse <;> rfl

/-- Two neighbours may change places, unless both of them select something. -/
theorem lastOf_swap (before after : List α) {first second : α}
    (apart : select first = none ∨ select second = none) :
    lastOf select (before ++ first :: second :: after) =
      lastOf select (before ++ second :: first :: after) := by
  rcases apart with absent | absent
  · simp only [lastOf_append, lastOf_cons, absent, Option.or_none]
  · simp only [lastOf_append, lastOf_cons, absent, Option.or_none]

theorem getD_map_some (value : Option α) : (value.map some).getD none = value := by
  cases value <;> rfl

end Last

/-- Calls that all succeed, each of which writes a part of the state or leaves it alone,
leave what the last of them wrote there. -/
theorem part_of_applyAll {Registered State Part : Type}
    (apply : Registered -> State -> Applied State) (part : State -> Part)
    (select : Registered -> Option Part) {calls : List Registered}
    (writes : forall call, call ∈ calls -> forall state, (apply call state).error = none ∧
      part (apply call state).layout = (select call).getD (part state)) :
    forall state, (applyAll apply state calls).left.error = none ∧
      part (applyAll apply state calls).left.layout = (lastOf select calls).getD (part state) := by
  induction calls with
  | nil => intro state; exact ⟨rfl, rfl⟩
  | cons call rest inductionHypothesis =>
    intro state
    rcases writes call List.mem_cons_self state with ⟨succeeds, written⟩
    have later (other : Registered) (member : other ∈ rest) := writes other
      (List.mem_cons_of_mem call member)
    rcases inductionHypothesis later (apply call state).layout with ⟨finished, left⟩
    simp only [applyAll, succeeds]
    refine ⟨finished, ?_⟩
    rw [left, written, lastOf_cons]
    cases lastOf select rest <;> rfl

namespace Modifier

/-- The field that a built-in modifier writes. -/
def field? : LoadedModifier -> Option Field
  | .position _ => some .positionCode
  | .accel _ => some .accel
  | .forceField _ => some .forceField
  | .texture _ => some .texture
  | .color _ => some .color
  | .size _ => some .size
  | .custom _ => none

/-- A built-in modifier, at the stage whose layout it writes. -/
def BuiltInAt (stage : Stage) (modifier : LoadedModifier) : Prop :=
  modifier.field?.map Field.stage = some stage

/-- No key of a gradient that the modifier holds has a ratio that is no number. -/
def Numeric : LoadedModifier -> Prop
  | .color any | .size any => any.gradient.Numeric
  | _ => True

instance (stage : Stage) : DecidablePred (BuiltInAt stage) := fun modifier =>
  inferInstanceAs (Decidable (modifier.field?.map Field.stage = some stage))

instance : DecidablePred Numeric
  | .color any | .size any =>
    inferInstanceAs (Decidable (forall ratio, ratio ∈ any.gradient.ratios -> ratio.isNaN = false))
  | .position _ | .accel _ | .forceField _ | .texture _ | .custom _ => isTrue trivial

/-- The keys that the modifier holds are in order. -/
def InOrder : LoadedModifier -> Prop
  | .color any | .size any => any.gradient.InOrder
  | _ => True

/-- What the modifier alone writes to a new layout. -/
def code (modifier : LoadedModifier) : String := (modifier.applyInit {}).layout.positionCode

def accel? : LoadedModifier -> Option Components
  | .accel vector => some vector
  | _ => none

def slots? : LoadedModifier -> Option Slots
  | .forceField slots => some slots
  | _ => none

def texture? : LoadedModifier -> Option Float
  | .texture handle => some handle
  | _ => none

def color? : LoadedModifier -> Option AnyGradient
  | .color any => some any
  | _ => none

def size? : LoadedModifier -> Option AnyGradient
  | .size any => some any
  | _ => none

section

variable {modifier : LoadedModifier}

theorem applyInit_writes (builtIn : modifier.BuiltInAt .init) (layout : InitLayout) :
    (modifier.applyInit layout).error = none ∧
      (modifier.applyInit layout).layout.positionCode = modifier.code := by
  cases modifier with
  | position spawner => exact ⟨rfl, rfl⟩
  | _ => cases builtIn

theorem applyUpdate_writes (builtIn : modifier.BuiltInAt .update) (layout : UpdateLayout) :
    (modifier.applyUpdate layout).error = none ∧
      (modifier.applyUpdate layout).layout = {
        accel := (modifier.accel?.map (Components.copy 3)).getD layout.accel
        forceField := (modifier.slots?.map fun slots => layoutSlots slots.toList).getD
          layout.forceField } := by
  cases modifier with
  | accel vector => exact ⟨rfl, rfl⟩
  | forceField slots => exact ⟨rfl, rfl⟩
  | _ => cases builtIn

theorem applyRender_writes (builtIn : modifier.BuiltInAt .render) (numeric : modifier.Numeric)
    (ordered : modifier.InOrder) (layout : RenderLayout) :
    (modifier.applyRender layout).error = none ∧
      (modifier.applyRender layout).layout = {
        particleTexture := (modifier.texture?.map some).getD layout.particleTexture
        colorGradient := (modifier.color?.map some).getD layout.colorGradient
        sizeGradient := (modifier.size?.map some).getD layout.sizeGradient } := by
  have copied {any : AnyGradient} (ordered : any.gradient.InOrder)
      (numeric : any.gradient.Numeric) : any.copy = any := by
    rw [AnyGradient.copy, ordered.copy_eq numeric]
  cases modifier with
  | texture handle => exact ⟨rfl, rfl⟩
  | color any =>
    refine ⟨rfl, ?_⟩
    simp only [applyRender, copied ordered numeric]
    rfl
  | size any =>
    refine ⟨rfl, ?_⟩
    simp only [applyRender, copied ordered numeric]
    rfl
  | _ => cases builtIn

end

end Modifier

namespace Effect

/-- The layouts in which each field is what the last modifier for it writes. -/
def lastWrites (effect : Effect LoadedModifier) : Layouts where
  init := {
    positionCode := (effect.initModifiers.getLast?.map Modifier.code).getD "" }
  update := {
    accel := ((lastOf Modifier.accel? effect.updateModifiers).map (Components.copy 3)).getD
      (.ofNumbers [0, 0, 0])
    forceField := layoutSlots
      ((lastOf Modifier.slots? effect.updateModifiers).getD Slots.empty).toList }
  render := {
    particleTexture := lastOf Modifier.texture? effect.renderModifiers
    colorGradient := lastOf Modifier.color? effect.renderModifiers
    sizeGradient := lastOf Modifier.size? effect.renderModifiers }

/-- A vector of three entries is written as it is. -/
theorem lastWrites_accel {effect : Effect LoadedModifier} {vector : Components}
    (last : lastOf Modifier.accel? effect.updateModifiers = some vector)
    (complete : vector.length = 3) : effect.lastWrites.update.accel = vector := by
  rw [lastWrites, last, Option.map_some, Option.getD_some, Components.copy_of_length complete]

section

variable {effect : Effect LoadedModifier}
  (builtIn : forall stage modifier, modifier ∈ effect.modifiers stage -> modifier.BuiltInAt stage)
include builtIn

theorem initStage_of_builtIn : effect.initStage.left.error = none ∧
    effect.initStage.left.layout = effect.lastWrites.init := by
  rcases part_of_applyAll Modifier.applyInit InitLayout.positionCode
    (fun modifier => some modifier.code)
    (fun modifier member layout => modifier.applyInit_writes (builtIn .init modifier member) layout)
    {} with ⟨finished, code⟩
  rw [lastOf_some] at code
  exact ⟨finished, congrArg InitLayout.mk code⟩

theorem updateStage_of_builtIn : effect.updateStage.left.error = none ∧
    effect.updateStage.left.layout = effect.lastWrites.update := by
  have writes (modifier : LoadedModifier) (member : modifier ∈ effect.updateModifiers)
      (layout : UpdateLayout) :=
    modifier.applyUpdate_writes (builtIn .update modifier member) layout
  rcases part_of_applyAll Modifier.applyUpdate UpdateLayout.accel
    (fun modifier => modifier.accel?.map (Components.copy 3))
    (fun modifier member layout => ⟨(writes modifier member layout).1,
      congrArg UpdateLayout.accel (writes modifier member layout).2⟩) {} with ⟨finished, accel⟩
  rcases part_of_applyAll Modifier.applyUpdate UpdateLayout.forceField
    (fun modifier => modifier.slots?.map fun slots => layoutSlots slots.toList)
    (fun modifier member layout => ⟨(writes modifier member layout).1,
      congrArg UpdateLayout.forceField (writes modifier member layout).2⟩) {} with ⟨_, forceField⟩
  rw [lastOf_map] at accel forceField
  have slots : ((lastOf Modifier.slots? effect.updateModifiers).map fun slots =>
      layoutSlots slots.toList).getD (layoutSlots Slots.empty.toList) =
        effect.lastWrites.update.forceField := by
    rw [lastWrites]
    cases lastOf Modifier.slots? effect.updateModifiers <;> rfl
  exact ⟨finished, congr (congrArg UpdateLayout.mk accel) (forceField.trans slots)⟩

variable (numeric : forall modifier, modifier ∈ effect.renderModifiers -> modifier.Numeric)
  (ordered : forall modifier, modifier ∈ effect.renderModifiers -> modifier.InOrder)
include numeric ordered

theorem renderStage_of_builtIn : effect.renderStage.left.error = none ∧
    effect.renderStage.left.layout = effect.lastWrites.render := by
  have writes (modifier : LoadedModifier) (member : modifier ∈ effect.renderModifiers)
      (layout : RenderLayout) :=
    modifier.applyRender_writes (builtIn .render modifier member) (numeric modifier member)
      (ordered modifier member) layout
  rcases part_of_applyAll Modifier.applyRender RenderLayout.particleTexture
    (fun modifier => modifier.texture?.map some)
    (fun modifier member layout => ⟨(writes modifier member layout).1,
      congrArg RenderLayout.particleTexture (writes modifier member layout).2⟩) {} with
    ⟨finished, texture⟩
  rcases part_of_applyAll Modifier.applyRender RenderLayout.colorGradient
    (fun modifier => modifier.color?.map some)
    (fun modifier member layout => ⟨(writes modifier member layout).1,
      congrArg RenderLayout.colorGradient (writes modifier member layout).2⟩) {} with ⟨_, color⟩
  rcases part_of_applyAll Modifier.applyRender RenderLayout.sizeGradient
    (fun modifier => modifier.size?.map some)
    (fun modifier member layout => ⟨(writes modifier member layout).1,
      congrArg RenderLayout.sizeGradient (writes modifier member layout).2⟩) {} with ⟨_, size⟩
  rw [lastOf_map, getD_map_some] at texture color size
  exact ⟨finished, congr (congr (congrArg RenderLayout.mk texture) color) size⟩

/-- Built-in modifiers are compiled without an error, and each field is what the last
modifier for it writes. -/
theorem meaning_of_builtIn : effect.meaning.left = .done effect.lastWrites := by
  rcases initStage_of_builtIn builtIn with ⟨initFinished, init⟩
  rcases updateStage_of_builtIn builtIn with ⟨updateFinished, update⟩
  rcases renderStage_of_builtIn builtIn numeric ordered with ⟨renderFinished, render⟩
  rw [effect.meaning_of_render initFinished updateFinished]
  simp only [Applied.map, renderFinished, init, update, render]
  rfl

end

/-- Neighbours that write different fields may stand in either order. -/
theorem lastWrites_swap {effect swapped : Effect LoadedModifier} {stage : Stage}
    {before after : List LoadedModifier} {first second : LoadedModifier}
    (ordered : effect.modifiers stage = before ++ first :: second :: after)
    (reordered : swapped.modifiers stage = before ++ second :: first :: after)
    (others : forall other, other ≠ stage -> effect.modifiers other = swapped.modifiers other)
    (firstBuiltIn : first.BuiltInAt stage) (secondBuiltIn : second.BuiltInAt stage)
    (different : first.field? ≠ second.field?) : effect.lastWrites = swapped.lastWrites := by
  have apart (field : Field) : first.field? ≠ some field ∨ second.field? ≠ some field := by
    by_cases writes : first.field? = some field
    · exact .inr fun same => different (writes.trans same.symm)
    · exact .inl writes
  have swap {α : Type} (select : LoadedModifier -> Option α) (field : Field)
      (selects : forall modifier : LoadedModifier, modifier.field? ≠ some field ->
        select modifier = none) :
      lastOf select (effect.modifiers stage) = lastOf select (swapped.modifiers stage) := by
    rw [ordered, reordered]
    exact lastOf_swap select _ _ ((apart field).imp (selects first) (selects second))
  cases stage with
  | init =>
    -- The layout of the first stage has one field only.
    have same {modifier : LoadedModifier} (builtIn : modifier.BuiltInAt .init) :
        modifier.field? = some .positionCode := by
      cases modifier with
      | position spawner => rfl
      | _ => cases builtIn
    exact absurd ((same firstBuiltIn).trans (same secondBuiltIn).symm) different
  | update =>
    have init : effect.initModifiers = swapped.initModifiers := others .init (by decide)
    have render : effect.renderModifiers = swapped.renderModifiers := others .render (by decide)
    have accel := swap Modifier.accel? .accel fun modifier other => by
      cases modifier with
      | accel vector => exact absurd rfl other
      | _ => rfl
    have slots := swap Modifier.slots? .forceField fun modifier other => by
      cases modifier with
      | forceField slots => exact absurd rfl other
      | _ => rfl
    simp only [modifiers] at accel slots
    simp only [lastWrites, init, render, accel, slots]
  | render =>
    have init : effect.initModifiers = swapped.initModifiers := others .init (by decide)
    have update : effect.updateModifiers = swapped.updateModifiers := others .update (by decide)
    have texture := swap Modifier.texture? .texture fun modifier other => by
      cases modifier with
      | texture handle => exact absurd rfl other
      | _ => rfl
    have color := swap Modifier.color? .color fun modifier other => by
      cases modifier with
      | color any => exact absurd rfl other
      | _ => rfl
    have size := swap Modifier.size? .size fun modifier other => by
      cases modifier with
      | size any => exact absurd rfl other
      | _ => rfl
    simp only [modifiers] at texture color size
    simp only [lastWrites, init, update, texture, color, size]

end Effect

end ParticleEffects
