import ParticleEffects.Proofs.MutatedAssets

namespace ParticleEffects
namespace Workspace

/-!
Sessions that keep the copies they are handed out.

A command that assigns inside of a copy drops the copy at once.  In a session copies can be
kept, and each of them can be changed at any later time, between any commands.

The objects of a copy are parts of no asset.  They were placed at the first address that was
free when the copy was handed out, and an object of the copy lies there that is a part itself.
Nothing that a name stands for lies at such an address, nor does a gradient or a speed that
modifiers share, a value that speeds share or a vector that sources share.
-/

open Spatial ForceField

/-- A workspace with the copies that were handed out and kept. -/
structure Session where
  workspace : Workspace := {}
  copies : List Handout := []

/-- What is done in a session. -/
inductive Action where
  | run (command : Command)
  /-- Keeps the copy that an asset hands out. -/
  | keep (name : String) (request : HandoutRequest)
  /-- Assigns inside of a copy that was kept. -/
  | change (n : Nat) (path : Path) (content : Content)

namespace Session

def act (session : Session) : Action -> Session
  | .run command => { session with workspace := (session.workspace.runCommand command).2 }
  | .keep name request =>
    match session.workspace.handOut name request with
    | .ok copy => { workspace := copy.workspace, copies := session.copies ++ [copy.handout] }
    | .error _ => session
  | .change n path content =>
    match session.copies[n]? with
    | some copy => { session with workspace := session.workspace.assignCopy copy path content }
    | none => session

def actAll (session : Session) (actions : List Action) : Session := actions.foldl act session

/-- The sessions that start with nothing. -/
def Reached (session : Session) : Prop :=
  Exists fun history => session = ({} : Session).actAll history

end Session

/-! ## Places apart from assets -/

/-- Nothing that is part of nothing lies at an address. -/
def Clear (workspace : Workspace) (place : Placement) (root : Nat) : Prop :=
  forall address, address < workspace.objects.size -> place address = .alone address ->
    address ≠ root

theorem clear_size (workspace : Workspace) (place : Placement) :
    Clear workspace place workspace.objects.size :=
  fun _ old _ => Nat.ne_of_lt old

/-- All places but those that belong to a root. -/
def Region.apartFrom (root : Nat) : Region := fun place => place.root ≠ root

theorem Region.inward_apartFrom (root : Nat) : (Region.apartFrom root).Inward :=
  fun _ inside _ => inside

section

variable {workspace changed : Workspace} {place place' : Placement}

theorem Lies.apartFrom {α : Type} [Storable α] {handle : Handle α} {root : Nat}
    (lies : Lies workspace place handle (.alone handle.address))
    (clear : Clear workspace place root) : Region.apartFrom root (.alone handle.address) :=
  clear handle.address (lt_of_kindAt? lies.kind) lies.spot

/-- What is seen of an asset does not depend on what lies at a clear address. -/
theorem AssetLies.view_of_clear (sound : Sound workspace place) {asset : Asset}
    (lies : AssetLies workspace place asset) {observation : Observation}
    (told : observation.IsTold) (seen : workspace.view asset = .ok observation) {root : Nat}
    (agrees : Agrees (.apartFrom root) workspace place changed)
    (clear : Clear workspace place root) : changed.view asset = .ok observation := by
  have inward := Region.inward_apartFrom root
  cases asset with
  | source handle =>
    have loads : changed.loadSource? handle = workspace.loadSource? handle :=
      agrees.loadSource?_alone sound lies (Lies.apartFrom lies clear) fun stored present =>
        (sound.positionLies lies present).apartFrom clear
    rw [view, loads]
    exact seen
  | gradient handle =>
    have loads : changed.loadGradient? handle = workspace.loadGradient? handle :=
      agrees.loadGradient? inward sound lies (Lies.apartFrom lies clear)
    rw [view, loads]
    exact seen
  | modifier handle =>
    rcases bind_eq_ok_iff.mp seen with ⟨loaded, found, same⟩
    cases same
    have held := orUnsuitable_eq_ok_iff.mp found
    refine view_modifier (Eq.trans ?_ held)
    apply agrees.modifierAt? inward sound lies (Lies.apartFrom lies clear)
    · intro stored other present shared
      have fits := (sound.modifierFits lies present).2
      rcases sound.sharedRoot fits shared with ⟨alone, _, found, _⟩
      exact clear other (lt_of_kindAt? found) alone
    · intro stored name present named
      rw [modifierAt?_of_get? present] at held
      cases stored with
      | custom hooks =>
        cases held
        cases told
      | _ => cases named
  | _ =>
    rcases bind_eq_ok_iff.mp seen with ⟨_, _, same⟩
    cases same
    cases told

/-! ## Copies -/

theorem HandoutLies.change {written added : Region} {spot : Place} {copy : Handout}
    (lies : HandoutLies workspace place spot copy)
    (changes : Changes written added workspace place changed place') :
    HandoutLies changed place' spot copy := by
  cases copy with
  | keys keys => exact fun key member => (lies key member).change changes
  | _ => exact Lies.change lies changes

/-- A copy lies apart from all assets. -/
structure LiesApart (workspace : Workspace) (place : Placement) (spot : Place) (copy : Handout) :
    Prop where
  lies : HandoutLies workspace place spot copy
  copied : spot.parts = [.slots]
  present : spot.root < workspace.objects.size
  nested : (place spot.root).parts ≠ []

theorem LiesApart.clear {spot : Place} {copy : Handout}
    (apart : LiesApart workspace place spot copy) : Clear workspace place spot.root := by
  rintro _ _ alone rfl
  exact apart.nested (congrArg Place.parts alone)

/-- There is nothing in a copy, or it lies apart. -/
def IsApart (workspace : Workspace) (place : Placement) (copy : Handout) : Prop :=
  copy = .keys [] ∨ Exists fun spot => LiesApart workspace place spot copy

theorem IsApart.change {written added : Region} {copy : Handout}
    (apart : IsApart workspace place copy)
    (changes : Changes written added workspace place changed place') :
    IsApart changed place' copy := by
  rcases apart with empty | ⟨spot, apart⟩
  · exact .inl empty
  · refine .inr ⟨spot, apart.lies.change changes, apart.copied,
      Nat.lt_of_lt_of_le apart.present changes.size_le, ?_⟩
    rw [changes.place_eq _ apart.present]
    exact apart.nested

/-- There is nothing to assign to in a copy of no keys. -/
theorem assignCopy_empty (workspace : Workspace) (path : Path) (content : Content) :
    workspace.assignCopy (.keys []) path content = workspace := by
  unfold Workspace.assignCopy
  dsimp only
  split
  case h_1 changed assigned =>
    split at assigned
    case h_4 same =>
      cases same
      cases assigned
    all_goals contradiction
  case h_2 => rfl

theorem Separated.handOut_grown (separated : Separated workspace place) {name : String}
    {request : HandoutRequest} {copy : HandedOut}
    (handedOut : workspace.handOut name request = .ok copy) :
    Exists fun place' => Grown workspace place copy.workspace place' ∧
      IsApart copy.workspace place' copy.handout := by
  rcases separated.handOut handedOut with ⟨place', copied⟩
  have separated' : Separated copy.workspace place' :=
    separated.evolve copied.evolves fun grows _ inside => Nat.lt_of_le_of_lt
      (Nat.le_of_eq inside.1) grows
  have grown : Grown workspace place copy.workspace place' := ⟨copied.evolves.weaken
    (fun _ inside => Nat.le_of_eq inside.1.symm) fun _ inside => Nat.le_of_eq inside.1.symm,
    separated'⟩
  refine ⟨place', grown, ?_⟩
  -- Whatever is in the copy is new, and so is the first object that was added for it.
  have filled {α : Type} [Storable α] {handle : Handle α}
      (lies : Lies copy.workspace place' handle workspace.copySpot)
      (all : HandoutLies copy.workspace place' workspace.copySpot copy.handout) :
      IsApart copy.workspace place' copy.handout := by
    have grows : workspace.objects.size < copy.workspace.objects.size := by
      have bounded := separated'.bounded _ (lt_of_kindAt? lies.kind)
      rwa [lies.spot] at bounded
    have inside := copied.evolves.changes.fresh _ (Nat.le_refl _) grows
    refine .inr ⟨workspace.copySpot, all, rfl, grows, fun nothing => ?_⟩
    have outer := inside.2
    change [Part.slots] <+: (place' workspace.objects.size).parts at outer
    rw [show (place' workspace.objects.size).parts = [] from nothing] at outer
    simp at outer
  have lies := copied.lies
  cases shape : copy.handout with
  | keys keys =>
    cases keys with
    | nil => exact .inl rfl
    | cons key rest =>
      rw [shape] at lies filled
      exact filled (lies key List.mem_cons_self) lies
  | _ =>
    rw [shape] at lies filled
    exact filled lies lies

/-! ## Sessions -/

namespace Session

/-- All copies that are kept lie apart. -/
structure Apart (session : Session) (place : Placement) : Prop where
  separated : Separated session.workspace place
  copies : forall copy, copy ∈ session.copies -> IsApart session.workspace place copy

theorem apart_empty : Apart {} fun address => .alone address where
  separated := separated_empty
  copies _ member := by cases member

variable {session : Session}

/-- Copies stay apart over everything that keeps the workspace separated. -/
theorem Apart.change {written added : Region} (apart : session.Apart place)
    (separated : Separated changed place')
    (changes : Changes written added session.workspace place changed place') :
    ({ session with workspace := changed } : Session).Apart place' where
  separated := separated
  copies copy member := (apart.copies copy member).change changes

/-- What an action leads to. -/
structure Led (session : Session) (place : Placement) (final : Session) (place' : Placement) :
    Prop where
  apart : final.Apart place'
  changes : Changes .everywhere .everywhere session.workspace place final.workspace place'

theorem Led.refl (apart : session.Apart place) : Led session place session place :=
  ⟨apart, .refl _ _⟩

theorem Apart.run (apart : session.Apart place) (command : Command) : Exists fun place' =>
    Led session place (session.act (.run command)) place' := by
  rcases apart.separated.runCommand command with ⟨place', kept⟩
  exact ⟨place', apart.change kept.separated kept.changes,
    kept.changes.weaken (fun _ _ => trivial) fun _ _ => trivial⟩

/-- What is left alone by an action that runs no command: all but the parts of one clear
address. -/
structure Spared (session : Session) (place : Placement) (final : Session) (place' : Placement) :
    Prop where
  led : Led session place final place'
  elsewhere : Exists fun root => Clear session.workspace place root ∧
    Agrees (.apartFrom root) session.workspace place final.workspace

theorem Spared.refl (apart : session.Apart place) : Spared session place session place :=
  ⟨.refl apart, _, clear_size _ _, fun _ _ _ => rfl⟩

theorem Apart.keep (apart : session.Apart place) (name : String) (request : HandoutRequest) :
    Exists fun place' => Spared session place (session.act (.keep name request)) place' := by
  cases handedOut : session.workspace.handOut name request with
  | error failure =>
    simp only [act, handedOut]
    exact ⟨place, .refl apart⟩
  | ok copy =>
    simp only [act, handedOut]
    rcases apart.separated.handOut_grown handedOut with ⟨place', grown, new⟩
    have changes := grown.evolves.changes
    refine ⟨place', ⟨⟨grown.separated, fun other member => ?_⟩, ?_⟩, _, clear_size _ _, ?_⟩
    · rcases List.mem_append.mp member with old | added
      · exact (apart.copies other old).change changes
      · rw [List.mem_singleton.mp added]
        exact new
    · exact changes.weaken (fun _ _ => trivial) fun _ _ => trivial
    · exact fun _ old _ => grown.getElem?_eq apart.separated old

theorem Apart.changeCopy (apart : session.Apart place) (n : Nat) (path : Path) (content : Content) :
    Exists fun place' => Spared session place (session.act (.change n path content)) place' := by
  refine ⟨place, ?_⟩
  cases found : session.copies[n]? with
  | none =>
    simp only [act, found]
    exact .refl apart
  | some copy =>
    simp only [act, found]
    rcases apart.copies copy (List.mem_of_getElem? found) with rfl | ⟨spot, liesApart⟩
    · rw [assignCopy_empty]
      exact .refl apart
    · have evolves := apart.separated.sound.assignCopy liesApart.lies liesApart.copied path content
      have separated := apart.separated.evolve evolves fun _ _ => False.elim
      exact ⟨⟨apart.change separated evolves.changes,
        evolves.changes.weaken (fun _ _ => trivial) fun _ => False.elim⟩, spot.root,
        liesApart.clear, evolves.changes.agrees _ fun _ outside inside => outside inside.1⟩

/-- All copies lie apart after every action. -/
theorem Apart.act (apart : session.Apart place) (action : Action) :
    Exists fun place' => Led session place (session.act action) place' := by
  cases action with
  | run command => exact apart.run command
  | keep name request =>
    rcases apart.keep name request with ⟨place', spared⟩
    exact ⟨place', spared.led⟩
  | change n path content =>
    rcases apart.changeCopy n path content with ⟨place', spared⟩
    exact ⟨place', spared.led⟩

theorem Apart.actAll (actions : List Action) : forall {session : Session} {place : Placement},
    session.Apart place -> Exists fun place' => (session.actAll actions).Apart place' := by
  induction actions with
  | nil => exact fun apart => ⟨_, apart⟩
  | cons action rest inductionHypothesis =>
    intro session place apart
    rcases apart.act action with ⟨_, led⟩
    exact inductionHypothesis led.apart

theorem Reached.exists_apart (reached : session.Reached) :
    Exists fun place => session.Apart place := by
  rcases reached with ⟨history, rfl⟩
  exact apart_empty.actAll history

end Session

end

end Workspace
end ParticleEffects
