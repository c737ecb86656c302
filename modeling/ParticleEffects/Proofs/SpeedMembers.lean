import Mathlib.Data.List.Basic
import ParticleEffects.Spawn.Shape

namespace ParticleEffects
namespace Spawn
namespace Speed

/-!
Speeds, member by member.

Two speeds match if they have one rule and their members match one by one.  A speed is
read from another one exactly where every member is read, and a change of one member
goes along with the same change of the one that matches it.  A scalar that several
members refer to is changed for all of them.
-/

variable {Scalar Target : Type}

theorem mem_of_lookup {speed : Speed Scalar} {name : String} {scalar : Scalar}
    (found : speed.members.lookup name = some scalar) : (name, scalar) ∈ speed.members := by
  rcases List.lookup_eq_some_iff.mp found with ⟨before, after, split, _⟩
  rw [split]
  exact List.mem_append_right _ List.mem_cons_self

/-- The names of the members that are one scalar. -/
def membersWith [DecidableEq Scalar] (speed : Speed Scalar) (scalar : Scalar) : List String :=
  (speed.members.filter fun member => member.2 = scalar).map Prod.fst

/-- The speed with several of its members changed. -/
def modifyEach (names : List String) (f : Scalar -> Scalar) (speed : Speed Scalar) :
    Speed Scalar :=
  names.foldl (fun changed name => changed.modify name f) speed

section

variable [DecidableEq Scalar] (changed : Scalar) (f : Target -> Target)

theorem modifyEach_normal (scalar : Scalar) (value : Target) :
    modifyEach ((normal scalar).membersWith changed) f (normal value) =
      normal (if scalar = changed then f value else value) := by
  by_cases same : scalar = changed <;> simp [membersWith, members, modifyEach, modify, same]

theorem modifyEach_radial (scalar : Scalar) (value : Target) :
    modifyEach ((radial scalar).membersWith changed) f (radial value) =
      radial (if scalar = changed then f value else value) := by
  by_cases same : scalar = changed <;> simp [membersWith, members, modifyEach, modify, same]

theorem modifyEach_frame (x y z : Scalar) (first second third : Target) :
    modifyEach ((frame x y z).membersWith changed) f (frame first second third) =
      frame (if x = changed then f first else first) (if y = changed then f second else second)
        (if z = changed then f third else third) := by
  by_cases sameX : x = changed <;> by_cases sameY : y = changed <;>
    by_cases sameZ : z = changed <;>
    simp [membersWith, members, modifyEach, modify, sameX, sameY, sameZ]

theorem modifyEach_world (x y z : Scalar) (first second third : Target) :
    modifyEach ((world x y z).membersWith changed) f (world first second third) =
      world (if x = changed then f first else first) (if y = changed then f second else second)
        (if z = changed then f third else third) := by
  by_cases sameX : x = changed <;> by_cases sameY : y = changed <;>
    by_cases sameZ : z = changed <;>
    simp [membersWith, members, modifyEach, modify, sameX, sameY, sameZ]

end

/-- The speeds have one rule, and their members match. -/
inductive Matches (holds : Scalar -> Target -> Prop) : Speed Scalar -> Speed Target -> Prop where
  | normal {speed : Scalar} {value : Target} (first : holds speed value) :
    Matches holds (.normal speed) (.normal value)
  | radial {speed : Scalar} {value : Target} (first : holds speed value) :
    Matches holds (.radial speed) (.radial value)
  | frame {x y z : Scalar} {first second third : Target} (holdsX : holds x first)
    (holdsY : holds y second) (holdsZ : holds z third) :
    Matches holds (.frame x y z) (.frame first second third)
  | world {x y z : Scalar} {first second third : Target} (holdsX : holds x first)
    (holdsY : holds y second) (holdsZ : holds z third) :
    Matches holds (.world x y z) (.world first second third)

theorem mapM_eq_some_iff {load : Scalar -> Option Target} {speed : Speed Scalar}
    {loaded : Speed Target} :
    speed.mapM load = some loaded ↔
      Matches (fun scalar value => load scalar = some value) speed loaded := by
  constructor
  · intro found
    cases speed with
    | normal scalar =>
      rcases Option.bind_eq_some_iff.mp found with ⟨value, foundValue, same⟩
      cases same
      exact .normal foundValue
    | radial scalar =>
      rcases Option.bind_eq_some_iff.mp found with ⟨value, foundValue, same⟩
      cases same
      exact .radial foundValue
    | frame x y z =>
      rcases Option.bind_eq_some_iff.mp found with ⟨first, foundFirst, others⟩
      rcases Option.bind_eq_some_iff.mp others with ⟨second, foundSecond, last⟩
      rcases Option.bind_eq_some_iff.mp last with ⟨third, foundThird, same⟩
      cases same
      exact .frame foundFirst foundSecond foundThird
    | world x y z =>
      rcases Option.bind_eq_some_iff.mp found with ⟨first, foundFirst, others⟩
      rcases Option.bind_eq_some_iff.mp others with ⟨second, foundSecond, last⟩
      rcases Option.bind_eq_some_iff.mp last with ⟨third, foundThird, same⟩
      cases same
      exact .world foundFirst foundSecond foundThird
  · intro loads
    cases loads with
    | normal first => simp [mapM, first]
    | radial first => simp [mapM, first]
    | frame first second third => simp [mapM, first, second, third]
    | world first second third => simp [mapM, first, second, third]

/-- A speed is read where each of its members is. -/
theorem exists_mapM {load : Scalar -> Option Target} {speed : Speed Scalar}
    (each : forall member, member ∈ speed.members ->
      Exists fun value => load member.2 = some value) :
    Exists fun loaded => speed.mapM load = some loaded := by
  cases speed with
  | normal scalar =>
    rcases each ("speed", scalar) (by simp [members]) with ⟨value, first⟩
    exact ⟨.normal value, mapM_eq_some_iff.mpr (.normal first)⟩
  | radial scalar =>
    rcases each ("speed", scalar) (by simp [members]) with ⟨value, first⟩
    exact ⟨.radial value, mapM_eq_some_iff.mpr (.radial first)⟩
  | frame x y z =>
    rcases each ("x", x) (by simp [members]) with ⟨first, foundFirst⟩
    rcases each ("y", y) (by simp [members]) with ⟨second, foundSecond⟩
    rcases each ("z", z) (by simp [members]) with ⟨third, foundThird⟩
    exact ⟨.frame first second third,
      mapM_eq_some_iff.mpr (.frame foundFirst foundSecond foundThird)⟩
  | world x y z =>
    rcases each ("x", x) (by simp [members]) with ⟨first, foundFirst⟩
    rcases each ("y", y) (by simp [members]) with ⟨second, foundSecond⟩
    rcases each ("z", z) (by simp [members]) with ⟨third, foundThird⟩
    exact ⟨.world first second third,
      mapM_eq_some_iff.mpr (.world foundFirst foundSecond foundThird)⟩

/-- What is known of all members, and of what one of them is changed to, is known of the
members after the change. -/
theorem forall_modify {holds : String × Scalar -> Prop} {speed : Speed Scalar} {name : String}
    {f : Scalar -> Scalar} (each : forall member, member ∈ speed.members -> holds member)
    (changed : forall scalar, holds (name, f scalar)) :
    forall member, member ∈ (speed.modify name f).members -> holds member := by
  have either {member : String} {scalar : Scalar} (held : holds (member, scalar)) :
      holds (member, if name = member then f scalar else scalar) := by
    split
    · rename_i same
      exact same ▸ changed scalar
    · exact held
  cases speed <;> simp [modify, members] at each ⊢ <;> simp [either, each]

theorem modify_eq_self {speed : Speed Scalar} {name : String}
    (apart : forall member, member ∈ speed.members -> name ≠ member.1) (f : Scalar -> Scalar) :
    speed.modify name f = speed := by
  cases speed <;> simp [members] at apart <;> simp [modify, apart]

section

variable {holds holds' : Scalar -> Target -> Prop} {speed : Speed Scalar} {loaded : Speed Target}

/-- What is known of the members is enough to match them in another way. -/
theorem Matches.mono (speedsMatch : Matches holds speed loaded)
    (each : forall member value, member ∈ speed.members -> holds member.2 value ->
      holds' member.2 value) : Matches holds' speed loaded := by
  cases speedsMatch with
  | normal first => exact .normal (each ("speed", _) _ (by simp [members]) first)
  | radial first => exact .radial (each ("speed", _) _ (by simp [members]) first)
  | frame first second third =>
    exact .frame (each ("x", _) _ (by simp [members]) first)
      (each ("y", _) _ (by simp [members]) second) (each ("z", _) _ (by simp [members]) third)
  | world first second third =>
    exact .world (each ("x", _) _ (by simp [members]) first)
      (each ("y", _) _ (by simp [members]) second) (each ("z", _) _ (by simp [members]) third)

/-- Members that are changed in the same way match as before. -/
theorem Matches.modify (speedsMatch : Matches holds speed loaded) (name : String)
    {f : Scalar -> Scalar} {g : Target -> Target}
    (kept : forall scalar value, holds scalar value -> holds (f scalar) (g value)) :
    Matches holds (speed.modify name f) (loaded.modify name g) := by
  have either {scalar : Scalar} {value : Target} (held : holds scalar value) (member : String) :
      holds (if name = member then f scalar else scalar)
        (if name = member then g value else value) := by
    split
    · exact kept _ _ held
    · exact held
  cases speedsMatch with
  | normal first => exact .normal (either first _)
  | radial first => exact .radial (either first _)
  | frame first second third => exact .frame (either first _) (either second _) (either third _)
  | world first second third => exact .world (either first _) (either second _) (either third _)

theorem Matches.names_eq (speedsMatch : Matches holds speed loaded) :
    speed.members.map Prod.fst = loaded.members.map Prod.fst := by
  cases speedsMatch <;> rfl

/-- There is nothing to change under a name that no member has. -/
theorem Matches.modify_of_missing (speedsMatch : Matches holds speed loaded) {name : String}
    (missing : speed.members.lookup name = none) (g : Target -> Target) :
    loaded.modify name g = loaded := by
  refine modify_eq_self (fun member held same => ?_) g
  have named : member.1 ∈ speed.members.map Prod.fst :=
    speedsMatch.names_eq ▸ List.mem_map_of_mem held
  rcases List.mem_map.mp named with ⟨other, heldOther, sameName⟩
  have apart := List.lookup_eq_none_iff.mp missing other heldOther
  simp [same, sameName] at apart

/-- A scalar that matches something else from now on is seen in each of its members. -/
theorem Matches.modifyEach [DecidableEq Scalar] (speedsMatch : Matches holds speed loaded)
    {changed : Scalar} {g : Target -> Target}
    (there : forall value, holds changed value -> holds' changed (g value))
    (elsewhere : forall scalar value, scalar ≠ changed -> holds scalar value ->
      holds' scalar value) :
    Matches holds' speed (Speed.modifyEach (speed.membersWith changed) g loaded) := by
  have either {scalar : Scalar} {value : Target} (held : holds scalar value) :
      holds' scalar (if scalar = changed then g value else value) := by
    split
    · rename_i same
      exact same ▸ there _ (same ▸ held)
    · rename_i different
      exact elsewhere _ _ different held
  cases speedsMatch with
  | normal first =>
    rw [modifyEach_normal]
    exact .normal (either first)
  | radial first =>
    rw [modifyEach_radial]
    exact .radial (either first)
  | frame first second third =>
    rw [modifyEach_frame]
    exact .frame (either first) (either second) (either third)
  | world first second third =>
    rw [modifyEach_world]
    exact .world (either first) (either second) (either third)

end

end Speed
end Spawn
end ParticleEffects
