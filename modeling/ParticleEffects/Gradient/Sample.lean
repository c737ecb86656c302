import ParticleEffects.Gradient.Basic

namespace ParticleEffects
namespace Gradient

/-!
Sampling of a gradient at a ratio.

At or before the first key the first value holds, at or behind the last key the
last one.  In between the segment is sought from the front: it starts at the key
before the first one, among those behind the head, whose ratio the sampled ratio
does not reach.  Ratios that cannot be compared may pass both end tests; the
search then runs past the end of the keys only if there is no key but the head.
-/

inductive SampleError where
  /-- There is no key. -/
  | empty
  /-- No key lies beyond the ratio. -/
  | unbounded
  deriving DecidableEq

def SampleError.message : SampleError -> String
  | .empty => "Cannot sample an empty gradient"
  | .unbounded => "No key lies beyond the ratio"

variable {ρ Value α : Type} {n : Nat} [LE ρ] [DecidableLE ρ]

/-- The first of the keys that the ratio does not reach, with the key before
it. -/
def segment? (ratio : ρ) (before : GradientKey ρ Value) :
    List (GradientKey ρ Value) -> Option (GradientKey ρ Value × GradientKey ρ Value)
  | [] => none
  | key :: rest =>
    if key.ratio <= ratio then segment? ratio key rest else some (before, key)

variable [Sub ρ] [Div ρ] [Add α] [Sub α] [HMul α ρ α]

/-- The value between two keys, in proportion to the ratio. -/
def interpolate (ratio : ρ) (start stop : GradientKey ρ (Vector α n)) : Vector α n :=
  let share := (ratio - start.ratio) / (stop.ratio - start.ratio)
  Vector.zipWith (fun a b => a + (b - a) * share) start.value stop.value

def sample (gradient : Gradient ρ (Vector α n)) (ratio : ρ) : Except SampleError (Vector α n) :=
  match gradient.toList with
  | [] => .error .empty
  | first :: rest =>
    let last := rest.getLastD first
    if ratio <= first.ratio then .ok first.value
    else if last.ratio <= ratio then .ok last.value
    else
      match segment? ratio first rest with
      | some (start, stop) => .ok (interpolate ratio start stop)
      | none => .error .unbounded

end Gradient
end ParticleEffects
