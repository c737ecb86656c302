import ParticleEffects.Number.Datum

namespace ParticleEffects

/-!
The configuration of an effect.

What is asked for may leave out the capacity and the way overwriting is
reported; it is checked once, when the effect is made.  A later assignment to a
configuration is not checked, so validity is a statement about a configuration
and no part of its type.
-/

/-- Where the report goes that several modifiers write the position code. -/
inductive OverwriteReporting where
  | warning
  | callback
  deriving DecidableEq

structure EffectRequest where
  name : Option String := none
  capacity : Option Float := none
  reporting : Option OverwriteReporting := none

structure EffectConfig where
  name : String
  /-- The greatest number of particles alive at once. -/
  capacity : Float
  reporting : OverwriteReporting

/-- Whether a capacity is a positive whole number. -/
def countsParticles (capacity : Float) : Bool := (Number.natural? capacity).any (0 < ·)

structure EffectConfig.Valid (config : EffectConfig) : Prop where
  name_ne_empty : config.name ≠ ""
  capacity_counts : countsParticles config.capacity = true

inductive ConfigError where
  | nameMissing
  | capacityInvalid
  deriving DecidableEq

def ConfigError.message : ConfigError -> String
  | .nameMissing => "name is required"
  | .capacityInvalid => "capacity must be a positive integer"

namespace EffectRequest

def defaultCapacity : Float := 4096

def config (request : EffectRequest) : EffectConfig where
  name := request.name.getD ""
  capacity := request.capacity.getD defaultCapacity
  reporting := request.reporting.getD .warning

/-- The name is checked before the capacity. -/
def accept (request : EffectRequest) : Except ConfigError EffectConfig :=
  if request.config.name = "" then .error .nameMissing
  else if countsParticles request.config.capacity then .ok request.config
  else .error .capacityInvalid

end EffectRequest

end ParticleEffects
