namespace ParticleEffects

/-!
Gradients: values that are keyed by a ratio of a particle's lifetime.  Ratios are
compared and values are only kept, so that a gradient may hold its values or refer
to them.

A new key goes behind the keys whose ratio does not exceed its own, at the place
that bisection finds.  As long as all ratios can be compared the keys stay in
order, and keys of equal ratio stay in the order in which they came, which is
what makes a hard step.  A ratio that is not a number can leave the keys out of
order, so order is no part of the type.
-/

/-- A value at a ratio. -/
structure GradientKey (ρ Value : Type) where
  ratio : ρ
  value : Value
  deriving DecidableEq

namespace GradientKey

variable {ρ Value Target : Type}

/-- The key with its value given in another way, if that way exists. -/
def mapM? (load : Value -> Option Target) (key : GradientKey ρ Value) :
    Option (GradientKey ρ Target) :=
  (load key.value).map fun value => { ratio := key.ratio, value := value }

end GradientKey

structure Gradient (ρ Value : Type) where
  keys : Array (GradientKey ρ Value)
  deriving DecidableEq

namespace Gradient

variable {ρ Value : Type}

def toList (gradient : Gradient ρ Value) : List (GradientKey ρ Value) := gradient.keys.toList

def size (gradient : Gradient ρ Value) : Nat := gradient.keys.size

def empty : Gradient ρ Value := { keys := #[] }

/-- The gradient of keys that are in place already. -/
def ofList (keys : List (GradientKey ρ Value)) : Gradient ρ Value := { keys := keys.toArray }

@[simp]
theorem toList_ofList (keys : List (GradientKey ρ Value)) : (ofList keys).toList = keys := rfl

/-- The gradient with its values given in another way, if all of them can be. -/
def mapM? {Target : Type} (load : Value -> Option Target) (gradient : Gradient ρ Value) :
    Option (Gradient ρ Target) :=
  (gradient.toList.mapM (GradientKey.mapM? load)).map ofList

variable [LE ρ] [DecidableLE ρ]

/-- The place between `low` and `high` that separates the keys up to a ratio from
those beyond it. -/
def bisect (keys : Array (GradientKey ρ Value)) (ratio : ρ) (low high : Nat)
    (bounded : high <= keys.size) : Nat :=
  if within : low < high then
    let middle := (low + high) / 2
    if keys[middle].ratio <= ratio then
      bisect keys ratio (middle + 1) high bounded
    else
      bisect keys ratio low middle (by omega)
  else
    low
termination_by high - low

theorem bisect_le (keys : Array (GradientKey ρ Value)) (ratio : ρ) (low high : Nat)
    (bounded : high <= keys.size) (ordered : low <= high) :
    bisect keys ratio low high bounded <= high := by
  fun_induction bisect <;> omega

/-- The place at which a key of this ratio is inserted. -/
def insertionPoint (gradient : Gradient ρ Value) (ratio : ρ) : Nat :=
  bisect gradient.keys ratio 0 gradient.keys.size (Nat.le_refl _)

theorem insertionPoint_le_size (gradient : Gradient ρ Value) (ratio : ρ) :
    gradient.insertionPoint ratio <= gradient.keys.size :=
  bisect_le _ _ _ _ _ (Nat.zero_le _)

def insert (gradient : Gradient ρ Value) (key : GradientKey ρ Value) : Gradient ρ Value where
  keys := gradient.keys.insertIdx (gradient.insertionPoint key.ratio) key
    (gradient.insertionPoint_le_size key.ratio)

def addKey (gradient : Gradient ρ Value) (ratio : ρ) (value : Value) : Gradient ρ Value :=
  gradient.insert { ratio := ratio, value := value }

/-- Insertion of keys one after the other. -/
def insertAll (gradient : Gradient ρ Value) (keys : List (GradientKey ρ Value)) : Gradient ρ Value :=
  keys.foldl insert gradient

def ofKeys (keys : List (GradientKey ρ Value)) : Gradient ρ Value := empty.insertAll keys

def constant [OfNat ρ 0] (value : Value) : Gradient ρ Value :=
  ofKeys [{ ratio := 0, value := value }]

def linear [OfNat ρ 0] [OfNat ρ 1] (start stop : Value) : Gradient ρ Value :=
  ofKeys [{ ratio := 0, value := start }, { ratio := 1, value := stop }]

/-- A copy is made by inserting the keys anew, in the order they are kept. -/
def copy (gradient : Gradient ρ Value) : Gradient ρ Value := ofKeys gradient.toList

theorem toList_insert (gradient : Gradient ρ Value) (key : GradientKey ρ Value) :
    (gradient.insert key).toList =
      gradient.toList.insertIdx (gradient.insertionPoint key.ratio) key := by
  simp [insert, toList]

@[simp]
theorem insertAll_nil (gradient : Gradient ρ Value) : gradient.insertAll [] = gradient := rfl

@[simp]
theorem insertAll_cons (gradient : Gradient ρ Value) (key : GradientKey ρ Value)
    (rest : List (GradientKey ρ Value)) :
    gradient.insertAll (key :: rest) = (gradient.insert key).insertAll rest := rfl

end Gradient

end ParticleEffects
