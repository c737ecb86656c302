import ParticleEffects.Spatial.Vec
import ParticleEffects.Wgsl.Literal

namespace ParticleEffects
namespace Wgsl

/-!
Shader expressions and their source text.

Parentheses are part of an expression: `group` writes them, and nothing else
does.  An expression is therefore written in exactly one way, and what a block
computes with can be read off its tree.
-/

open Number Spatial

inductive Operator where
  | add
  | sub
  | mul
  | rem
  | greater
  deriving DecidableEq

def Operator.symbol : Operator -> String
  | .add => "+"
  | .sub => "-"
  | .mul => "*"
  | .rem => "%"
  | .greater => ">"

inductive Expr where
  /-- A single-precision number. -/
  | literal (x : Single)
  /-- A whole number written as a float, such as `2.`. -/
  | whole (n : Int)
  /-- A quotient of whole numbers written without blanks, such as `1./3.`. -/
  | fraction (numerator denominator : Nat)
  | unsigned (n : Nat)
  /-- A number that selects an element. -/
  | ordinal (n : Nat)
  | name (identifier : String)
  | member (base : Expr) (field : String)
  | element (base index : Expr)
  | binary (operator : Operator) (left right : Expr)
  | group (inner : Expr)
  | call (function : String) (arguments : List Expr)

namespace Expr

mutual

def text : Expr -> String
  | .literal x => String.ofList (Wgsl.literal x)
  | .whole n => toString n ++ "."
  | .fraction numerator denominator =>
    toString numerator ++ "./" ++ toString denominator ++ "."
  | .unsigned n => toString n ++ "u"
  | .ordinal n => toString n
  | .name identifier => identifier
  | .member base field => base.text ++ "." ++ field
  | .element base index => base.text ++ "[" ++ index.text ++ "]"
  | .binary operator left right =>
    left.text ++ " " ++ operator.symbol ++ " " ++ right.text
  | .group inner => "(" ++ inner.text ++ ")"
  | .call function arguments => function ++ "(" ++ argumentsText arguments ++ ")"

/-- Arguments are separated by a comma and a blank. -/
def argumentsText : List Expr -> String
  | [] => ""
  | [argument] => argument.text
  | argument :: rest => argument.text ++ ", " ++ argumentsText rest

end

instance : Add Expr where
  add left right := .binary .add left right

instance : Sub Expr where
  sub left right := .binary .sub left right

instance : Mul Expr where
  mul left right := .binary .mul left right

instance : Mod Expr where
  mod left right := .binary .rem left right

/-- The literal of a double, rounded to single precision. -/
def ofFloat (x : Float) : Expr := .literal (Single.ofFloat x)

def vec3 (x y z : Expr) : Expr := .call "vec3<f32>" [x, y, z]

def ofVec3 (v : Vec3 Single) : Expr :=
  vec3 (.literal v.x) (.literal v.y) (.literal v.z)

def ofQuat (q : Quat Single) : Expr :=
  .call "vec4<f32>" [.literal q.x, .literal q.y, .literal q.z, .literal q.w]

/-- A vector of two, three or four components. -/
def ofComponents? : List Float -> Option Expr
  | [x, y] => some (.call "vec2<f32>" [ofFloat x, ofFloat y])
  | [x, y, z] => some (vec3 (ofFloat x) (ofFloat y) (ofFloat z))
  | [x, y, z, w] => some (.call "vec4<f32>" [ofFloat x, ofFloat y, ofFloat z, ofFloat w])
  | _ => none

end Expr

end Wgsl
end ParticleEffects
