import ParticleEffects.Wgsl.Expr

namespace ParticleEffects
namespace Wgsl

/-!
Statements, and the text of a block of statements.

Each statement is one line.  A block indents its lines by four blanks, leaves
empty lines empty, and ends with a line break.
-/

inductive Statement where
  | comment (text : String)
  | constant (name : String) (value : Expr)
  | mutable (name : String) (value : Expr)
  | assign (target value : Expr)

def Statement.line : Statement -> String
  | .comment text => "// " ++ text
  | .constant name value => "let " ++ name ++ " = " ++ value.text ++ ";"
  | .mutable name value => "var " ++ name ++ " = " ++ value.text ++ ";"
  | .assign target value => target.text ++ " = " ++ value.text ++ ";"

def indent (line : String) : String :=
  if line.isEmpty then line else "    " ++ line

/-- The lines of a block, each indented, with a line break at the end. -/
def blockText (lines : List String) : String :=
  "\n".intercalate (lines.map indent) ++ "\n"

abbrev Block := List Statement

namespace Block

def lines (block : Block) : List String := block.map Statement.line

def text (block : Block) : String := blockText block.lines

end Block

end Wgsl
end ParticleEffects
