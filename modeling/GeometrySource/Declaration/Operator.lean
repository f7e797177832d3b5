import GeometrySource.Context
import GeometrySource.Declaration.Doc
import GeometrySource.Declaration.Expression

/-!
# Operators and functions

Static members with parameters: operators that return one expression, among them those that move a shape by a vector, and
functions with a list of statements.
-/

namespace GeometrySource.Declaration

open Script

/-- A static operator that returns the value of an expression. -/
def operator (doc result symbol : String) (parameters : List Parameter) (expression : String) : Script :=
  summary doc ++
    .line ("public static " ++ result ++ " operator " ++ symbol ++ parameterList parameters) ::
    body [returning expression]

/-- A static function with a list of statements. -/
def function (doc result name : String) (parameters : List Parameter) (statements : List String) : Script :=
  summary doc ++
    .line ("public static " ++ result ++ " " ++ name ++ parameterList parameters) ::
    body statements

/-- A direction in which a shape is moved along a vector. -/
inductive Displacement
  | forward
  | backward
  deriving DecidableEq, Repr

namespace Displacement

/-- The operator that moves a shape. -/
def symbol : Displacement → String
  | forward => "+"
  | backward => "-"

/-- What the operator does with the vector, in words. -/
def verb : Displacement → String
  | forward => "adding"
  | backward => "subtracting"

end Displacement

/-- One operator that moves the shape by a vector. `build` gives the moved shape from the operator's symbol. -/
def displacement (ctx : Context) (build : String → String) (t : Displacement) : Script :=
  operator ("Translates a " ++ see ctx.name ++ " by " ++ t.verb ++ " a vector.") ctx.name t.symbol
    [⟨ctx.name, ctx.parameter⟩, ⟨ctx.vector, "vector"⟩] (build t.symbol)

/-- The two operators that move the shape by a vector. -/
def displacements (ctx : Context) (build : String → String) : Script :=
  [Displacement.forward, Displacement.backward].flatMap (displacement ctx build)

end GeometrySource.Declaration
