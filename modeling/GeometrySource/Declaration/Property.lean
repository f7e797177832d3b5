import GeometrySource.Context
import GeometrySource.Declaration.Doc
import GeometrySource.Declaration.Expression

/-!
# Constants and properties

Named values of a type, and values computed from its fields.
-/

namespace GeometrySource.Declaration

open Script

/-- A constant of the declared type, built from constructor arguments. -/
def constant (ctx : Context) (name doc : String) (args : List String) : Script :=
  summary doc ++
    [.line ("public static readonly " ++ ctx.name ++ " " ++ name ++ " = " ++ construct ctx.name args ++ ";")]

/-- A property that returns the value of an expression. -/
def property (type name doc expression : String) : Script :=
  summary doc ++ [.line ("public " ++ type ++ " " ++ name)] ++
    block (.line "get" :: body [returning expression])

end GeometrySource.Declaration
