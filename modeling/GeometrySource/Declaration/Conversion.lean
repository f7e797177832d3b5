import GeometrySource.Declaration.Expression
import GeometrySource.Declaration.Field
import GeometrySource.Declaration.Frame

/-!
# Conversions

The operators that convert a type of another number type, or of another shape, into the declared one.
-/

namespace GeometrySource.Declaration

open Script

/-- One conversion from the type `sourceName` with number type `source`, by constructor arguments made from its value. -/
def conversion (ctx : Context) (source : Numeric) (sourceName : String) (args : List String) : Script :=
  let keyword := (ctx.conversionKind source).keyword
  summary ("Defines an " ++ keyword ++ " conversion of a " ++ see sourceName ++ " to a " ++ see ctx.name ++ ".") ++
    param "value" ("The value to convert to a " ++ see ctx.name ++ ".") ++
    returns ("A " ++ see ctx.name ++ " that has the same value as <paramref name=\"value\"/>.") ++
    clsMarkerIf (ctx.needsClsMarker source) ++
    .line ("public static " ++ keyword ++ " operator " ++ ctx.name ++ "(" ++ sourceName ++ " value)") ::
    body [returning (construct ctx.name args)]

/-- The conversions from this shape's types for the other number types, by arguments that do not depend on the source. -/
def conversionsBy (ctx : Context) (args : List String) : Script :=
  ctx.others.flatMap fun source => conversion ctx source (ctx.nameFor source) args

/-- The conversions from this shape's types for the other number types, casting each field. -/
def conversions (ctx : Context) (list : List Field) : Script :=
  conversionsBy ctx (list.map fun f => cast (f.type ctx) ("value." ++ f.name))

end GeometrySource.Declaration
