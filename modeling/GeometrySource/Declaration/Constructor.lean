import GeometrySource.Declaration.Expression
import GeometrySource.Declaration.Field

/-!
# Constructors

A constructor either assigns every field from a parameter or passes arguments on to another constructor.
-/

namespace GeometrySource.Declaration

open Script

/-- The summary of every constructor. -/
def constructorSummary (ctx : Context) : Script :=
  summary ("Initializes a new instance of the " ++ see ctx.name ++ " struct.")

/-- The constructor that assigns every field from a parameter, after checking its preconditions. -/
def fieldConstructor (ctx : Context) (list : List Field) (requires : List String) : Script :=
  constructorSummary ctx ++
    (list.flatMap fun f => param f.parameter f.doc) ++
    [.line ("public " ++ ctx.name ++ parameterList (list.map fun f => ⟨f.type ctx, f.parameter⟩))] ++
    body
      ((requires.map fun condition => "Contract.Requires(" ++ condition ++ ");") ++
        list.map fun f => f.name ++ " = " ++ f.parameter ++ ";")

/-- A parameter with its description. -/
structure DescribedParameter extends Parameter where
  doc : String
  deriving DecidableEq, Repr

/-- A constructor that passes arguments on to another one. Its initializer stands one tab further in. -/
def chainedConstructor (ctx : Context) (parameters : List DescribedParameter) (args : List String) : Script :=
  constructorSummary ctx ++
    (parameters.flatMap fun p => param p.name p.doc) ++
    [.line ("public " ++ ctx.name ++ parameterList (parameters.map DescribedParameter.toParameter)),
      .line ("\t: this(" ++ commaList args ++ ")"),
      .line "\x7b",
      .line "\x7d"]

end GeometrySource.Declaration
