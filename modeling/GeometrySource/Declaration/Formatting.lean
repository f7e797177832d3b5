import GeometrySource.Declaration.Expression
import GeometrySource.Declaration.Field

/-!
# String conversion

The four `ToString` methods of a struct. Over fields, the text is a list of the formatted fields between parentheses.
-/

namespace GeometrySource.Declaration

open Script

/-- The summary of a `ToString` method, by how the text is made. -/
def formattingSummary (ctx : Context) (manner : String) : Script :=
  summary ("Converts the value of the current " ++ see ctx.name ++
    " to its equivalent string representation in Cartesian form" ++ manner ++ ".")

/-- The description of a format parameter. -/
def formatParam : Script :=
  param "format" "A standard or custom numeric format string."

/-- The description of a format provider parameter. -/
def providerParam : Script :=
  param "provider" "An object that supplies culture-specific formatting information."

/-- The description of the text, by what it depends on. -/
def formattingReturns (dependence : String) : Script :=
  returns ("The string representation of the current instance in Cartesian form" ++ dependence ++ ".")

/-- The four methods, the last of which returns the expression `formatted`. -/
def toStringMembers (ctx : Context) (formatted : String) : Script :=
  formattingSummary ctx "" ++
    formattingReturns "" ++
    .line "public override string ToString()" ::
    body ["return ToString(\"G\", CultureInfo.CurrentCulture);"] ++
    formattingSummary ctx " by using the specified culture-specific formatting information" ++
    providerParam ++
    formattingReturns ", as specified by provider" ++
    .line "public string ToString(IFormatProvider provider)" ::
    body ["return ToString(\"G\", provider);"] ++
    formattingSummary ctx " by using the specified format for its components" ++
    formatParam ++
    formattingReturns "" ++
    .line "public string ToString(string format)" ::
    body ["return ToString(format, CultureInfo.CurrentCulture);"] ++
    formattingSummary ctx
      " by using the specified format and culture-specific format information for its components" ++
    formatParam ++
    providerParam ++
    formattingReturns ", as specified by format and provider" ++
    .line "public string ToString(string format, IFormatProvider provider)" ::
    body [returning formatted]

/-- The place of a value in a format string. -/
def placeholder (index : Nat) : String :=
  "\x7b" ++ index.repr ++ "\x7d"

/-- The expression that formats the fields in a list between parentheses. -/
def formattedFields (list : List Field) : String :=
  "String.Format(\"(" ++ commaList ((List.range list.length).map placeholder) ++ ")\", " ++
    commaList (list.map fun f => f.name ++ ".ToString(format, provider)") ++ ")"

/-- The region of string conversion over fields. -/
def toStringRegion (ctx : Context) (list : List Field) : Script :=
  region "ToString" (toStringMembers ctx (formattedFields list))

end GeometrySource.Declaration
