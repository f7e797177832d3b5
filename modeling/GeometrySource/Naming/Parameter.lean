import GeometrySource.Text.Lowercase

/-!
# Parameter names

A parameter is named after the member that it fills, with the first character in lower case.
-/

namespace GeometrySource

/-- The parameter spelling of a member name: its first character in lower case, the rest as it stands. -/
def parameterName (name : String) : String :=
  match name.toList with
  | [] => ""
  | c :: rest => String.ofList (Text.lowercase c ++ rest)

end GeometrySource
