import GeometrySource.Layout.Script

/-!
# Doc comments

The tags of the doc comments in front of declarations.
-/

namespace GeometrySource.Declaration

/-- A reference to a type. -/
def see (name : String) : String :=
  "<see cref=\"" ++ name ++ "\"/>"

/-- The summary of a declaration, on three lines. -/
def summary (text : String) : Script :=
  [.line "/// <summary>", .line ("/// " ++ text), .line "/// </summary>"]

/-- The description of a parameter. -/
def param (name text : String) : Script :=
  [.line ("/// <param name=\"" ++ name ++ "\">" ++ text ++ "</param>")]

/-- The description of a result. -/
def returns (text : String) : Script :=
  [.line ("/// <returns>" ++ text ++ "</returns>")]

end GeometrySource.Declaration
