import GeometrySource.Declaration.Outline
import GeometrySource.Naming.Component

/-!
# Line segments

A line segment stores its two end points.
-/

namespace GeometrySource.Template.Line

open Declaration Script
open Emission (write)

/-- The stored fields. -/
def storedFields : List Field :=
  [⟨.point, "Start", "The start point of the line."⟩, ⟨.point, "End", "The end point of the line."⟩]

/-- The vector between the end points, and its length. -/
def properties (ctx : Context) : Script :=
  region "Properties" <|
    property ctx.vector "Vector" "Gets the vector from the start point to the end point." "End - Start" ++
      property ctx.real.keyword "Length" "Gets the length of the line."
        (cast ctx.real.keyword "Point.Distance(Start, End)")

/-- The two ends, as the coordinate parameters begin. -/
def ends : List String :=
  ["start", "end"]

/-- The parameters for the coordinates of an end. -/
def coordinateParameters (ctx : Context) (endName : String) : List DescribedParameter :=
  (components ctx.dimension).map fun c =>
    ⟨⟨ctx.scalar, endName ++ c.name⟩, "The " ++ c.name ++ " coordinate of the " ++ endName ++ " point."⟩

/-- The constructors from points and from coordinates. -/
def constructors (ctx : Context) : Script :=
  region "Constructors" <|
    fieldConstructor ctx storedFields [] ++
      chainedConstructor ctx (ends.flatMap (coordinateParameters ctx))
        (ends.map fun endName =>
          construct ctx.point ((coordinateParameters ctx endName).map fun p => p.name))

/-- The displacements of both ends. -/
def operations (ctx : Context) : Script :=
  region "Operations" <|
    displacements ctx fun symbol =>
      construct ctx.name ["line.Start " ++ symbol ++ " vector", "line.End " ++ symbol ++ " vector"]

/-- Reversal, length and direction as functions. -/
def functions (ctx : Context) : Script :=
  region "Functions" <|
    function "Returns a line with its start and end points swapped." ctx.name "Reverse" [⟨ctx.name, "line"⟩]
        [returning (construct ctx.name ["line.End", "line.Start"])] ++
      function "Returns the length of a line." ctx.real.keyword "Length" [⟨ctx.name, "line"⟩]
        ["return line.Length;"] ++
      function "Returns the vector from the start of a line to its end." ctx.vector "Direction" [⟨ctx.name, "line"⟩]
        ["return line.Vector;"]

/-- The declaration of a line segment. -/
def script (ctx : Context) : Script :=
  outline ctx "a line segment"
    (fields ctx storedFields ++ properties ctx ++ constructors ctx ++ operations ctx ++
      derivedMembers ctx storedFields [])
    (derivedFunctions ctx storedFields ++ functions ctx)

/-- Writes a line segment, one part after another. -/
def emission (ctx : Context) : Emission Unit := do
  write (openStruct ctx "a line segment")
  write (fields ctx storedFields)
  write (properties ctx)
  write (constructors ctx)
  write (operations ctx)
  write (region "Conversions" (conversions ctx storedFields))
  write (equality ctx storedFields)
  write (toStringRegion ctx storedFields)
  write closeStruct
  write (openCompanion ctx)
  write (binary ctx storedFields)
  write (equalsFunction ctx)
  write (functions ctx)
  write closeCompanion

/-- Together the parts of a line segment are its declaration. -/
theorem emission_eq (ctx : Context) : emission ctx = write (script ctx) := by
  simp only [emission, Emission.write_bind_write, script, outline, derivedMembers, derivedFunctions, List.append_assoc,
    List.append_nil]

end GeometrySource.Template.Line
