import GeometrySource.Declaration.Outline

/-!
# Polygons

A polygon stores an array of vertices. Its number of vertices varies, so equality, string conversion and the binary
functions loop over them.
-/

namespace GeometrySource.Template.Polygon

open Declaration Script
open Emission (write)

/-- The stored array. -/
def storedFields (ctx : Context) : Script :=
  region "Fields" <|
    summary "The vertices of the polygon." ++ [.line ("public readonly " ++ ctx.point ++ "[] Points;")]

/-- The number of vertices, and the vertex at an index. -/
def properties (ctx : Context) : Script :=
  region "Properties" <|
    property "int" "Count" "Gets the number of vertices in the polygon." "Points.Length" ++
      property ctx.point "this[int index]" "Gets the vertex at the given index." "Points[index]"

/-- The constructor, which copies the vertices. -/
def constructors (ctx : Context) : Script :=
  region "Constructors" <|
    constructorSummary ctx ++
      param "points" "The vertices of the polygon." ++
      .line ("public " ++ ctx.name ++ "(params " ++ ctx.point ++ "[] points)") ::
      body
        ["Contract.Requires(points != null);",
          "Points = " ++ cast (ctx.point ++ "[]") "points.Clone();"]

/-- The displacements of every vertex. -/
def operations (ctx : Context) : Script :=
  region "Operations" <|
    displacements ctx fun symbol =>
      construct ctx.name ["Array.ConvertAll(polygon.Points, point => point " ++ symbol ++ " vector)"]

/-- The conversions, which cast every vertex. -/
def conversions (ctx : Context) : Script :=
  region "Conversions" <|
    conversionsBy ctx ["Array.ConvertAll(value.Points, point => " ++ cast ctx.point "point" ++ ")"]

/-- The sum of the vertices' hashes; a polygon without an array has hash zero. -/
def hashStatements : List String :=
  braced "if (Points == null)" ["return 0;"] ++
    ["int hash = 0;"] ++
    braced "foreach (var point in Points)" ["hash += point.GetHashCode();"] ++
    ["return hash;"]

/-- The comparison of two polygons, vertex by vertex. -/
def equalStatements : List String :=
  braced "if (left.Points == right.Points)" ["return true;"] ++
    braced "if (left.Points == null | right.Points == null)" ["return false;"] ++
    braced "if (left.Points.Length != right.Points.Length)" ["return false;"] ++
    braced "for (int i = 0; i < left.Points.Length; ++i)"
      (braced "if (left.Points[i] != right.Points[i])" ["return false;"]) ++
    ["return true;"]

/-- The members of equality. -/
def equality (ctx : Context) : Script :=
  region "Equatable" (equalityMembers ctx hashStatements equalStatements ["return !(left == right);"])

/-- The members of string conversion. -/
def formatting (ctx : Context) : Script :=
  region "ToString" <|
    toStringMembers ctx
      ("String.Format(\"(\x7b0\x7d)\", String.Join(\", \", " ++
        "Array.ConvertAll(Points, point => point.ToString(format, provider))))")

/-- The binary functions: the number of vertices, then the vertices. -/
def binary (ctx : Context) : Script :=
  region "Binary" <|
    binaryMembers ctx
      ("writer.Write(polygon.Count);" :: braced "foreach (var point in polygon.Points)" ["writer.Write(point);"])
      (["var count = reader.ReadInt32();", "var points = new " ++ ctx.point ++ "[count];"] ++
        braced "for (int i = 0; i < count; ++i)" ["points[i] = reader.Read" ++ ctx.point ++ "();"] ++
        [returning (construct ctx.name ["points"])])

/-- The length of the closed boundary. -/
def perimeter (ctx : Context) : Script :=
  function "Returns the length of a polygon's closed boundary." ctx.real.keyword "Perimeter" [⟨ctx.name, "polygon"⟩]
    ([ctx.real.keyword ++ " perimeter = 0;"] ++
      braced "for (int i = 0; i < polygon.Count; ++i)"
        ["perimeter += " ++
          cast ctx.real.keyword "Point.Distance(polygon[i], polygon[(i + 1) % polygon.Count]);"] ++
      ["return perimeter;"])

/-- Whether a point of the plane is inside, by the even-odd rule. -/
def contains (ctx : Context) : Script :=
  function "Determines whether a polygon contains a point, using the even-odd rule." "bool" "Contains"
    [⟨ctx.name, "polygon"⟩, ⟨ctx.point, "point"⟩]
    (["var inside = false;"] ++
      braced "for (int i = 0, j = polygon.Count - 1; i < polygon.Count; j = i++)"
        (["var a = polygon[i];", "var b = polygon[j];"] ++
          braced
            ("if ((a.Y > point.Y) != (b.Y > point.Y) && point.X < " ++
              cast ctx.real.keyword "(b.X - a.X) * (point.Y - a.Y) / (b.Y - a.Y) + a.X)")
            ["inside = !inside;"]) ++
      ["return inside;"])

/-- The perimeter and, in the plane, the test for a point. -/
def functions (ctx : Context) : Script :=
  region "Functions" <|
    perimeter ctx ++ if ctx.dimension = 2 then contains ctx else []

/-- The declaration of a polygon. -/
def script (ctx : Context) : Script :=
  outline ctx "a polygon"
    (storedFields ctx ++ properties ctx ++ constructors ctx ++ operations ctx ++ conversions ctx ++ equality ctx ++
      formatting ctx)
    (binary ctx ++ equalsFunction ctx ++ functions ctx)

/-- Writes a polygon, one part after another. -/
def emission (ctx : Context) : Emission Unit := do
  write (openStruct ctx "a polygon")
  write (storedFields ctx)
  write (properties ctx)
  write (constructors ctx)
  write (operations ctx)
  write (conversions ctx)
  write (equality ctx)
  write (formatting ctx)
  write closeStruct
  write (openCompanion ctx)
  write (binary ctx)
  write (equalsFunction ctx)
  write (functions ctx)
  write closeCompanion

/-- Together the parts of a polygon are its declaration. -/
theorem emission_eq (ctx : Context) : emission ctx = write (script ctx) := by
  simp only [emission, Emission.write_bind_write, script, outline, List.append_assoc]

end GeometrySource.Template.Polygon
