import GeometrySource.Declaration.Outline
import GeometrySource.Naming.Component

/-!
# Circles and spheres

A round shape stores the coordinates of its center and its radius. Circles and spheres differ in their measures only.
-/

namespace GeometrySource.Template.Round

open Declaration Script
open Emission (write)

/-- A measure that is computed from the radius. -/
structure Measure where
  name : String
  doc : String
  formula : String

/-- What a round shape is called in the description of its struct, and its measures. -/
structure Figure where
  description : String
  measures : List Measure

/-- The circle. -/
def circle : Figure :=
  ⟨"a circle",
    [⟨"Circumference", "Gets the circumference of the circle.", "2 * Math.PI * Radius"⟩,
      ⟨"Area", "Gets the area of the circle.", "Math.PI * Radius * Radius"⟩]⟩

/-- The sphere. -/
def sphere : Figure :=
  ⟨"a sphere",
    [⟨"SurfaceArea", "Gets the surface area of the sphere.", "4 * Math.PI * Radius * Radius"⟩,
      ⟨"Volume", "Gets the volume of the sphere.", "4.0 / 3.0 * Math.PI * Radius * Radius * Radius"⟩]⟩

/-- The description of the radius. -/
def radiusDoc (ctx : Context) : String :=
  "The radius of the " ++ ctx.parameter ++ "."

/-- The names of the center's coordinates. -/
def coordinates (ctx : Context) : List String :=
  (components ctx.dimension).map Component.name

/-- The stored fields. -/
def storedFields (ctx : Context) : List Field :=
  ((coordinates ctx).map fun c => ⟨.scalar, c, "The " ++ c ++ " coordinate of the " ++ ctx.parameter ++ "'s center."⟩) ++
    [⟨.scalar, "Radius", radiusDoc ctx⟩]

/-- The shape of radius one around the origin. -/
def constants (ctx : Context) : Script :=
  region "Constants" <|
    constant ctx "Unit" ("Returns a new " ++ see ctx.name ++ " with a radius of 1 centered at the origin.")
      (((coordinates ctx).map fun _ => "0") ++ ["1"])

/-- The center and the measures. -/
def properties (ctx : Context) (measures : List Measure) : Script :=
  region "Properties" <|
    property ctx.point "Center" ("Gets the center of the " ++ ctx.parameter ++ ".")
        (construct ctx.point (coordinates ctx)) ++
      measures.flatMap fun m =>
        property ctx.real.keyword m.name m.doc (cast ctx.real.keyword ("(" ++ m.formula ++ ")"))

/-- The constructors from coordinates and from a center. -/
def constructors (ctx : Context) : Script :=
  region "Constructors" <|
    fieldConstructor ctx (storedFields ctx) ["0 <= radius"] ++
      chainedConstructor ctx
        [⟨⟨ctx.point, "center"⟩, "The center of the " ++ ctx.parameter ++ "."⟩,
          ⟨⟨ctx.scalar, "radius"⟩, radiusDoc ctx⟩]
        (((coordinates ctx).map fun c => "center." ++ c) ++ ["radius"])

/-- The displacements of the center. -/
def operations (ctx : Context) : Script :=
  region "Operations" <|
    displacements ctx fun symbol =>
      construct ctx.name [ctx.parameter ++ ".Center " ++ symbol ++ " vector", ctx.parameter ++ ".Radius"]

/-- Whether a point is inside. -/
def contains (ctx : Context) : Script :=
  region "Contains" <|
    function ("Determines whether a " ++ ctx.parameter ++ " contains a point.") "bool" "Contains"
      [⟨ctx.name, ctx.parameter⟩, ⟨ctx.point, "point"⟩]
      [returning ("Point.DistanceSquared(" ++ ctx.parameter ++ ".Center, point) <= " ++ ctx.parameter ++ ".Radius * " ++
        ctx.parameter ++ ".Radius")]

/-- Whether two shapes have a point in common. -/
def intersects (ctx : Context) : Script :=
  region "Intersects" <|
    function ("Determines whether two " ++ ctx.parameter ++ "s intersect.") "bool" "Intersects"
      [⟨ctx.name, "left"⟩, ⟨ctx.name, "right"⟩]
      ["var radii = left.Radius + right.Radius;",
        "return Point.DistanceSquared(left.Center, right.Center) <= radii * radii;"]

/-- The declaration of a round shape. -/
def script (figure : Figure) (ctx : Context) : Script :=
  outline ctx figure.description
    (constants ctx ++ fields ctx (storedFields ctx) ++ properties ctx figure.measures ++ constructors ctx ++
      operations ctx ++ derivedMembers ctx (storedFields ctx) [])
    (derivedFunctions ctx (storedFields ctx) ++ contains ctx ++ intersects ctx)

/-- Writes a round shape, one part after another. -/
def emission (figure : Figure) (ctx : Context) : Emission Unit := do
  let list := storedFields ctx
  write (openStruct ctx figure.description)
  write (constants ctx)
  write (fields ctx list)
  write (properties ctx figure.measures)
  write (constructors ctx)
  write (operations ctx)
  write (region "Conversions" (conversions ctx list))
  write (equality ctx list)
  write (toStringRegion ctx list)
  write closeStruct
  write (openCompanion ctx)
  write (binary ctx list)
  write (equalsFunction ctx)
  write (contains ctx)
  write (intersects ctx)
  write closeCompanion

/-- Together the parts of a round shape are its declaration. -/
theorem emission_eq (figure : Figure) (ctx : Context) : emission figure ctx = write (script figure ctx) := by
  simp only [emission, Emission.write_bind_write, script, outline, derivedMembers, derivedFunctions, List.append_assoc,
    List.append_nil]

end GeometrySource.Template.Round
