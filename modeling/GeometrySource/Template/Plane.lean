import GeometrySource.Declaration.Outline
import GeometrySource.Naming.Component

/-!
# Planes

A plane stores its normal vector and its distance from the origin along the normal, the coefficients of its equation.
-/

namespace GeometrySource.Template.Plane

open Declaration Script
open Emission (write)

/-- The description of the distance. -/
def distanceDoc : String :=
  "The distance of the plane along its normal from the origin."

/-- The stored fields. -/
def storedFields : List Field :=
  [⟨.vector, "Normal", "The normal vector of the plane."⟩, ⟨.scalar, "D", distanceDoc⟩]

/-- The names of the normal's coefficients. -/
def coefficientNames : List String :=
  ["A", "B", "C"]

/-- The coefficients with the components of the normal that they name. -/
def coefficients (ctx : Context) : List (String × Component) :=
  coefficientNames.zip (components ctx.dimension)

/-- The planes through two axes, by name and axis of the normal. -/
def namedPlanes : List (String × Nat) :=
  [("XY", 2), ("XZ", 1), ("YZ", 0)]

/-- The planes through two axes. -/
def constants (ctx : Context) : Script :=
  region "Constants" <|
    namedPlanes.flatMap fun (plane, axis) =>
      constant ctx plane ("Returns the " ++ plane ++ " plane through the origin.")
        [construct ctx.vector (((unitVector? ctx.dimension axis).getD []).map Nat.repr), "0"]

/-- The coefficients of the normal. -/
def properties (ctx : Context) : Script :=
  region "Properties" <|
    (coefficients ctx).flatMap fun (coefficient, c) =>
      property ctx.scalar coefficient ("Gets the " ++ c.name ++ " component of the plane's normal.") ("Normal." ++ c.name)

/-- The parameters for the coefficients of the normal. -/
def coefficientParameters (ctx : Context) : List DescribedParameter :=
  (coefficients ctx).map fun (coefficient, c) =>
    ⟨⟨ctx.scalar, parameterName coefficient⟩, "The " ++ c.name ++ " component of the normal."⟩

/-- The constructor from coefficients. -/
def coefficientConstructor (ctx : Context) : Script :=
  chainedConstructor ctx (coefficientParameters ctx ++ [⟨⟨ctx.scalar, "d"⟩, distanceDoc⟩])
    [construct ctx.vector (coefficientNames.map parameterName), "d"]

/-- The constructor from a point and the normal. -/
def pointConstructor (ctx : Context) : Script :=
  chainedConstructor ctx
    [⟨⟨ctx.point, "point"⟩, "A point on the plane."⟩, ⟨⟨ctx.vector, "normal"⟩, "The normal vector of the plane."⟩]
    ["normal",
      "-Vector.Dot(normal, " ++ construct ctx.vector ((components ctx.dimension).map fun c => "point." ++ c.name) ++
        ")"]

/-- The constructors from fields, from coefficients and from a point. -/
def constructors (ctx : Context) : Script :=
  region "Constructors" <|
    fieldConstructor ctx storedFields [] ++ coefficientConstructor ctx ++ pointConstructor ctx

/-- The negation, which turns the plane around. -/
def operations (ctx : Context) : Script :=
  region "Operations" <|
    operator "Returns the plane facing the opposite direction." ctx.name "-" [⟨ctx.name, "plane"⟩]
      (construct ctx.name ["-plane.Normal", "-plane.D"])

/-- The sum of the coefficients, each times a component of the operand. -/
def weighted (ctx : Context) (operand : String) : String :=
  " + ".intercalate <|
    (coefficients ctx).map fun (coefficient, c) => "plane." ++ coefficient ++ " * " ++ operand ++ "." ++ c.name

/-- Normalization, the dot products and the distance to a point. -/
def functions (ctx : Context) : Script :=
  region "Functions" <|
    function "Scales a plane so its normal has unit length." ctx.name "Normalize" [⟨ctx.name, "plane"⟩]
        ["var magnitude = Vector.Absolute(plane.Normal);",
          returning (construct ctx.name ["plane.Normal / magnitude", "plane.D / magnitude"])] ++
      function
        ("Returns the dot product of a plane and a point, the point's distance from the plane scaled by the " ++
          "normal's length.")
        ctx.scalar "Dot" [⟨ctx.name, "plane"⟩, ⟨ctx.point, "point"⟩]
        [returning (weighted ctx "point" ++ " + plane.D")] ++
      function "Returns the dot product of a plane's normal and a vector." ctx.scalar "DotNormal"
        [⟨ctx.name, "plane"⟩, ⟨ctx.vector, "vector"⟩]
        [returning (weighted ctx "vector")] ++
      function "Returns the distance between a plane and a point." ctx.positive.keyword "Distance"
        [⟨ctx.name, "plane"⟩, ⟨ctx.point, "point"⟩]
        [returning
          (cast ctx.positive.keyword "(Math.Abs(Dot(plane, point)) / Vector.Absolute(plane.Normal))")]

/-- The declaration of a plane. -/
def script (ctx : Context) : Script :=
  outline ctx "a plane"
    (constants ctx ++ fields ctx storedFields ++ properties ctx ++ constructors ctx ++ operations ctx ++
      derivedMembers ctx storedFields [])
    (derivedFunctions ctx storedFields ++ functions ctx)

/-- Writes a plane, one part after another. -/
def emission (ctx : Context) : Emission Unit := do
  write (openStruct ctx "a plane")
  write (constants ctx)
  write (fields ctx storedFields)
  write (properties ctx)
  write (constructors ctx)
  write (operations ctx)
  write (region "Conversions" (conversions ctx storedFields))
  write (equality ctx storedFields)
  write (toStringRegion ctx storedFields)
  write closeStruct
  write (openCompanion ctx)
  write (binary ctx storedFields)
  write (equalsFunction ctx)
  write (functions ctx)
  write closeCompanion

/-- Together the parts of a plane are its declaration. -/
theorem emission_eq (ctx : Context) : emission ctx = write (script ctx) := by
  simp only [emission, Emission.write_bind_write, script, outline, derivedMembers, derivedFunctions, List.append_assoc,
    List.append_nil]

end GeometrySource.Template.Plane
