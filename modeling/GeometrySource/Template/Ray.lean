import GeometrySource.Declaration.Outline

/-!
# Rays

A ray stores its origin and its direction. Its functions refer to the plane and the sphere of its number type.
-/

namespace GeometrySource.Template.Ray

open Declaration Script
open Emission (write)

/-- The stored fields. -/
def storedFields : List Field :=
  [⟨.point, "Position", "The origin of the ray."⟩,
    ⟨.vector, "Direction", "The direction of the ray, expected to be normalized."⟩]

/-- The constructors from origin and direction, and from two points. -/
def constructors (ctx : Context) : Script :=
  region "Constructors" <|
    fieldConstructor ctx storedFields [] ++
      chainedConstructor ctx
        [⟨⟨ctx.point, "position"⟩, "The origin of the ray."⟩,
          ⟨⟨ctx.point, "target"⟩, "A point the ray passes through."⟩]
        ["position", "Vector.Normalize(target - position)"]

/-- The displacements of the origin. -/
def operations (ctx : Context) : Script :=
  region "Operations" <|
    displacements ctx fun symbol =>
      construct ctx.name ["ray.Position " ++ symbol ++ " vector", "ray.Direction"]

/-- The result of a search for a point of intersection: a distance, or null. -/
def distanceOrNull (ctx : Context) : String :=
  ctx.scalar ++ "?"

/-- The point at a distance along the ray. -/
def pointAt (ctx : Context) : Script :=
  function "Returns the point at a distance along a ray." ctx.point "GetPoint"
    [⟨ctx.name, "ray"⟩, ⟨ctx.scalar, "distance"⟩] ["return ray.Position + ray.Direction * distance;"]

/-- The intersection with a plane. -/
def meetPlane (ctx : Context) : Script :=
  function "Returns the distance along a ray to where it meets a plane, or null if it never does."
    (distanceOrNull ctx) "Intersects" [⟨ctx.name, "ray"⟩, ⟨ctx.shapeName .plane ctx.numeric, "plane"⟩]
    (["var denominator = Plane.DotNormal(plane, ray.Direction);"] ++
      braced "if (denominator == 0)" ["return null;"] ++
      ["var distance = -Plane.Dot(plane, ray.Position) / denominator;"] ++
      braced "if (distance < 0)" ["return null;"] ++
      ["return distance;"])

/-- The first intersection with a sphere. -/
def meetSphere (ctx : Context) : Script :=
  function "Returns the distance along a ray to where it first meets a sphere, or null if it never does."
    (distanceOrNull ctx) "Intersects" [⟨ctx.name, "ray"⟩, ⟨ctx.shapeName .sphere ctx.numeric, "sphere"⟩]
    (["var offset = ray.Position - sphere.Center;",
        "var b = Vector.Dot(offset, ray.Direction);",
        "var c = Vector.Dot(offset, offset) - sphere.Radius * sphere.Radius;"] ++
      braced "if (c > 0 && b > 0)" ["return null;"] ++
      ["var discriminant = b * b - c;"] ++
      braced "if (discriminant < 0)" ["return null;"] ++
      ["var distance = -b - " ++ cast ctx.scalar "Math.Sqrt(discriminant);", "return Math.Max(distance, 0);"])

/-- The points of the ray and its intersections. -/
def functions (ctx : Context) : Script :=
  region "Functions" (pointAt ctx ++ meetPlane ctx ++ meetSphere ctx)

/-- The declaration of a ray. -/
def script (ctx : Context) : Script :=
  outline ctx "a ray"
    (fields ctx storedFields ++ constructors ctx ++ operations ctx ++ derivedMembers ctx storedFields [])
    (derivedFunctions ctx storedFields ++ functions ctx)

/-- Writes a ray, one part after another. -/
def emission (ctx : Context) : Emission Unit := do
  write (openStruct ctx "a ray")
  write (fields ctx storedFields)
  write (constructors ctx)
  write (operations ctx)
  write (region "Conversions" (conversions ctx storedFields))
  write (equality ctx storedFields)
  write (toStringRegion ctx storedFields)
  write closeStruct
  write (openCompanion ctx)
  write (binary ctx storedFields)
  write (equalsFunction ctx)
  write (functions ctx)
  write closeCompanion

/-- Together the parts of a ray are its declaration. -/
theorem emission_eq (ctx : Context) : emission ctx = write (script ctx) := by
  simp only [emission, Emission.write_bind_write, script, outline, derivedMembers, derivedFunctions, List.append_assoc,
    List.append_nil]

end GeometrySource.Template.Ray
