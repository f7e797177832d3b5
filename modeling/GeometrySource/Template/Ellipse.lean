import GeometrySource.Template.Box

/-!
# Ellipses

An ellipse stores the coordinates of its center and its size. Besides the conversions from its own types it has one from
the circle of every number type, which doubles the radius along every axis.
-/

namespace GeometrySource.Template.Ellipse

open Declaration Script
open Emission (write lookUp)

/-- The stored fields. -/
def storedFields (ctx : Context) (axes : List Component) : List Field :=
  Box.storedFields ctx axes "ellipse" "center"

/-- The ellipse around the unit circle. -/
def constants (ctx : Context) (axes : List Component) : Script :=
  region "Constants" <|
    constant ctx "Unit" ("Returns a new " ++ see ctx.name ++ " bounding the unit circle.")
      (((Box.coordinates ctx).map fun _ => "0") ++ axes.map fun _ => "2")

/-- The center and the size. -/
def properties (ctx : Context) (axes : List Component) : Script :=
  region "Properties" <|
    property ctx.point "Center" "Gets the center of the ellipse." (construct ctx.point (Box.coordinates ctx)) ++
      Box.sizeProperty ctx axes "ellipse"

/-- The conversions from the circles of all number types. -/
def circleConversions (ctx : Context) (axes : List Component) : Script :=
  ctx.types.flatMap fun source =>
    conversion ctx source (ctx.shapeName .circle source)
      (((Box.coordinates ctx).map fun c => cast ctx.scalar ("value." ++ c)) ++
        axes.map fun _ => cast ctx.scalar "(value.Radius * 2)")

/-- The variable for the distance from the center along a component, relative to the extent. -/
def offsetName (c : Component) : String :=
  "d" ++ c.parameter

/-- The statement that computes the relative distance along a component and its axis. -/
def offsetStatement (ctx : Context) (c axis : Component) : String :=
  "var " ++ offsetName c ++ " = (" ++ cast ctx.real.keyword ("point." ++ c.name) ++ " - " ++
    cast ctx.real.keyword ("center." ++ c.name) ++ ") / (" ++ cast ctx.real.keyword ("ellipse." ++ axis.name) ++
    " / 2);"

/-- Whether a point is inside: whether the squared relative distances add up to at most one. -/
def contains (ctx : Context) (axes : List Component) : Script :=
  let pairs := (components ctx.dimension).zip axes
  region "Contains" <|
    function "Determines whether an ellipse contains a point." "bool" "Contains"
      [⟨ctx.name, "ellipse"⟩, ⟨ctx.point, "point"⟩]
      (["var center = ellipse.Center;"] ++
        (pairs.map fun (c, axis) => offsetStatement ctx c axis) ++
        [returning
          (" + ".intercalate (pairs.map fun (c, _) => offsetName c ++ " * " ++ offsetName c) ++ " <= 1")])

/-- The declaration of an ellipse, given the axes of its size. -/
def scriptOn (ctx : Context) (axes : List Component) : Script :=
  outline ctx "an ellipse"
    (constants ctx axes ++ fields ctx (storedFields ctx axes) ++ properties ctx axes ++
      Box.constructors ctx axes (storedFields ctx axes) "ellipse" "center" "The center of the ellipse." ++
      Box.operations ctx "ellipse" "Center" ++
      derivedMembers ctx (storedFields ctx axes) (circleConversions ctx axes))
    (derivedFunctions ctx (storedFields ctx axes) ++ contains ctx axes)

/-- The declaration of an ellipse, where the dimension has a size. -/
def script (ctx : Context) : Except Error Script :=
  (sizeAxes ctx.dimension).map (scriptOn ctx)

/-- Writes an ellipse, one part after another, once the axes of its size have been found. -/
def emission (ctx : Context) : Emission Unit := do
  let axes ← lookUp (sizeAxes ctx.dimension)
  let list := storedFields ctx axes
  write (openStruct ctx "an ellipse")
  write (constants ctx axes)
  write (fields ctx list)
  write (properties ctx axes)
  write (Box.constructors ctx axes list "ellipse" "center" "The center of the ellipse.")
  write (Box.operations ctx "ellipse" "Center")
  write (region "Conversions" (conversions ctx list ++ circleConversions ctx axes))
  write (equality ctx list)
  write (toStringRegion ctx list)
  write closeStruct
  write (openCompanion ctx)
  write (binary ctx list)
  write (equalsFunction ctx)
  write (contains ctx axes)
  write closeCompanion

/-- The axes are looked up first; then the parts of an ellipse together are its declaration. -/
theorem emission_eq (ctx : Context) : emission ctx = (lookUp (script ctx) >>= write) := by
  simp only [emission, Emission.write_bind_write, script, Emission.lookUp_map_bind, scriptOn, outline, derivedMembers,
    derivedFunctions, List.append_assoc]

end GeometrySource.Template.Ellipse
