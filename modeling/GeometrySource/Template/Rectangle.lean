import GeometrySource.Template.Box

/-!
# Rectangles

A rectangle stores the coordinates of its bottom left corner and its size.
-/

namespace GeometrySource.Template.Rectangle

open Declaration Script
open Emission (write lookUp)

/-- The stored fields. -/
def storedFields (ctx : Context) (axes : List Component) : List Field :=
  Box.storedFields ctx axes "rectangle" "location"

/-- The rectangle whose fields are all zero. -/
def constants (ctx : Context) (axes : List Component) : Script :=
  region "Constants" <|
    constant ctx "Empty" ("Returns a new " ++ see ctx.name ++ " with all of its components set to zero.")
      ((storedFields ctx axes).map fun _ => "0")

/-- The corner, the size and the four edges. -/
def properties (ctx : Context) (axes : List Component) : Script :=
  region "Properties" <|
    property ctx.point "Location" "Gets the location of the rectangle's bottom left corner."
        (construct ctx.point (Box.coordinates ctx)) ++
      Box.sizeProperty ctx axes "rectangle" ++
      property ctx.scalar "Left" "Gets the x-coordinate of the left edge." "X" ++
      property ctx.scalar "Right" "Gets the x-coordinate of the right edge." "X + Width" ++
      property ctx.scalar "Bottom" "Gets the y-coordinate of the bottom edge." "Y" ++
      property ctx.scalar "Top" "Gets the y-coordinate of the top edge." "Y + Height"

/-- Whether a point is inside or on an edge. -/
def contains (ctx : Context) : Script :=
  region "Contains" <|
    function "Determines whether a rectangle contains a point, edges included." "bool" "Contains"
      [⟨ctx.name, "rectangle"⟩, ⟨ctx.point, "point"⟩]
      [returning
        ("rectangle.Left <= point.X && point.X <= rectangle.Right && rectangle.Bottom <= point.Y && " ++
          "point.Y <= rectangle.Top")]

/-- Whether two rectangles have a point in common. -/
def intersects (ctx : Context) : Script :=
  region "Intersects" <|
    function "Determines whether two rectangles overlap, edges included." "bool" "Intersects"
      [⟨ctx.name, "left"⟩, ⟨ctx.name, "right"⟩]
      [returning
        ("left.Left <= right.Right && right.Left <= left.Right && left.Bottom <= right.Top && " ++
          "right.Bottom <= left.Top")]

/-- The declaration of a rectangle, given the axes of its size. -/
def scriptOn (ctx : Context) (axes : List Component) : Script :=
  outline ctx "a rectangle"
    (constants ctx axes ++ fields ctx (storedFields ctx axes) ++ properties ctx axes ++
      Box.constructors ctx axes (storedFields ctx axes) "rectangle" "location"
        "The location of the rectangle's bottom left corner." ++
      Box.operations ctx "rectangle" "Location" ++
      derivedMembers ctx (storedFields ctx axes) [])
    (derivedFunctions ctx (storedFields ctx axes) ++ contains ctx ++ intersects ctx)

/-- The declaration of a rectangle, where the dimension has a size. -/
def script (ctx : Context) : Except Error Script :=
  (sizeAxes ctx.dimension).map (scriptOn ctx)

/-- Writes a rectangle, one part after another, once the axes of its size have been found. -/
def emission (ctx : Context) : Emission Unit := do
  let axes ← lookUp (sizeAxes ctx.dimension)
  let list := storedFields ctx axes
  write (openStruct ctx "a rectangle")
  write (constants ctx axes)
  write (fields ctx list)
  write (properties ctx axes)
  write (Box.constructors ctx axes list "rectangle" "location" "The location of the rectangle's bottom left corner.")
  write (Box.operations ctx "rectangle" "Location")
  write (region "Conversions" (conversions ctx list))
  write (equality ctx list)
  write (toStringRegion ctx list)
  write closeStruct
  write (openCompanion ctx)
  write (binary ctx list)
  write (equalsFunction ctx)
  write (contains ctx)
  write (intersects ctx)
  write closeCompanion

/-- The axes are looked up first; then the parts of a rectangle together are its declaration. -/
theorem emission_eq (ctx : Context) : emission ctx = (lookUp (script ctx) >>= write) := by
  simp only [emission, Emission.write_bind_write, script, Emission.lookUp_map_bind, scriptOn, outline, derivedMembers,
    derivedFunctions, List.append_assoc, List.append_nil]

end GeometrySource.Template.Rectangle
