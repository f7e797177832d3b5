import GeometrySource.Declaration.Outline
import GeometrySource.Naming.Component

/-!
# Shapes with a size

Ellipses and rectangles store the coordinates of a point and the extents of a size along the axes. What the two have in
common is here; the axes are given, since not every dimension has them.
-/

namespace GeometrySource.Template.Box

open Declaration Script

/-- The names of the coordinates of the point. -/
def coordinates (ctx : Context) : List String :=
  (components ctx.dimension).map Component.name

/-- The stored fields: the coordinates of the point called `anchor`, then the extents. -/
def storedFields (ctx : Context) (axes : List Component) (shape anchor : String) : List Field :=
  ((coordinates ctx).map fun c => ⟨.scalar, c, "The " ++ c ++ " coordinate of the " ++ shape ++ "'s " ++ anchor ++ "."⟩) ++
    axes.map fun axis => ⟨.scalar, axis.name, "The " ++ axis.parameter ++ " of the " ++ shape ++ "."⟩

/-- The size as a property. -/
def sizeProperty (ctx : Context) (axes : List Component) (shape : String) : Script :=
  property ctx.size "Size" ("Gets the size of the " ++ shape ++ ".")
    (construct ctx.size (axes.map Component.name))

/-- The constructors from coordinates and extents, and from the point called `anchor` and a size. -/
def constructors (ctx : Context) (axes : List Component) (list : List Field) (shape anchor anchorDoc : String) :
    Script :=
  region "Constructors" <|
    fieldConstructor ctx list (axes.map fun axis => "0 <= " ++ axis.parameter) ++
      chainedConstructor ctx
        [⟨⟨ctx.point, anchor⟩, anchorDoc⟩, ⟨⟨ctx.size, "size"⟩, "The size of the " ++ shape ++ "."⟩]
        (((coordinates ctx).map fun c => anchor ++ "." ++ c) ++ axes.map fun axis => "size." ++ axis.name)

/-- The displacements of the point, which is the property called `anchor`. -/
def operations (ctx : Context) (shape anchor : String) : Script :=
  region "Operations" <|
    displacements ctx fun symbol =>
      construct ctx.name [shape ++ "." ++ anchor ++ " " ++ symbol ++ " vector", shape ++ ".Size"]

end GeometrySource.Template.Box
