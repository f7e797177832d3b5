import GeometrySource.Error
import GeometrySource.Naming.Parameter

/-!
# Components, size axes and unit vectors

The names of the components of a vector and of the axes of a size, by dimension, and the unit vectors along an axis.
-/

namespace GeometrySource

/-- A named place in a vector or a size. -/
structure Component where
  name : String
  /-- The place, counted from zero. -/
  index : Nat
  deriving DecidableEq, Repr

namespace Component

/-- The parameter spelling of the component, such as `x` or `width`. -/
def parameter (c : Component) : String :=
  parameterName c.name

/-- The names in a list, each with its place. -/
def ofNames (names : List String) : List Component :=
  names.zipIdx.map fun (name, index) => ⟨name, index⟩

end Component

/-- The components of a vector: X, Y, Z and W up to dimension four, and V0, V1 and so on for the wide dimensions eight and
sixteen. No other dimension has components. -/
def components (dimension : Nat) : List Component :=
  if dimension ≤ 4 then
    Component.ofNames (["X", "Y", "Z", "W"].take dimension)
  else if dimension = 8 ∨ dimension = 16 then
    Component.ofNames ((List.range dimension).map fun i => "V" ++ i.repr)
  else
    []

/-- The axes of a size. Only dimensions two and three have a size. -/
def sizeAxes (dimension : Nat) : Except Error (List Component) :=
  if dimension = 2 ∨ dimension = 3 then
    .ok (Component.ofNames (["Width", "Height", "Depth"].take dimension))
  else
    .error (.unsupportedDimension .sizeAxes dimension)

/-- The coordinates of the unit vector along an axis, if the dimension has that axis. -/
def unitVector? (dimension axis : Nat) : Option (List Nat) :=
  if axis < dimension then
    some ((List.range dimension).map fun i => if i = axis then 1 else 0)
  else
    none

end GeometrySource
