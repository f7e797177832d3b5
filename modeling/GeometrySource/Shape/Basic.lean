import GeometrySource.Text.Ascii

/-!
# Shapes

The eight shapes, in generation order. A shape either is generated for a list of dimensions, and then carries the
dimension in its name, or it has one implicit dimension of its own.
-/

namespace GeometrySource

/-- A shape that can be generated. -/
inductive Shape
  | circle
  | ellipse
  | line
  | plane
  | polygon
  | ray
  | rectangle
  | sphere
  deriving DecidableEq, Repr

namespace Shape

/-- The shapes in generation order. -/
def all : List Shape :=
  [circle, ellipse, line, plane, polygon, ray, rectangle, sphere]

/-- The list is complete. -/
theorem mem_all (s : Shape) : s ∈ all := by
  cases s <;> decide

/-- The place of a shape in generation order. -/
def position (s : Shape) : Nat :=
  all.idxOf s

/-- The name of the shape, which its types and its companion class begin with. -/
def name : Shape → String
  | circle => "Circle"
  | ellipse => "Ellipse"
  | line => "Line"
  | plane => "Plane"
  | polygon => "Polygon"
  | ray => "Ray"
  | rectangle => "Rectangle"
  | sphere => "Sphere"

/-- The name of a parameter that holds the shape. -/
def parameter : Shape → String
  | circle => "circle"
  | ellipse => "ellipse"
  | line => "line"
  | plane => "plane"
  | polygon => "polygon"
  | ray => "ray"
  | rectangle => "rectangle"
  | sphere => "sphere"

/-- The dimensions that the shape is generated for, if it is generated for several. -/
def dimensions : Shape → List Nat
  | line => [1, 2, 3]
  | polygon => [2, 3]
  | _ => []

/-- Whether the shape is generated for several dimensions, so that its names carry one. -/
def isDimensioned (s : Shape) : Bool :=
  !s.dimensions.isEmpty

/-- The dimension of a shape that has only one. -/
def implicitDimension : Shape → Option Nat
  | circle => some 2
  | ellipse => some 2
  | rectangle => some 2
  | plane => some 3
  | ray => some 3
  | sphere => some 3
  | line => none
  | polygon => none

/-- Whether the shape is generated for floating point types only. -/
def requiresReal : Shape → Bool
  | plane => true
  | ray => true
  | _ => false

/-- The dimension that a request for the shape asks for: the implicit one when none is given; otherwise the given one,
which has to be the implicit one or one of the listed ones. -/
def dimensionFor? (s : Shape) : Option Nat → Option Nat
  | none => s.implicitDimension
  | some d => if s.implicitDimension = some d ∨ d ∈ s.dimensions then some d else none

/-- The shape called `name`, in any letter case. -/
def ofName? (name : String) : Option Shape :=
  all.find? fun s => Text.equalsIgnoringCase s.name name

/-- The shape called exactly `name`. -/
def ofExactName? (name : String) : Option Shape :=
  all.find? fun s => s.name = name

/-- A list of shapes in generation order, repeats kept. -/
def sort (shapes : List Shape) : List Shape :=
  shapes.mergeSort fun a b => decide (a.position ≤ b.position)

end Shape

end GeometrySource
