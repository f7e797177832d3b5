import GeometrySource.Error

/-!
# Specs

A spec asks for one declaration: a shape, a number type and, where the shape needs or allows it, a dimension.
-/

namespace GeometrySource

/-- A request for the declaration of one shape. -/
structure Spec where
  shape : Shape
  numeric : Numeric
  /-- The dimension as written; shapes with an implicit dimension may leave it out. -/
  dimension : Option UInt32 := none
  deriving DecidableEq, Repr

namespace Spec

/-- The written dimension as a number. -/
def givenDimension (s : Spec) : Option Nat :=
  s.dimension.map UInt32.toNat

/-- The dimension that the spec asks for. A refusal names the shape and the written dimension, or zero if none was
written. -/
def resolve (s : Spec) : Except Error Nat :=
  match s.shape.dimensionFor? s.givenDimension with
  | some d => .ok d
  | none => .error (.unsupportedDimension (.shape s.shape) (s.givenDimension.getD 0))

/-- A spec as listings and log records show it, such as `Circle<int>` or `Line<float, 3>`. -/
def display (s : Spec) : String :=
  match s.dimension with
  | some d => s.shape.name ++ "<" ++ s.numeric.keyword ++ ", " ++ d.toNat.repr ++ ">"
  | none => s.shape.name ++ "<" ++ s.numeric.keyword ++ ">"

end Spec

end GeometrySource
