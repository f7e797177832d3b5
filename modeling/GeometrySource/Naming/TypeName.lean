import GeometrySource.Error

/-!
# Type names

Every type that generated text declares or refers to is named by one rule: the family, the dimension if the family shows
it, and the suffix of the number type.
-/

namespace GeometrySource

/-- A family of types that differ in number type and dimension. -/
inductive TypeFamily
  | shape (shape : Shape)
  | point
  | vector
  | size
  deriving DecidableEq, Repr

namespace TypeFamily

/-- The name that the family's types begin with. -/
def base : TypeFamily → String
  | shape s => s.name
  | point => "Point"
  | vector => "Vector"
  | size => "Size"

/-- Whether the names of the family show the dimension. -/
def carriesDimension : TypeFamily → Bool
  | shape s => s.isDimensioned
  | point => true
  | vector => true
  | size => true

/-- The family called `name`: exactly `Point`, `Vector` or `Size`, or a shape in any letter case. -/
def named (name : String) : Except Error TypeFamily :=
  if name = "Point" then .ok point
  else if name = "Vector" then .ok vector
  else if name = "Size" then .ok size
  else (Shape.named name).map shape

end TypeFamily

/-- The name of a type, such as `CircleD`, `Line2I` or `Point3F`. -/
def typeName (family : TypeFamily) (numeric : Numeric) (dimension : Nat) : String :=
  if family.carriesDimension then
    family.base ++ dimension.repr ++ numeric.suffix
  else
    family.base ++ numeric.suffix

end GeometrySource
