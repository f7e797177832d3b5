import GeometrySource.Config.Basic
import GeometrySource.Naming.TypeName
import GeometrySource.Numeric.Conversion
import GeometrySource.Shape.Spec

/-!
# Contexts

What a template is given: the spec as it was written, the dimension that it resolves to, its number type, and the whole
configuration. A template reads all of them through the functions below.
-/

namespace GeometrySource

/-- What one declaration is generated from. -/
structure Context where
  /-- The request as it was written. -/
  spec : Spec
  /-- The dimension that is asked for, also where it is not written. -/
  dimension : Nat
  /-- The number type of the declared type. -/
  numeric : Numeric
  config : Config
  deriving DecidableEq, Repr

namespace Context

/-- The context of a spec under a configuration. Whether the configuration lists the number type is not asked. -/
def ofSpec (config : Config) (spec : Spec) : Except Error Context :=
  spec.resolve.map fun dimension => ⟨spec, dimension, spec.numeric, config⟩

/-- The shape that is declared. -/
def shape (ctx : Context) : Shape :=
  ctx.spec.shape

/-- The number types that the shape is generated for, in the configuration's order. -/
def types (ctx : Context) : List Numeric :=
  ctx.config.typesFor ctx.shape

/-- The namespace around the declaration. -/
def namespaceName (ctx : Context) : String :=
  ctx.config.namespaceName

/-- The type that is given `Write` functions. -/
def binaryWriter (ctx : Context) : String :=
  ctx.config.binaryWriter

/-- The type that is given `Read` functions. -/
def binaryReader (ctx : Context) : String :=
  ctx.config.binaryReader

/-- The name of a shape's type of this dimension for a number type. -/
def shapeName (ctx : Context) (shape : Shape) (numeric : Numeric) : String :=
  typeName (.shape shape) numeric ctx.dimension

/-- The name of this shape's type for a number type. -/
def nameFor (ctx : Context) (numeric : Numeric) : String :=
  ctx.shapeName ctx.shape numeric

/-- The name of the type that is declared. -/
def name (ctx : Context) : String :=
  ctx.nameFor ctx.numeric

/-- The keyword of the number type. -/
def scalar (ctx : Context) : String :=
  ctx.numeric.keyword

/-- The point type of this number type and dimension. -/
def point (ctx : Context) : String :=
  typeName .point ctx.numeric ctx.dimension

/-- The vector type of this number type and dimension. -/
def vector (ctx : Context) : String :=
  typeName .vector ctx.numeric ctx.dimension

/-- The size type of this number type and dimension. -/
def size (ctx : Context) : String :=
  typeName .size ctx.numeric ctx.dimension

/-- The floating counterpart of the number type. -/
def real (ctx : Context) : Numeric :=
  ctx.numeric.real

/-- The counterpart of the number type for results that are never negative. -/
def positive (ctx : Context) : Numeric :=
  ctx.numeric.positive

/-- The point type of the floating counterpart. -/
def realPoint (ctx : Context) : String :=
  typeName .point ctx.real ctx.dimension

/-- The number types that the shape is generated for, without this one. -/
def others (ctx : Context) : List Numeric :=
  ctx.types.filter fun n => n ≠ ctx.numeric

/-- How a conversion from a type with number type `source` is declared. Between shapes of one number type nothing is lost,
so such a conversion is implicit. -/
def conversionKind (ctx : Context) (source : Numeric) : ConversionKind :=
  if source = ctx.numeric then .implicit else source.conversionKind ctx.numeric

/-- Whether a conversion from a type with number type `source` leaves the common language subset. -/
def needsClsMarker (ctx : Context) (source : Numeric) : Bool :=
  source.needsClsMarker ctx.numeric

/-- The name of the static class that accompanies the type. -/
def companion (ctx : Context) : String :=
  ctx.shape.name

/-- The name of a parameter that holds the shape. -/
def parameter (ctx : Context) : String :=
  ctx.shape.parameter

end Context

end GeometrySource
