import GeometrySource.Context
import GeometrySource.Declaration.Doc
import GeometrySource.Naming.Parameter

/-!
# Fields

The stored fields of a struct. The constructor, the conversions, equality, string conversion and the binary functions are
all derived from one list of fields, in its order.
-/

namespace GeometrySource.Declaration

/-- What a field holds. -/
inductive FieldKind
  /-- One number. -/
  | scalar
  /-- A point of the shape's dimension. -/
  | point
  /-- A vector of the shape's dimension. -/
  | vector
  deriving DecidableEq, Repr

/-- A stored field of a struct. -/
structure Field where
  kind : FieldKind
  name : String
  /-- The text of the field's doc comment. -/
  doc : String
  deriving DecidableEq, Repr

namespace Field

/-- The type of the field in the shape's type for a number type. -/
def typeFor (f : Field) (ctx : Context) (numeric : Numeric) : String :=
  match f.kind with
  | .scalar => numeric.keyword
  | .point => typeName .point numeric ctx.dimension
  | .vector => typeName .vector numeric ctx.dimension

/-- The declared type of the field. -/
def type (f : Field) (ctx : Context) : String :=
  f.typeFor ctx ctx.numeric

/-- The constructor parameter that fills the field. -/
def parameter (f : Field) : String :=
  parameterName f.name

/-- The method of a binary reader that reads the field. -/
def readMethod (f : Field) (ctx : Context) : String :=
  match f.kind with
  | .scalar => "Read" ++ ctx.numeric.native
  | .point => "Read" ++ f.type ctx
  | .vector => "Read" ++ f.type ctx

/-- The declaration of the field. -/
def declaration (f : Field) (ctx : Context) : Script :=
  summary f.doc ++ [.line ("public readonly " ++ f.type ctx ++ " " ++ f.name ++ ";")]

end Field

/-- The region of field declarations. -/
def fields (ctx : Context) (list : List Field) : Script :=
  Script.region "Fields" (list.flatMap fun f => f.declaration ctx)

end GeometrySource.Declaration
