import GeometrySource.Declaration.Expression
import GeometrySource.Declaration.Field
import GeometrySource.Declaration.Operator

/-!
# Equality

The hash code, the two `Equals` methods and the equality operators of a struct, and the static `Equals` beside it. Over
fields, the hash is a sum, equality a conjunction and inequality a disjunction, all in the fields' order.
-/

namespace GeometrySource.Declaration

open Script

/-- The operands of a comparison of two values of the declared type. -/
def operands (ctx : Context) : List Parameter :=
  [⟨ctx.name, "left"⟩, ⟨ctx.name, "right"⟩]

/-- The doc comment of a test whether two values are equal. -/
def equalDoc : Script :=
  summary "Returns a value that indicates whether two values are equal." ++
    param "left" "The first value to compare." ++
    param "right" "The second value to compare." ++
    returns "true if left and right are equal; otherwise, false."

/-- The doc comment of a test whether two values differ. -/
def notEqualDoc : Script :=
  summary "Returns a value that indicates whether two values are not equal." ++
    param "left" "The first value to compare." ++
    param "right" "The second value to compare." ++
    returns "true if left and right are not equal; otherwise, false."

/-- The members of equality, by the statements of the hash code and of the two operators. -/
def equalityMembers (ctx : Context) (hash equal notEqual : List String) : Script :=
  summary "Returns the hash code for the current instance." ++
    returns "A 32-bit signed integer hash code." ++
    .line "public override int GetHashCode()" ::
    body hash ++
    summary "Indicates whether this instance and a specified object are equal." ++
    param "obj" "Another object to compare to." ++
    returns ("true if obj and this instance are the same type and represent the same value; " ++
      "otherwise, false.") ++
    .line "public override bool Equals(object obj)" ::
    block
      (.line ("if (obj is " ++ ctx.name ++ ")") ::
        body [returning ("Equals(" ++ cast ctx.name "obj" ++ ")")] ++
        [.line "return false;"]) ++
    summary ("Determines whether the specified " ++ see ctx.name ++ " is equal to the current " ++ see ctx.name ++
      ".") ++
    param "other" "The value to compare with the current instance." ++
    returns "true if the specified value is equal to the current instance; otherwise, false." ++
    .line ("public bool Equals(" ++ ctx.name ++ " other)") ::
    body ["return this == other;"] ++
    equalDoc ++
    .line ("public static bool operator ==" ++ parameterList (operands ctx)) ::
    body equal ++
    notEqualDoc ++
    .line ("public static bool operator !=" ++ parameterList (operands ctx)) ::
    body notEqual

/-- The comparison of one field of two values. -/
def compareField (relation : String) (f : Field) : String :=
  "left." ++ f.name ++ " " ++ relation ++ " right." ++ f.name

/-- The region of equality over fields. -/
def equality (ctx : Context) (list : List Field) : Script :=
  region "Equatable" <|
    equalityMembers ctx
      [returning (" + ".intercalate (list.map fun f => f.name ++ ".GetHashCode()"))]
      [returning (" & ".intercalate (list.map (compareField "==")))]
      [returning (" | ".intercalate (list.map (compareField "!=")))]

/-- The region of the static `Equals`. -/
def equalsFunction (ctx : Context) : Script :=
  region "Equatable" <|
    equalDoc ++
      .line ("public static bool Equals" ++ parameterList (operands ctx)) ::
      body ["return left == right;"]

end GeometrySource.Declaration
