/-!
# Expressions and statements

The small pieces of C# text that declarations are made of.
-/

namespace GeometrySource.Declaration

/-- Texts with commas between them. -/
def commaList (texts : List String) : String :=
  ", ".intercalate texts

/-- The construction of a value from arguments. -/
def construct (type : String) (args : List String) : String :=
  "new " ++ type ++ "(" ++ commaList args ++ ")"

/-- An operand brought to a type. -/
def cast (type operand : String) : String :=
  "(" ++ type ++ ")" ++ operand

/-- The statement that returns a value. -/
def returning (expression : String) : String :=
  "return " ++ expression ++ ";"

/-- A statement with a block of statements under it, which stand one tab further in. -/
def braced (header : String) (inner : List String) : List String :=
  header :: "\x7b" :: (inner.map ("\t" ++ ·) ++ ["\x7d"])

/-- A parameter of a method. -/
structure Parameter where
  type : String
  name : String
  deriving DecidableEq, Repr

/-- A parameter as a method declares it. -/
def Parameter.text (p : Parameter) : String :=
  p.type ++ " " ++ p.name

/-- The parameters of a method between its parentheses. -/
def parameterList (parameters : List Parameter) : String :=
  "(" ++ commaList (parameters.map Parameter.text) ++ ")"

end GeometrySource.Declaration
