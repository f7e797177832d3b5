import GeometrySource.Numeric.Representation
import GeometrySource.Text.Ascii

/-!
# The number types

The ten number types that a generated shape may store its components in, with their names, their representations and
their counterparts. They are listed in declaration order everywhere.
-/

namespace GeometrySource

/-- A number type that a shape can be generated for. -/
inductive Numeric
  | byte
  | sbyte
  | short
  | ushort
  | int
  | uint
  | long
  | ulong
  | float
  | double
  deriving DecidableEq, Repr

namespace Numeric

/-- The number types in declaration order. -/
def all : List Numeric :=
  [byte, sbyte, short, ushort, int, uint, long, ulong, float, double]

/-- The list is complete. -/
theorem mem_all (n : Numeric) : n ∈ all := by
  cases n <;> decide

/-- The place of a number type in declaration order. -/
def position (n : Numeric) : Nat :=
  all.idxOf n

/-- The word that names the type in source text. -/
def keyword : Numeric → String
  | byte => "byte"
  | sbyte => "sbyte"
  | short => "short"
  | ushort => "ushort"
  | int => "int"
  | uint => "uint"
  | long => "long"
  | ulong => "ulong"
  | float => "float"
  | double => "double"

/-- The ending that a compound type name takes for this number type, as in `CircleD`. -/
def suffix : Numeric → String
  | byte => "B"
  | sbyte => "SB"
  | short => "S"
  | ushort => "US"
  | int => "I"
  | uint => "UI"
  | long => "L"
  | ulong => "UL"
  | float => "F"
  | double => "D"

/-- The runtime name of the type, which binary readers use, as in `ReadDouble`. -/
def native : Numeric → String
  | byte => "Byte"
  | sbyte => "SByte"
  | short => "Int16"
  | ushort => "UInt16"
  | int => "Int32"
  | uint => "UInt32"
  | long => "Int64"
  | ulong => "UInt64"
  | float => "Single"
  | double => "Double"

/-- The class and width of the type. -/
def representation : Numeric → Representation
  | byte => ⟨.unsignedInteger, 8⟩
  | sbyte => ⟨.signedInteger, 8⟩
  | short => ⟨.signedInteger, 16⟩
  | ushort => ⟨.unsignedInteger, 16⟩
  | int => ⟨.signedInteger, 32⟩
  | uint => ⟨.unsignedInteger, 32⟩
  | long => ⟨.signedInteger, 64⟩
  | ulong => ⟨.unsignedInteger, 64⟩
  | float => ⟨.floating, 32⟩
  | double => ⟨.floating, 64⟩

/-- Whether the type belongs to the common language subset: the signed byte and the wider unsigned types do not. -/
def clsCompliant : Numeric → Bool
  | sbyte => false
  | ushort => false
  | uint => false
  | ulong => false
  | _ => true

/-- The floating type for results that need not be whole, such as lengths: `float` keeps itself, all others take
`double`. -/
def real : Numeric → Numeric
  | float => float
  | _ => double

/-- The type for results that are never negative: signed integers take the unsigned type of their width, all others keep
themselves. -/
def positive : Numeric → Numeric
  | sbyte => byte
  | short => ushort
  | int => uint
  | long => ulong
  | n => n

/-- Whether the type holds floating point numbers. -/
def isFloating (n : Numeric) : Bool :=
  n.representation.isFloating

/-- The plural description of the type's numbers, as doc comments put it. -/
def description (n : Numeric) : String :=
  n.representation.description

/-- The number type whose keyword is `name`, in any letter case. -/
def ofName? (name : String) : Option Numeric :=
  all.find? fun n => Text.equalsIgnoringCase n.keyword name

/-- The number type whose keyword is exactly `keyword`. -/
def ofKeyword? (keyword : String) : Option Numeric :=
  all.find? fun n => n.keyword = keyword

/-- A list of number types in declaration order, repeats kept. -/
def sort (types : List Numeric) : List Numeric :=
  types.mergeSort fun a b => decide (a.position ≤ b.position)

end Numeric

end GeometrySource
