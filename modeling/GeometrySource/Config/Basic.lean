import GeometrySource.Error
import GeometrySource.Text.Blank

/-!
# Configurations

A configuration lists the number types that shapes are generated for and gives the names that generated text refers to.
`validate` refuses a configuration with its first fault.
-/

namespace GeometrySource

/-- What a run generates. -/
structure Config where
  /-- The namespace around every declaration. -/
  namespaceName : String := "Numerics.Geometry"
  /-- The number types of the shapes that any number type suits. -/
  generalTypes : List Numeric := [.double, .float, .long, .int]
  /-- The number types of the shapes that need real numbers. -/
  realTypes : List Numeric := [.double, .float]
  /-- The type that is given `Write` functions. -/
  binaryWriter : String := "System.IO.BinaryWriter"
  /-- The type that is given `Read` functions. -/
  binaryReader : String := "System.IO.BinaryReader"
  deriving DecidableEq, Repr

namespace Config

/-- One of the two lists of number types. -/
def types (c : Config) : TypeList → List Numeric
  | .general => c.generalTypes
  | .real => c.realTypes

/-- The list of number types that a shape is generated for. -/
def typesFor (c : Config) (s : Shape) : List Numeric :=
  if s.requiresReal then c.realTypes else c.generalTypes

/-- The first number type of a list that an earlier place of the list, or `seen`, already has. -/
def firstRepeat? (seen : List Numeric) : List Numeric → Option Numeric
  | [] => none
  | n :: rest => if seen.contains n then some n else firstRepeat? (n :: seen) rest

/-- What is wrong with one of the lists taken by itself. -/
def listFault? (c : Config) (list : TypeList) : Option ConfigFault :=
  if (c.types list).isEmpty then
    some (.emptyList list)
  else
    (firstRepeat? [] (c.types list)).map (.repeated list)

/-- The first fault of a configuration: a blank namespace, an empty or repeating list, general before real, and then an
integer type among the real ones. -/
def fault? (c : Config) : Option ConfigFault :=
  if Text.allBlank c.namespaceName then
    some .blankNamespace
  else
    (c.listFault? .general).or <|
      (c.listFault? .real).or <|
        (c.realTypes.find? fun n => !n.isFloating).map .notFloating

/-- Refuses a configuration that has a fault. -/
def validate (c : Config) : Except Error Unit :=
  match c.fault? with
  | some fault => .error (.invalidConfig fault)
  | none => .ok ()

end Config

end GeometrySource
