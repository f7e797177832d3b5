import GeometrySource.Numeric.Basic
import GeometrySource.Shape.Basic

/-!
# Errors

Every way in which a request or a configuration can be refused, as its cause. The wording is in `Error.message` alone.
-/

namespace GeometrySource

/-- What a dimension was asked for. -/
inductive DimensionOwner
  /-- A shape. -/
  | shape (shape : Shape)
  /-- The list of size axes. -/
  | sizeAxes
  deriving DecidableEq, Repr

/-- What error texts call the owner of a dimension. -/
def DimensionOwner.name : DimensionOwner → String
  | .shape s => s.name
  | .sizeAxes => "size components"

/-- One of the two lists of number types in a configuration. -/
inductive TypeList
  | general
  | real
  deriving DecidableEq, Repr

/-- The name of a list of number types, also its key in a configuration file. -/
def TypeList.label : TypeList → String
  | .general => "general_types"
  | .real => "real_types"

/-- What is wrong with a configuration. -/
inductive ConfigFault
  /-- The namespace has no visible character. -/
  | blankNamespace
  /-- A list of number types is empty. -/
  | emptyList (list : TypeList)
  /-- A list names a number type again. -/
  | repeated (list : TypeList) (numeric : Numeric)
  /-- The list of real types names an integer type. -/
  | notFloating (numeric : Numeric)
  deriving DecidableEq, Repr

/-- The wording of a configuration fault. -/
def ConfigFault.message : ConfigFault → String
  | .blankNamespace => "namespace is empty"
  | .emptyList list => list.label ++ " is empty"
  | .repeated list n => list.label ++ " lists " ++ n.keyword ++ " twice"
  | .notFloating n => TypeList.real.label ++ " contains non-floating type " ++ n.keyword

/-- Why a request was refused. -/
inductive Error
  /-- A dimension that its owner does not have. -/
  | unsupportedDimension (owner : DimensionOwner) (dimension : Nat)
  /-- A number type that the configuration does not list for the shape. -/
  | notApplicable (shape : Shape) (numeric : Numeric)
  /-- A name that no shape has. -/
  | unknownShape (name : String)
  /-- A name that no number type has. -/
  | unknownNumeric (name : String)
  /-- A shape that no template is registered for. -/
  | missingTemplate (shape : Shape)
  /-- A configuration that does not validate. -/
  | invalidConfig (fault : ConfigFault)
  /-- A JSON text that is malformed or does not have the expected form. -/
  | unreadableJson
  deriving DecidableEq, Repr

/-- The wording of an error. -/
def Error.message : Error → String
  | .unsupportedDimension owner d => "Unsupported dimension " ++ d.repr ++ " for " ++ owner.name
  | .notApplicable s n => s.name ++ " is not generated for numeric type " ++ n.keyword
  | .unknownShape name => "Unknown shape kind: " ++ name
  | .unknownNumeric name => "Unknown numeric type: " ++ name
  | .missingTemplate s => "No generator registered for " ++ s.name
  | .invalidConfig fault => "Invalid configuration: " ++ fault.message
  | .unreadableJson => "JSON error"

/-- The number type called `name`, in any letter case. -/
def Numeric.named (name : String) : Except Error Numeric :=
  match Numeric.ofName? name with
  | some n => .ok n
  | none => .error (.unknownNumeric name)

/-- The shape called `name`, in any letter case. -/
def Shape.named (name : String) : Except Error Shape :=
  match Shape.ofName? name with
  | some s => .ok s
  | none => .error (.unknownShape name)

end GeometrySource
