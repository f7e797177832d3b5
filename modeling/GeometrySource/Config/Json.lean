import GeometrySource.Config.Basic
import GeometrySource.Json.Field

/-!
# Configuration files

A configuration as a JSON record. Every field may be left out and then has its default value. The names of the fields,
their order and the default values are the generator's own; that a record with these fields is read and written in this way
is the documented behaviour of a library (see `Node.fields?`).
-/

namespace GeometrySource

/-- A number type as a JSON choice of its keyword. -/
def Numeric.toNode (n : Numeric) : Json.Node :=
  Json.Node.ofString n.keyword

/-- The number type that a JSON choice names. -/
def Numeric.ofNode? : Json.Node → Option Numeric :=
  Json.Node.choice? Numeric.ofKeyword?

namespace Config

open Json

/-- The names of the fields, in order. -/
def fieldNames : List String :=
  ["namespace", TypeList.general.label, TypeList.real.label, "binary_writer", "binary_reader"]

/-- A configuration as a JSON object. -/
def toNode (c : Config) : Node :=
  Node.ofFields
    [("namespace", Node.ofString c.namespaceName),
      (TypeList.general.label, Node.array (c.generalTypes.map Numeric.toNode)),
      (TypeList.real.label, Node.array (c.realTypes.map Numeric.toNode)),
      ("binary_writer", Node.ofString c.binaryWriter),
      ("binary_reader", Node.ofString c.binaryReader)]

/-- The configuration that a JSON value holds. -/
def ofNode? (node : Node) : Option Config := do
  let standard : Config := {}
  let fields ← node.fields? fieldNames
  let namespaceName ← Node.field? fields "namespace" (some standard.namespaceName) Node.text?
  let generalTypes ←
    Node.field? fields TypeList.general.label (some standard.generalTypes) (Node.list? Numeric.ofNode?)
  let realTypes ← Node.field? fields TypeList.real.label (some standard.realTypes) (Node.list? Numeric.ofNode?)
  let binaryWriter ← Node.field? fields "binary_writer" (some standard.binaryWriter) Node.text?
  let binaryReader ← Node.field? fields "binary_reader" (some standard.binaryReader) Node.text?
  some ⟨namespaceName, generalTypes, realTypes, binaryWriter, binaryReader⟩

/-- The text of a configuration file, without blanks. -/
def toJson (c : Config) : String :=
  c.toNode.text

/-- The configuration that the text of a file holds. -/
def ofJson (text : String) : Except Error Config :=
  match (Node.ofText? text).bind ofNode? with
  | some c => .ok c
  | none => .error .unreadableJson

end Config

end GeometrySource
