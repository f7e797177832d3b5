import GeometrySource.Config.Json
import GeometrySource.Shape.Spec

/-!
# Specs as JSON

A spec as a JSON record. The shape and the number type have to be there; the dimension may be left out or null, and is
left out when a spec without one is written. The names and their order are the generator's own; that a record with these
fields is read and written in this way is the documented behaviour of a library (see `Node.fields?`).
-/

namespace GeometrySource

/-- A shape as a JSON choice of its name. -/
def Shape.toNode (s : Shape) : Json.Node :=
  Json.Node.ofString s.name

/-- The shape that a JSON choice names. -/
def Shape.ofNode? : Json.Node → Option Shape :=
  Json.Node.choice? Shape.ofExactName?

namespace Spec

open Json

/-- The names of the fields, in order. -/
def fieldNames : List String :=
  ["kind", "numeric", "dimension"]

/-- The dimension's field, if the spec has one. -/
def dimensionField (s : Spec) : List (String × Node) :=
  match s.dimension with
  | some d => [("dimension", Node.number (Number.ofNat d.toNat))]
  | none => []

/-- A spec as a JSON object. -/
def toNode (s : Spec) : Node :=
  Node.ofFields (("kind", s.shape.toNode) :: ("numeric", s.numeric.toNode) :: s.dimensionField)

/-- The spec that a JSON value holds. -/
def ofNode? (node : Node) : Option Spec := do
  let fields ← node.fields? fieldNames
  let shape ← Node.field? fields "kind" none Shape.ofNode?
  let numeric ← Node.field? fields "numeric" none Numeric.ofNode?
  let dimension ← Node.field? fields "dimension" (some none) (Node.nullable? Node.uint32?)
  some ⟨shape, numeric, dimension⟩

/-- The JSON text of a spec, without blanks. -/
def toJson (s : Spec) : String :=
  s.toNode.text

/-- The spec that a JSON text holds. -/
def ofJson (text : String) : Except Error Spec :=
  match (Node.ofText? text).bind ofNode? with
  | some s => .ok s
  | none => .error .unreadableJson

end Spec

end GeometrySource
