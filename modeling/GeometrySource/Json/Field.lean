import GeometrySource.Json.Node

/-!
# Reading data from trees

How the values of a configuration or a spec are read from a JSON tree. A record may be written as an object, where members
with unknown names are skipped and known names may not repeat, or as an array of its fields in order, where fields may be
missing at the end. A choice may be written as a string, or as an object with that one key and the value null.

These are the rules of a library that derives the readers of records and choices from the names of their fields and cases,
as it documents them. The generator declares the names and which fields may be missing, and has no code for the rules; what
it declares is in the modules that read a configuration and a spec.
-/

namespace GeometrySource.Json

namespace Node

/-- The text that a string stands for. -/
def text? : Node → Option String
  | string items => items.decode?
  | _ => none

/-- The number that a literal stands for, if it fits into 32 bits. -/
def uint32? : Node → Option UInt32
  | number literal => literal.toNat?.bind fun n => if n < UInt32.size then some (UInt32.ofNat n) else none
  | _ => none

/-- The values of an array, each read by `read?`. -/
def list? {α : Type} (read? : Node → Option α) : Node → Option (List α)
  | array items => items.mapM read?
  | _ => none

/-- A choice among named values. -/
def choice? {α : Type} (ofName? : String → Option α) : Node → Option α
  | string name => name.decode?.bind ofName?
  | object [(name, null)] => name.decode?.bind ofName?
  | _ => none

/-- The members of an object with their keys decoded. -/
def namedMembers? (members : List (Quoted × Node)) : Option (List (String × Node)) :=
  members.mapM fun (key, value) => key.decode?.map fun key => (key, value)

/-- The fields of a record with their names: the members of an object whose names are among `names`, each name at most
once; or the values of an array, named in order, of which there may be no more than names. -/
def fields? (names : List String) : Node → Option (List (String × Node))
  | object members => do
    let members ← namedMembers? members
    let known := members.filter fun (key, _) => names.contains key
    if (known.map Prod.fst).Nodup then some known else none
  | array items => if items.length ≤ names.length then some (names.zip items) else none
  | _ => none

/-- The value of a field; `missing` stands for a field that is not there. -/
def field? {α : Type} (fields : List (String × Node)) (name : String) (missing : Option α)
    (read? : Node → Option α) : Option α :=
  match fields.lookup name with
  | some node => read? node
  | none => missing

/-- A value that may also be null. -/
def nullable? {α : Type} (read? : Node → Option α) : Node → Option (Option α)
  | null => some none
  | node => (read? node).map some

/-- A text as a JSON string. -/
def ofString (text : String) : Node :=
  string (Quoted.encode text)

/-- A record as an object. -/
def ofFields (fields : List (String × Node)) : Node :=
  object (fields.map fun (name, value) => (Quoted.encode name, value))

end Node

end GeometrySource.Json
