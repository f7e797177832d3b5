import GeometrySource.Config.Json
import GeometrySource.Proofs.Json.Field
import Mathlib.Data.Finset.Basic
import Mathlib.Data.Fintype.Defs

/-!
# Configuration files

Reading a configuration undoes writing it, field by field. A file may hold any of the fields, in any order, among members of
other names; the configuration that is read has these fields, and the default values for all others.
-/

namespace GeometrySource

theorem Numeric.ofKeyword?_eq_some_iff {keyword : String} {n : Numeric} :
    Numeric.ofKeyword? keyword = some n ↔ n.keyword = keyword := by
  constructor
  · intro h
    simpa using List.find?_some h
  · rintro rfl
    cases n <;> decide

/-- A number type is read from every choice of its keyword. -/
theorem Numeric.ofNode?_eq_some_iff {node : Json.Node} {n : Numeric} :
    Numeric.ofNode? node = some n ↔ node.Chooses n.keyword :=
  Json.Node.choice?_eq_some_iff Numeric.ofKeyword?_eq_some_iff

theorem Numeric.ofNode?_toNode (n : Numeric) : Numeric.ofNode? n.toNode = some n :=
  Numeric.ofNode?_eq_some_iff.mpr (Json.Node.chooses_ofString n.keyword)

namespace Config

open Json

/-- A field of a configuration. -/
inductive Field
  | namespaceName
  | generalTypes
  | realTypes
  | binaryWriter
  | binaryReader
  deriving DecidableEq

namespace Field

/-- The name that the field has in a file. -/
def name : Field → String
  | namespaceName => "namespace"
  | generalTypes => TypeList.general.label
  | realTypes => TypeList.real.label
  | binaryWriter => "binary_writer"
  | binaryReader => "binary_reader"

/-- The fields in order. -/
def all : List Field :=
  [namespaceName, generalTypes, realTypes, binaryWriter, binaryReader]

instance : Fintype Field where
  elems := ⟨all, by decide⟩
  complete field := by cases field <;> decide

theorem name_mem_fieldNames (field : Field) : field.name ∈ fieldNames := by
  cases field <;> decide

end Field

/-- The value of a field as it is written. -/
def node (c : Config) : Field → Node
  | .namespaceName => Node.ofString c.namespaceName
  | .generalTypes => Node.array (c.generalTypes.map Numeric.toNode)
  | .realTypes => Node.array (c.realTypes.map Numeric.toNode)
  | .binaryWriter => Node.ofString c.binaryWriter
  | .binaryReader => Node.ofString c.binaryReader

/-- The configuration with some of the fields of `c`, and the default values for the others. -/
def keeping (c : Config) (kept : Finset Field) : Config where
  namespaceName := if .namespaceName ∈ kept then c.namespaceName else ({} : Config).namespaceName
  generalTypes := if .generalTypes ∈ kept then c.generalTypes else ({} : Config).generalTypes
  realTypes := if .realTypes ∈ kept then c.realTypes else ({} : Config).realTypes
  binaryWriter := if .binaryWriter ∈ kept then c.binaryWriter else ({} : Config).binaryWriter
  binaryReader := if .binaryReader ∈ kept then c.binaryReader else ({} : Config).binaryReader

theorem keeping_univ (c : Config) : c.keeping Finset.univ = c := by
  simp [keeping]

/-- Whether the members of an object, by their names, are some fields of a configuration and members of other names: each of
the fields is there once, with its value as it is written, and no other field is there. -/
def Holds (c : Config) (kept : Finset Field) (named : List (String × Node)) : Prop :=
  ∀ field : Field, Node.valuesOf named field.name = if field ∈ kept then [c.node field] else []

variable {c : Config} {kept : Finset Field} {named : List (String × Node)}

/-- A field that is there is read back; another has its default value. -/
theorem Holds.field? (h : c.Holds kept named) {α : Type} {read? : Node → Option α} {a : α} (field : Field) (missing : α)
    (ha : read? (c.node field) = some a) :
    Node.field? (Node.known fieldNames named) field.name (some missing) read? =
      some (if field ∈ kept then a else missing) := by
  have hvalues := h field
  rw [Node.field?_eq_some_iff field.name_mem_fieldNames (by rw [hvalues]; split <;> simp), hvalues]
  split
  · exact Or.inr ⟨_, rfl, ha⟩
  · exact Or.inl ⟨rfl, rfl⟩

theorem Holds.ofNode? (h : c.Holds kept named) {members : List (Quoted × Node)} (hmembers : Node.Named members named) :
    Config.ofNode? (Node.object members) = some (c.keeping kept) := by
  have hfields : (Node.object members).fields? fieldNames = some (Node.known fieldNames named) := by
    refine (Node.fields?_object_eq_some_iff hmembers).mpr ⟨fun name hname => ?_, rfl⟩
    obtain ⟨field, rfl⟩ : ∃ field : Field, field.name = name := by
      have hall : fieldNames = Field.all.map Field.name := rfl
      obtain ⟨field, -, hfield⟩ := List.mem_map.mp (hall ▸ hname)
      exact ⟨field, hfield⟩
    rw [h field]
    split <;> simp
  have hlist (types : List Numeric) := Node.list?_array_map Numeric.ofNode?_toNode types
  have hnamespace := h.field? .namespaceName ({} : Config).namespaceName (Node.text?_ofString _)
  have hgeneral := h.field? .generalTypes ({} : Config).generalTypes (hlist _)
  have hreal := h.field? .realTypes ({} : Config).realTypes (hlist _)
  have hwriter := h.field? .binaryWriter ({} : Config).binaryWriter (Node.text?_ofString _)
  have hreader := h.field? .binaryReader ({} : Config).binaryReader (Node.text?_ofString _)
  simp only [Field.name] at hnamespace hgeneral hreal hwriter hreader
  simp only [Config.ofNode?, hfields, hnamespace, hgeneral, hreal, hwriter, hreader, Option.bind_eq_bind, Option.bind_some,
    keeping]

theorem ofJson_eq_ok_iff {text : String} : ofJson text = .ok c ↔ (Node.ofText? text).bind ofNode? = some c := by
  unfold ofJson
  cases (Node.ofText? text).bind ofNode? <;> simp

theorem written_node (c : Config) (field : Field) : (c.node field).Written := by
  have hlist (types : List Numeric) : (Node.array (types.map Numeric.toNode)).Written := by
    refine Node.written_array fun item hitem => ?_
    obtain ⟨n, -, rfl⟩ := List.mem_map.mp hitem
    exact Node.written_ofString n.keyword
  cases field with
  | namespaceName => exact Node.written_ofString _
  | generalTypes => exact hlist _
  | realTypes => exact hlist _
  | binaryWriter => exact Node.written_ofString _
  | binaryReader => exact Node.written_ofString _

/-- The members of a written configuration, by their names. -/
def entries (c : Config) : List (String × Node) :=
  Field.all.map fun field => (field.name, c.node field)

theorem toNode_eq (c : Config) : c.toNode = Node.ofFields c.entries :=
  rfl

/-- A written configuration holds all of its fields. -/
theorem holds_entries (c : Config) : c.Holds Finset.univ c.entries := by
  intro field
  rw [if_pos (Finset.mem_univ field)]
  cases field <;> rfl

theorem spelledBy_toJson (c : Config) : c.toNode.SpelledBy c.toJson := by
  have hwritten : (Node.ofFields c.entries).Written := by
    refine Node.written_ofFields fun entry hentry => ?_
    obtain ⟨field, -, rfl⟩ := List.mem_map.mp hentry
    exact c.written_node field
  rw [toJson, toNode_eq]
  exact hwritten.spelledBy_text

theorem Holds.ofJson (h : c.Holds kept named) {members : List (Quoted × Node)} (hmembers : Node.Named members named)
    {text : String} (htext : (Node.object members).SpelledBy text) : Config.ofJson text = .ok (c.keeping kept) := by
  rw [ofJson_eq_ok_iff, Node.ofText?_eq_some_iff.mpr htext, Option.bind_some, h.ofNode? hmembers]

/-- Reading a configuration undoes writing it. Whatever the order of the fields that a file holds, the members of other names
among them and the blanks between them, the configuration that is read has these fields, and the default values for all
others; and the text that a configuration is written as is read as that configuration. -/
theorem ofJson_restores (c : Config) :
    (∀ (kept : Finset Field) (members : List (Quoted × Node)) (named : List (String × Node)) (text : String),
      Node.Named members named → c.Holds kept named → (Node.object members).SpelledBy text →
        ofJson text = .ok (c.keeping kept)) ∧
      ofJson c.toJson = .ok c := by
  refine ⟨fun kept members named text hmembers h htext => h.ofJson hmembers htext, ?_⟩
  have hread := c.holds_entries.ofJson (Node.named_ofFields c.entries) c.spelledBy_toJson
  rwa [keeping_univ] at hread

/-- Two fields in another order, one of them with an escape in its name, and a member that no configuration has. -/
theorem ofJson_restores_two_fields :
    ofJson " \x7b\"extra\": [1e2, \"\\ud800\"], \"real_types\":[\"float\"],\"n\\u0061mespace\" :\"A\\\"\\n\"\x7d\n" =
      .ok { namespaceName := "A\"\n", realTypes := [.float] } := by
  refine (ofJson_restores { namespaceName := "A\"\n", realTypes := [.float] }).1 {.namespaceName, .realTypes}
    [(Quoted.encode "extra", .array [.number ⟨false, ['1'], [], ['e', '2']⟩, .string [.unit 0xD800]]),
      (Quoted.encode "real_types", .array [Numeric.float.toNode]),
      (.plain 'n' :: .unit 0x61 :: Quoted.encode "mespace", Node.ofString "A\"\n")]
    [("extra", .array [.number ⟨false, ['1'], [], ['e', '2']⟩, .string [.unit 0xD800]]),
      ("real_types", .array [Numeric.float.toNode]), ("namespace", Node.ofString "A\"\n")] _ ?_ ?_ ?_
  · exact Node.namedMembers?_eq_some_iff.mp rfl
  · intro field
    cases field <;> rfl
  · exact Token.spelling_of_readAll? (by decide +kernel)

end Config

end GeometrySource
