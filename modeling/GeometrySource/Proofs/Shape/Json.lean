import GeometrySource.Shape.Json
import GeometrySource.Proofs.Config.Json

/-!
# Specs as JSON

Which JSON objects hold a spec, and which one: the shape and the number type are there once, each chosen by its exact name;
the dimension is there at most once, as null or as a plain integer. Reading a spec undoes writing it.
-/

namespace GeometrySource

theorem Shape.ofExactName?_eq_some_iff {name : String} {s : Shape} : Shape.ofExactName? name = some s ↔ s.name = name := by
  constructor
  · intro h
    simpa using List.find?_some h
  · rintro rfl
    cases s <;> decide

/-- A shape is read from every choice of its name. -/
theorem Shape.ofNode?_eq_some_iff {node : Json.Node} {s : Shape} : Shape.ofNode? node = some s ↔ node.Chooses s.name :=
  Json.Node.choice?_eq_some_iff Shape.ofExactName?_eq_some_iff

namespace Spec

open Json

/-! ## What an object holds -/

/-- The values under the dimension's name that give a dimension, or none: no value, null, or an integer literal without sign,
fraction and exponent that fits into 32 bits. -/
inductive Dimension : List Node → Option UInt32 → Prop
  | missing : Dimension [] none
  | null : Dimension [.null] none
  | literal {literal : Number} {d : UInt32} (hsign : literal.negative = false) (hfraction : literal.fraction = [])
      (hexponent : literal.exponent = []) (hd : Nat.ofDigitChars 10 literal.whole 0 = d.toNat) :
      Dimension [.number literal] (some d)

/-- Whether the members of an object, by their names, hold a spec. Members of other names do not matter. -/
structure HeldBy (s : Spec) (named : List (String × Node)) : Prop where
  shape : ∃ node, Node.valuesOf named "kind" = [node] ∧ node.Chooses s.shape.name
  numeric : ∃ node, Node.valuesOf named "numeric" = [node] ∧ node.Chooses s.numeric.keyword
  dimension : Dimension (Node.valuesOf named "dimension") s.dimension

variable {s : Spec} {named : List (String × Node)}

theorem nullable?_uint32?_eq_some_iff {node : Node} {d : Option UInt32} :
    Node.nullable? Node.uint32? node = some d ↔ Dimension [node] d := by
  constructor
  · intro h
    cases node with
    | null =>
      obtain rfl := Option.some.inj h
      exact .null
    | number literal =>
      obtain ⟨n, hn, rfl⟩ := Option.map_eq_some_iff.mp h
      obtain ⟨⟨hsign, hfraction, hexponent⟩, hd⟩ := Number.toNat?_eq_some_iff.mp (Node.uint32?_number_eq_some_iff.mp hn)
      exact .literal hsign hfraction hexponent hd
    | _ => cases h
  · rintro (_ | _ | ⟨hsign, hfraction, hexponent, hd⟩)
    · rfl
    · have hn := Node.uint32?_number_eq_some_iff.mpr (Number.toNat?_eq_some_iff.mpr ⟨⟨hsign, hfraction, hexponent⟩, hd⟩)
      exact Option.map_eq_some_iff.mpr ⟨_, hn, rfl⟩

/-- The dimension is read as the values under its name give it. -/
theorem field?_dimension_iff (hvalues : (Node.valuesOf named "dimension").length ≤ 1) {d : Option UInt32} :
    Node.field? (Node.known fieldNames named) "dimension" (some none) (Node.nullable? Node.uint32?) = some d ↔
      Dimension (Node.valuesOf named "dimension") d := by
  rw [Node.field?_eq_some_iff (by decide) hvalues]
  simp only [nullable?_uint32?_eq_some_iff]
  constructor
  · rintro (⟨hvalues, hd⟩ | ⟨node, hvalues, hd⟩)
    · obtain rfl := Option.some.inj hd
      rw [hvalues]
      exact .missing
    · rwa [hvalues]
  · intro h
    cases hvalues : Node.valuesOf named "dimension" with
    | nil =>
      rw [hvalues] at h
      cases h
      exact Or.inl ⟨rfl, rfl⟩
    | cons node rest =>
      rw [hvalues] at h
      obtain rfl : rest = [] := by cases h <;> rfl
      exact Or.inr ⟨node, rfl, h⟩

theorem Dimension.length_le {values : List Node} {d : Option UInt32} (h : Dimension values d) : values.length ≤ 1 := by
  cases h <;> simp

/-- No name of a field is there twice in an object that holds a spec. -/
theorem HeldBy.length_le (h : s.HeldBy named) : ∀ name ∈ fieldNames, (Node.valuesOf named name).length ≤ 1 := by
  obtain ⟨kind, hkind, -⟩ := h.shape
  obtain ⟨numeric, hnumeric, -⟩ := h.numeric
  have hdimension := h.dimension.length_le
  simp [fieldNames, hkind, hnumeric, hdimension]

/-- With no name of a field there twice, the three fields are read as those of a spec exactly if the object holds it. -/
theorem fields_iff_heldBy (hlength : ∀ name ∈ fieldNames, (Node.valuesOf named name).length ≤ 1) :
    (Node.field? (Node.known fieldNames named) "kind" none Shape.ofNode? = some s.shape ∧
        Node.field? (Node.known fieldNames named) "numeric" none Numeric.ofNode? = some s.numeric ∧
          Node.field? (Node.known fieldNames named) "dimension" (some none) (Node.nullable? Node.uint32?) =
            some s.dimension) ↔
      s.HeldBy named := by
  rw [Node.field?_required_iff (by decide) (hlength "kind" (by decide)),
    Node.field?_required_iff (by decide) (hlength "numeric" (by decide)),
    field?_dimension_iff (hlength "dimension" (by decide))]
  simp only [Shape.ofNode?_eq_some_iff, Numeric.ofNode?_eq_some_iff]
  exact ⟨fun ⟨hshape, hnumeric, hdimension⟩ => ⟨hshape, hnumeric, hdimension⟩, fun h => ⟨h.shape, h.numeric, h.dimension⟩⟩

/-- A spec is read from an object exactly if the object holds it. -/
theorem ofNode?_object_eq_some_iff {members : List (Quoted × Node)} (hmembers : Node.Named members named) :
    ofNode? (Node.object members) = some s ↔ s.HeldBy named := by
  simp only [ofNode?, Option.bind_eq_bind, Option.bind_eq_some_iff, Node.fields?_object_eq_some_iff hmembers]
  constructor
  · rintro ⟨_, ⟨hlength, rfl⟩, shape, hshape, numeric, hnumeric, dimension, hdimension, heq⟩
    obtain rfl := Option.some.inj heq
    exact (fields_iff_heldBy hlength).mp ⟨hshape, hnumeric, hdimension⟩
  · intro h
    obtain ⟨hshape, hnumeric, hdimension⟩ := (fields_iff_heldBy h.length_le).mpr h
    exact ⟨_, ⟨h.length_le, rfl⟩, _, hshape, _, hnumeric, _, hdimension, rfl⟩

theorem ofJson_eq_ok_iff {text : String} : ofJson text = .ok s ↔ (Node.ofText? text).bind ofNode? = some s := by
  unfold ofJson
  cases (Node.ofText? text).bind ofNode? <;> simp

/-- A spec is read from the text of an object exactly if the object holds it. -/
theorem ofJson_object_eq_ok_iff {members : List (Quoted × Node)} {text : String} (hmembers : Node.Named members named)
    (htext : (Node.object members).SpelledBy text) : ofJson text = .ok s ↔ s.HeldBy named := by
  rw [ofJson_eq_ok_iff, Node.ofText?_eq_some_iff.mpr htext, Option.bind_some, ofNode?_object_eq_some_iff hmembers]

/-! ## What is written -/

/-- The members of a written spec, by their names. -/
def entries (s : Spec) : List (String × Node) :=
  ("kind", s.shape.toNode) :: ("numeric", s.numeric.toNode) :: s.dimensionField

theorem written_dimensionField (s : Spec) : ∀ entry ∈ s.dimensionField, entry.2.Written := by
  unfold dimensionField
  split
  · rw [List.forall_mem_singleton]
    exact Node.written_number (Number.proper_ofNat _)
  · nofun

theorem spelledBy_toJson (s : Spec) : s.toNode.SpelledBy s.toJson := by
  have hwritten : (Node.ofFields s.entries).Written := by
    refine Node.written_ofFields ?_
    rw [entries, List.forall_mem_cons, List.forall_mem_cons]
    exact ⟨Node.written_ofString _, Node.written_ofString _, s.written_dimensionField⟩
  exact hwritten.spelledBy_text

/-- A written spec is held by its members. -/
theorem heldBy_entries (s : Spec) : s.HeldBy s.entries := by
  obtain ⟨shape, numeric, dimension⟩ := s
  cases dimension with
  | none => exact ⟨⟨_, rfl, Node.chooses_ofString _⟩, ⟨_, rfl, Node.chooses_ofString _⟩, .missing⟩
  | some d =>
    obtain ⟨⟨hsign, hfraction, hexponent⟩, hd⟩ := Number.toNat?_eq_some_iff.mp (Number.toNat?_ofNat d.toNat)
    exact ⟨⟨_, rfl, Node.chooses_ofString _⟩, ⟨_, rfl, Node.chooses_ofString _⟩, .literal hsign hfraction hexponent hd⟩

/-- An object whose members have names holds a spec, whatever their order and the members of other names among them, exactly
if that spec is read from its text; and the text that a spec is written as is read as that spec. -/
theorem ofJson_exact :
    (∀ (members : List (Quoted × Node)) (named : List (String × Node)) (text : String),
      Node.Named members named → (Node.object members).SpelledBy text →
        ∀ s : Spec, ofJson text = .ok s ↔ s.HeldBy named) ∧
      ∀ s : Spec, ofJson s.toJson = .ok s :=
  ⟨fun _ _ _ hmembers htext _ => ofJson_object_eq_ok_iff hmembers htext,
    fun s => (ofJson_object_eq_ok_iff (Node.named_ofFields s.entries) s.spelledBy_toJson).mpr s.heldBy_entries⟩

/-- The fields of a line in another order, its shape chosen by an object, with two members of one other name. -/
theorem ofJson_exact_line :
    ofJson "\x7b\"dimension\": 3, \"note\": [], \"kind\": \x7b\"Line\": null\x7d,\n\"note\": -0.5, \"numeric\": \"float\"\x7d" =
      .ok ⟨.line, .float, some 3⟩ := by
  refine (ofJson_exact.1
    [(Quoted.encode "dimension", .number ⟨false, ['3'], [], []⟩), (Quoted.encode "note", .array []),
      (Quoted.encode "kind", .object [(Quoted.encode "Line", .null)]),
      (Quoted.encode "note", .number ⟨true, ['0'], ['.', '5'], []⟩), (Quoted.encode "numeric", Node.ofString "float")]
    [("dimension", .number ⟨false, ['3'], [], []⟩), ("note", .array []),
      ("kind", .object [(Quoted.encode "Line", .null)]), ("note", .number ⟨true, ['0'], ['.', '5'], []⟩),
      ("numeric", Node.ofString "float")] _ ?_ ?_ _).mpr ⟨?_, ?_, ?_⟩
  · exact Node.namedMembers?_eq_some_iff.mp rfl
  · exact Token.spelling_of_readAll? (by decide +kernel)
  · exact ⟨_, rfl, .object (Quoted.says_encode "Line")⟩
  · exact ⟨_, rfl, .string (Quoted.says_encode "float")⟩
  · exact .literal rfl rfl rfl rfl

end Spec

end GeometrySource
