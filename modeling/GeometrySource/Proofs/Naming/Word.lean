import GeometrySource.Context
import GeometrySource.Declaration.Field
import GeometrySource.Naming.Component
import GeometrySource.Proofs.Text.Indentation
import GeometrySource.Proofs.Text.Lowercase
import GeometrySource.Proofs.Text.Numeral

/-!
# Names are words

Every name that a declaration puts together, and the parameter spelling of every member name that is a word, is one
word. The parameter spelling of a parameter spelling is the same again.
-/

namespace GeometrySource

open Text

theorem Numeric.isWord_keyword (n : Numeric) : IsWord n.keyword := by
  cases n <;> decide

theorem Numeric.isWord_suffix (n : Numeric) : IsWord n.suffix := by
  cases n <;> decide

theorem Numeric.isWord_native (n : Numeric) : IsWord n.native := by
  cases n <;> decide

theorem Shape.isWord_name (s : Shape) : IsWord s.name := by
  cases s <;> decide

theorem Shape.isWord_parameter (s : Shape) : IsWord s.parameter := by
  cases s <;> decide

theorem TypeFamily.isWord_base (f : TypeFamily) : IsWord f.base := by
  cases f with
  | shape s => exact s.isWord_name
  | point => decide
  | vector => decide
  | size => decide

/-- A number in digits is a word. -/
theorem isWord_repr (n : Nat) : IsWord n.repr := by
  refine ⟨?_, ?_⟩
  · intro hempty
    have hlist : Nat.toDigits 10 n = [] := by rw [← Nat.toList_repr, hempty, String.toList_empty]
    simp at hlist
  · intro c hc
    simp [isWordChar, Char.isAlphanum, isDigit_of_mem_repr hc]

/-- Every type name is a word. -/
theorem isWord_typeName (family : TypeFamily) (n : Numeric) (dimension : Nat) :
    IsWord (typeName family n dimension) := by
  have hbase := family.isWord_base
  unfold typeName
  split
  · exact (hbase.append (isWord_repr dimension).2).append n.isWord_suffix.2
  · exact hbase.append n.isWord_suffix.2

/-- The name of a declared type is a word. -/
theorem Context.isWord_name (ctx : Context) : IsWord ctx.name :=
  isWord_typeName _ _ _

theorem Declaration.Field.isWord_type (f : Field) (ctx : Context) : IsWord (f.type ctx) := by
  unfold type typeFor
  split
  · exact ctx.numeric.isWord_keyword
  · exact isWord_typeName _ _ _
  · exact isWord_typeName _ _ _

/-- The name of every reading method is a word. -/
theorem Declaration.Field.isWord_readMethod (f : Field) (ctx : Context) : IsWord (f.readMethod ctx) := by
  have hread : IsWord "Read" := by decide
  unfold readMethod
  split
  · exact hread.append ctx.numeric.isWord_native.2
  · exact hread.append (f.isWord_type ctx).2
  · exact hread.append (f.isWord_type ctx).2

/-! ## Parameter spellings -/

theorem lowercase_ne_nil (c : Char) : lowercase c ≠ [] := by
  rcases lowercase_cases c with ⟨-, h⟩ | ⟨r, -, -, h⟩ | ⟨-, -, h⟩ <;> simp [h]

/-- The parameter spelling of a word is a word. -/
theorem isWord_parameterName {name : String} (h : IsWord name) : IsWord (parameterName name) := by
  obtain ⟨hne, hchars⟩ := h
  unfold parameterName
  cases hname : name.toList with
  | nil => exact absurd (String.toList_eq_nil_iff.mp hname) hne
  | cons c rest =>
    rw [hname] at hchars
    refine ⟨?_, ?_⟩
    · simp [← String.toList_inj, lowercase_ne_nil]
    · intro d hd
      rw [String.toList_ofList, List.mem_append] at hd
      rcases hd with hd | hd
      · exact isWordChar_of_mem_lowercase (hchars c List.mem_cons_self) hd
      · exact hchars d (List.mem_cons_of_mem _ hd)

/-- A parameter spelling is its own parameter spelling. -/
theorem parameterName_parameterName (name : String) : parameterName (parameterName name) = parameterName name := by
  cases hname : name.toList with
  | nil => simp [parameterName, hname]
  | cons c rest =>
    obtain ⟨d, more, hlower⟩ := List.exists_cons_of_ne_nil (lowercase_ne_nil c)
    have hd : lowercase d = [d] := lowercase_of_head?_lowercase (by rw [hlower, List.head?_cons])
    simp [parameterName, hname, hlower, hd]

/-! ## Components -/

/-- The names of all components and of all axes. -/
def componentNames : List String :=
  ["X", "Y", "Z", "W"] ++ ((List.range 16).map fun i => "V" ++ i.repr) ++ ["Width", "Height", "Depth"]

/-- The names in a list are those of its components. -/
theorem name_mem_of_mem_ofNames {names : List String} {c : Component} (h : c ∈ Component.ofNames names) :
    c.name ∈ names := by
  obtain ⟨⟨name, index⟩, hmem, rfl⟩ := List.mem_map.mp h
  exact List.fst_mem_of_mem_zipIdx hmem

/-- Every component has one of the names. -/
theorem name_mem_of_mem_components {dimension : Nat} {c : Component} (h : c ∈ components dimension) :
    c.name ∈ componentNames := by
  unfold components at h
  split at h
  · have hname := List.mem_of_mem_take (name_mem_of_mem_ofNames h)
    simp only [componentNames, List.mem_append]
    exact Or.inl (Or.inl hname)
  · split at h
    · rename_i hwide
      obtain ⟨i, hi, hname⟩ := List.mem_map.mp (name_mem_of_mem_ofNames h)
      rw [List.mem_range] at hi
      simp only [componentNames, List.mem_append, List.mem_map, List.mem_range]
      exact Or.inl (Or.inr ⟨i, by omega, hname⟩)
    · cases h

/-- Every axis has one of the names. -/
theorem name_mem_of_mem_sizeAxes {dimension : Nat} {axes : List Component} (haxes : sizeAxes dimension = .ok axes)
    {c : Component} (h : c ∈ axes) : c.name ∈ componentNames := by
  unfold sizeAxes at haxes
  split at haxes
  · cases haxes
    have hname := List.mem_of_mem_take (name_mem_of_mem_ofNames h)
    simp only [componentNames, List.mem_append]
    exact Or.inr hname
  · cases haxes

/-- The names of components and axes are words, and none is spelled like the parameter of a conversion. -/
theorem isWord_of_mem_componentNames {name : String} (h : name ∈ componentNames) :
    IsWord name ∧ parameterName name ≠ "value" := by
  have hall : ∀ name ∈ componentNames, IsWord name ∧ parameterName name ≠ "value" := by decide
  exact hall name h

/-! ## Names stay on one line -/

theorem Text.IsWord.singleLine {text : String} (h : IsWord text) : SingleLine text := by
  intro hmem
  exact absurd (h.2 _ hmem) (by decide)

@[simp]
theorem Numeric.singleLine_keyword (n : Numeric) : SingleLine n.keyword := n.isWord_keyword.singleLine

@[simp]
theorem Numeric.singleLine_native (n : Numeric) : SingleLine n.native := n.isWord_native.singleLine

@[simp]
theorem Shape.singleLine_name (s : Shape) : SingleLine s.name := s.isWord_name.singleLine

@[simp]
theorem Shape.singleLine_parameter (s : Shape) : SingleLine s.parameter := s.isWord_parameter.singleLine

@[simp]
theorem singleLine_repr (n : Nat) : SingleLine n.repr := (isWord_repr n).singleLine

@[simp]
theorem singleLine_typeName (family : TypeFamily) (n : Numeric) (dimension : Nat) :
    SingleLine (typeName family n dimension) :=
  (isWord_typeName family n dimension).singleLine

/-- The description of a number type stays on one line. -/
@[simp]
theorem Numeric.singleLine_description (n : Numeric) : SingleLine n.description := by
  unfold description Representation.description
  split
  · split <;> exact singleLine_of_written (.intro (by decide))
  · rw [singleLine_append]
    exact ⟨singleLine_repr _, singleLine_of_written (.intro (by decide))⟩
  · rw [singleLine_append]
    exact ⟨singleLine_repr _, singleLine_of_written (.intro (by decide))⟩

namespace Context

variable (ctx : Context)

@[simp]
theorem singleLine_shapeName (shape : Shape) (n : Numeric) : SingleLine (ctx.shapeName shape n) :=
  singleLine_typeName _ _ _

@[simp]
theorem singleLine_nameFor (n : Numeric) : SingleLine (ctx.nameFor n) := singleLine_typeName _ _ _

@[simp]
theorem singleLine_name : SingleLine ctx.name := singleLine_typeName _ _ _

@[simp]
theorem singleLine_point : SingleLine ctx.point := singleLine_typeName _ _ _

@[simp]
theorem singleLine_vector : SingleLine ctx.vector := singleLine_typeName _ _ _

@[simp]
theorem singleLine_size : SingleLine ctx.size := singleLine_typeName _ _ _

@[simp]
theorem singleLine_scalar : SingleLine ctx.scalar := ctx.numeric.singleLine_keyword

@[simp]
theorem singleLine_parameter : SingleLine ctx.parameter := ctx.shape.singleLine_parameter

@[simp]
theorem singleLine_companion : SingleLine ctx.companion := ctx.shape.singleLine_name

end Context

end GeometrySource
