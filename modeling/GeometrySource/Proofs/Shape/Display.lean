import GeometrySource.Proofs.Naming.Word
import GeometrySource.Proofs.Text.Edge
import GeometrySource.Shape.Spec

/-!
# What is shown of a spec tells it apart

The name of the shape ends at the opening bracket, the keyword of the number type at the comma or the closing bracket, and
the dimension at the closing bracket. So a spec can be read back from what is shown of it, whatever stands behind it.
-/

namespace GeometrySource

open Text

/-- The name tells shapes apart. -/
theorem Shape.name_injective {s t : Shape} (h : s.name = t.name) : s = t := by
  have hall : ∀ s ∈ Shape.all, ∀ t ∈ Shape.all, s.name = t.name → s = t := by decide
  exact hall s s.mem_all t t.mem_all h

/-- The keyword tells number types apart. -/
theorem Numeric.keyword_injective {n m : Numeric} (h : n.keyword = m.keyword) : n = m := by
  have hall : ∀ n ∈ Numeric.all, ∀ m ∈ Numeric.all, n.keyword = m.keyword → n = m := by decide
  exact hall n n.mem_all m m.mem_all h

namespace Spec

/-- What is shown behind the number type: the dimension, if one is written, and the closing bracket. -/
def closing : Option UInt32 → String
  | some d => ", " ++ (d.toNat.repr ++ ">")
  | none => ">"

theorem display_eq (s : Spec) :
    s.display = s.shape.name ++ ("<" ++ (s.numeric.keyword ++ closing s.dimension)) := by
  unfold display closing
  cases s.dimension <;> simp only [String.append_assoc]

theorem begins_closing (dimension : Option UInt32) (rest : String) :
    Begins (fun c => !isWordChar c) (closing dimension ++ rest) := by
  cases dimension with
  | none => exact begins_append.mpr (Or.inl (by decide))
  | some d => exact begins_append.mpr (Or.inl (begins_append.mpr (Or.inl (by decide))))

/-- A closing bracket is no comma. -/
theorem closing_none_append_ne {d : UInt32} {rest more : String} : closing none ++ rest ≠ closing (some d) ++ more := by
  intro h
  have hhead := congrArg (fun text => text.toList.head?) h
  simp [closing] at hhead

/-- The dimension can be told from what stands behind the closing bracket. -/
theorem eq_of_closing_append_eq {dimension other : Option UInt32} {rest more : String}
    (h : closing dimension ++ rest = closing other ++ more) : dimension = other ∧ rest = more := by
  cases dimension with
  | none =>
    cases other with
    | none => exact ⟨rfl, (String.append_right_inj _).mp h⟩
    | some e => exact absurd h closing_none_append_ne
  | some d =>
    cases other with
    | none => exact absurd h.symm closing_none_append_ne
    | some e =>
      have hbracket : ∀ text, Begins (fun c => !c.isDigit) (">" ++ text) :=
        fun text => begins_append.mpr (Or.inl (by decide))
      simp only [closing, String.append_assoc, String.append_right_inj] at h
      obtain ⟨hdigits, hrest⟩ := append_inj_of_begins (fun c => isDigit_of_mem_repr) (fun c => isDigit_of_mem_repr)
        (hbracket rest) (hbracket more) h
      refine ⟨?_, (String.append_right_inj _).mp hrest⟩
      rw [UInt32.toNat_inj.mp (repr_injective hdigits)]

/-- A spec can be told from what stands behind it. -/
theorem eq_of_display_append_eq {s t : Spec} {rest more : String} (h : s.display ++ rest = t.display ++ more) :
    s = t ∧ rest = more := by
  have hbracket : ∀ text, Begins (fun c => !isWordChar c) ("<" ++ text) :=
    fun text => begins_append.mpr (Or.inl (by decide))
  simp only [display_eq, String.append_assoc] at h
  obtain ⟨hname, hnumeric⟩ :=
    append_inj_of_begins s.shape.isWord_name.2 t.shape.isWord_name.2 (hbracket _) (hbracket _) h
  rw [String.append_right_inj] at hnumeric
  obtain ⟨hkeyword, hclosing⟩ :=
    append_inj_of_begins s.numeric.isWord_keyword.2 t.numeric.isWord_keyword.2 (begins_closing _ _) (begins_closing _ _)
      hnumeric
  obtain ⟨hdimension, hrest⟩ := eq_of_closing_append_eq hclosing
  refine ⟨?_, hrest⟩
  cases s
  cases t
  cases Shape.name_injective hname
  cases Numeric.keyword_injective hkeyword
  cases hdimension
  rfl

theorem display_injective {s t : Spec} (h : s.display = t.display) : s = t :=
  (eq_of_display_append_eq (congrArg (· ++ "") h)).1

end Spec

end GeometrySource
