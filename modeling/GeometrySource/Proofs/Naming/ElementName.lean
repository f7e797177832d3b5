import GeometrySource.Proofs.Naming.Element
import GeometrySource.Proofs.Text.Numeral

/-!
# Which names of cells are ambiguous

The name of a cell is its row and its column in decimal numerals, without anything between them. What is read as the row may
end early or late: the name M111 is that of row 1 and column 11, and of row 11 and column 1. A numeral that takes digits from
the other is eleven or more, so cells share a name only where there are at least eleven rows and at least eleven columns.
-/

namespace GeometrySource

open Text

variable {rows columns : Nat}

theorem name_eq_iff {e f : Element} (he : e ∈ elements rows columns) (hf : f ∈ elements rows columns) :
    e.name = f.name ↔ (e.row + 1).repr ++ (e.column + 1).repr = (f.row + 1).repr ++ (f.column + 1).repr := by
  obtain ⟨column, -, row, -, rfl⟩ := mem_elements_iff.mp he
  obtain ⟨otherColumn, -, otherRow, -, rfl⟩ := mem_elements_iff.mp hf
  simp only [Element.at, String.append_assoc, String.append_right_inj]

/-- Cells of one name are one cell if their rows have the same number of digits. -/
theorem eq_of_name_eq_of_length_eq {e f : Element} (he : e ∈ elements rows columns) (hf : f ∈ elements rows columns)
    (hlength : (e.row + 1).repr.length = (f.row + 1).repr.length) (h : e.name = f.name) : e = f := by
  have hlists := congrArg String.toList ((name_eq_iff he hf).mp h)
  rw [String.toList_append, String.toList_append] at hlists
  obtain ⟨hrow, hcolumn⟩ := List.append_inj hlists (by simpa only [String.length_toList] using hlength)
  have hrow' := repr_injective (String.toList_inj.mp hrow)
  have hcolumn' := repr_injective (String.toList_inj.mp hcolumn)
  exact eq_of_cell_eq he hf (Prod.ext (Nat.succ.inj hrow') (Nat.succ.inj hcolumn'))

/-- Cells of one name are one cell if there are at most ten rows or at most ten columns. -/
theorem eq_of_name_eq_of_le_ten (hsize : rows ≤ 10 ∨ columns ≤ 10) {e f : Element} (he : e ∈ elements rows columns)
    (hf : f ∈ elements rows columns) (h : e.name = f.name) : e = f := by
  obtain ⟨herow, hecolumn⟩ := mem_map_cell_iff.mp (List.mem_map_of_mem (f := Element.cell) he)
  obtain ⟨hfrow, hfcolumn⟩ := mem_map_cell_iff.mp (List.mem_map_of_mem (f := Element.cell) hf)
  have hpairs := eq_or_eleven_le_of_repr_append_eq (Nat.succ_pos e.row) (Nat.succ_pos e.column) (Nat.succ_pos f.row)
    (Nat.succ_pos f.column) ((name_eq_iff he hf).mp h)
  rcases hpairs with ⟨hrow, hcolumn⟩ | hlarge | hlarge
  · exact eq_of_cell_eq he hf (Prod.ext (Nat.succ.inj hrow) (Nat.succ.inj hcolumn))
  · omega
  · omega

/-- Row 1 and column 11 have the name of row 11 and column 1. -/
theorem not_nodup_names (hrows : 11 ≤ rows) (hcolumns : 11 ≤ columns) :
    ¬((elements rows columns).map Element.name).Nodup := by
  intro hnodup
  have hfirst : Element.at rows 0 10 ∈ elements rows columns :=
    mem_elements_iff.mpr ⟨10, by omega, 0, by omega, rfl⟩
  have hsecond : Element.at rows 10 0 ∈ elements rows columns :=
    mem_elements_iff.mpr ⟨0, by omega, 10, by omega, rfl⟩
  have hname : (Element.at rows 0 10).name = (Element.at rows 10 0).name :=
    show "M" ++ Nat.repr 1 ++ Nat.repr 11 = "M" ++ Nat.repr 11 ++ Nat.repr 1 by decide
  have hsame := List.inj_on_of_nodup_map hnodup hfirst hsecond hname
  have hrow : (0 : Nat) = 10 := congrArg Element.row hsame
  exact absurd hrow (by decide)

/-- The names of the cells of a matrix are distinct exactly if there are at most ten rows or at most ten columns. In a matrix
of any size, the rows of two cells that share a name have numerals of different lengths. -/
theorem distinct_names (rows columns : Nat) :
    (((elements rows columns).map Element.name).Nodup ↔ rows ≤ 10 ∨ columns ≤ 10) ∧
      ∀ e ∈ elements rows columns, ∀ f ∈ elements rows columns, e ≠ f → e.name = f.name →
        (e.row + 1).repr.length ≠ (f.row + 1).repr.length := by
  refine ⟨⟨fun hnodup => ?_, fun hsize => ?_⟩, fun e he f hf hne hname hlength => ?_⟩
  · by_contra hlarge
    rw [not_or, Nat.not_le, Nat.not_le] at hlarge
    exact not_nodup_names hlarge.1 hlarge.2 hnodup
  · exact (nodup_map_index rows columns).of_map.map_on fun e he f hf => eq_of_name_eq_of_le_ten hsize he hf
  · exact hne (eq_of_name_eq_of_length_eq he hf hlength hname)

/-- Ten rows are enough for distinct names with any number of columns, such as three hundred. Of twelve rows and eleven
columns, two cells share a name, and one of them has a row of one digit and the other a row of two. -/
theorem distinct_names_three_hundred :
    ((elements 10 300).map Element.name).Nodup ∧
      ∃ e ∈ elements 12 11, ∃ f ∈ elements 12 11, (e ≠ f ∧ e.name = f.name) ∧
        (e.row + 1).repr.length ≠ (f.row + 1).repr.length := by
  have hfirst : Element.at 12 0 10 ∈ elements 12 11 := mem_elements_iff.mpr ⟨10, by decide, 0, by decide, rfl⟩
  have hsecond : Element.at 12 10 0 ∈ elements 12 11 := mem_elements_iff.mpr ⟨0, by decide, 10, by decide, rfl⟩
  have hne : Element.at 12 0 10 ≠ Element.at 12 10 0 := by decide
  have hname : (Element.at 12 0 10).name = (Element.at 12 10 0).name := by decide
  exact ⟨(distinct_names 10 300).1.mpr (Or.inl (Nat.le_refl 10)), _, hfirst, _, hsecond, ⟨hne, hname⟩,
    (distinct_names 12 11).2 _ hfirst _ hsecond hne hname⟩

/-- Of eleven rows and eleven columns, row 11 and column 1 have the name of row 1 and column 11. -/
theorem shared_name_eleven :
    11 * 11 < 2 ^ 16 ∧ (elements 11 11)[10]?.map Element.name = some "M111" ∧
      (elements 11 11)[110]?.map Element.name = some "M111" ∧ ¬((elements 11 11).map Element.name).Nodup := by
  refine ⟨by decide, ?_, ?_, not_nodup_names (Nat.le_refl 11) (Nat.le_refl 11)⟩
  · rw [getElem?_elements (by decide)]
    decide
  · rw [getElem?_elements (by decide)]
    decide

end GeometrySource
