import GeometrySource.Naming.Element
import Mathlib.Data.List.Nodup

/-!
# The cells of a matrix in order

The cells of a matrix are listed column by column, so the place of a cell in the list tells its row and its column, and
every cell has one place. A machine whose words can count the cells never meets a number that is too large on the way to
one. It makes the list exactly if the cells do not need more memory than may be asked for at once; that a word can count
them is not enough.
-/

namespace GeometrySource

/-! ## Places -/

/-- The cell at a place is the one whose row and column are the remainder and the quotient of the place. -/
theorem elements_eq_map_range (rows columns : Nat) :
    elements rows columns = (List.range (rows * columns)).map fun k => Element.at rows (k % rows) (k / rows) := by
  induction columns with
  | zero => rfl
  | succ columns ih =>
    have hcolumn : ∀ row ∈ List.range rows,
        Element.at rows ((rows * columns + row) % rows) ((rows * columns + row) / rows) =
          Element.at rows row columns := by
      intro row hrow
      have hlt : row < rows := List.mem_range.mp hrow
      rw [Nat.mul_add_mod, Nat.mod_eq_of_lt hlt, Nat.mul_add_div (Nat.zero_lt_of_lt hlt), Nat.div_eq_of_lt hlt,
        Nat.add_zero]
    calc elements rows (columns + 1)
        = elements rows columns ++ (List.range rows).map fun row => Element.at rows row columns := by
          rw [elements, List.range_succ, List.flatMap_append, List.flatMap_singleton, elements]
      _ = (List.range (rows * (columns + 1))).map fun k => Element.at rows (k % rows) (k / rows) := by
          rw [ih, Nat.mul_succ, List.range_add, List.map_append, List.map_map]
          exact congrArg _ (List.map_congr_left hcolumn).symm

theorem length_elements (rows columns : Nat) : (elements rows columns).length = rows * columns := by
  rw [elements_eq_map_range, List.length_map, List.length_range]

/-- The index of a cell is its place in the list. -/
theorem index_at_place (rows k : Nat) : (Element.at rows (k % rows) (k / rows)).index = k :=
  Nat.div_add_mod' k rows

theorem getElem?_elements {rows columns k : Nat} (h : k < rows * columns) :
    (elements rows columns)[k]? = some (Element.at rows (k % rows) (k / rows)) := by
  rw [elements_eq_map_range, List.getElem?_map, List.getElem?_range h, Option.map_some]

theorem mem_elements_iff {rows columns : Nat} {e : Element} :
    e ∈ elements rows columns ↔ ∃ column < columns, ∃ row < rows, Element.at rows row column = e := by
  simp only [elements, List.mem_flatMap, List.mem_map, List.mem_range]

/-- No cell is listed twice, since no two places have one index. -/
theorem nodup_map_index (rows columns : Nat) : ((elements rows columns).map Element.index).Nodup := by
  have hindex : (elements rows columns).map Element.index = List.range (rows * columns) := by
    rw [elements_eq_map_range, List.map_map]
    exact (List.map_congr_left fun k _ => index_at_place rows k).trans (List.map_id' _)
  rw [hindex]
  exact List.nodup_range

/-! ## Cells -/

/-- The row and the column of a cell. -/
def Element.cell (e : Element) : Nat × Nat :=
  (e.row, e.column)

/-- The row and the column tell the cells of a matrix apart. -/
theorem eq_of_cell_eq {rows columns : Nat} {e f : Element} (he : e ∈ elements rows columns)
    (hf : f ∈ elements rows columns) (h : e.cell = f.cell) : e = f := by
  obtain ⟨column, -, row, -, rfl⟩ := mem_elements_iff.mp he
  obtain ⟨otherColumn, -, otherRow, -, rfl⟩ := mem_elements_iff.mp hf
  obtain ⟨hrow, hcolumn⟩ := Prod.mk.inj h
  exact congrArg₂ (Element.at rows) hrow hcolumn

theorem mem_map_cell_iff {rows columns row column : Nat} :
    (row, column) ∈ (elements rows columns).map Element.cell ↔ row < rows ∧ column < columns := by
  rw [List.mem_map]
  constructor
  · rintro ⟨e, he, hcell⟩
    obtain ⟨c, hc, r, hr, rfl⟩ := mem_elements_iff.mp he
    obtain ⟨rfl, rfl⟩ := Prod.mk.inj hcell
    exact ⟨hr, hc⟩
  · rintro ⟨hrow, hcolumn⟩
    exact ⟨Element.at rows row column, mem_elements_iff.mpr ⟨column, hcolumn, row, hrow, rfl⟩, rfl⟩

/-- Every pair of a row and a column of the matrix is listed once, and no other pair is listed. -/
theorem count_cell (rows columns row column : Nat) :
    ((elements rows columns).map Element.cell).count (row, column) = if row < rows ∧ column < columns then 1 else 0 := by
  have hnodup : ((elements rows columns).map Element.cell).Nodup :=
    (nodup_map_index rows columns).of_map.map_on fun e he f hf => eq_of_cell_eq he hf
  rw [hnodup.count]
  exact if_congr mem_map_cell_iff rfl rfl

/-! ## The limits of a machine -/

namespace Machine

variable {m : Machine} {rows columns row column : Nat}

theorem number_of_le {n : Nat} (h : n ≤ m.largestNumber) : m.number n = .ok n :=
  if_pos h

theorem reserve_of_le {cells : Nat} (h : cells * m.cellBytes ≤ m.largestAllocation) : m.reserve cells = .ok #[] :=
  if_pos h

theorem reserve_of_lt {cells : Nat} (h : m.largestAllocation < cells * m.cellBytes) :
    m.reserve cells = .error .memory :=
  if_neg (Nat.not_le_of_lt h)

/-- The numbers on the way to a cell are not larger than the number of cells. -/
theorem elementAt_of_le (h : rows * columns ≤ m.largestNumber) (hrow : row < rows) (hcolumn : column < columns) :
    m.elementAt rows row column = .ok (Element.at rows row column) := by
  have hindex : column * rows + row < rows * columns := by
    calc column * rows + row < column * rows + rows := Nat.add_lt_add_left hrow _
      _ = rows * (column + 1) := by rw [Nat.mul_succ, Nat.mul_comm]
      _ ≤ rows * columns := Nat.mul_le_mul_left rows hcolumn
  have hrows : rows ≤ rows * columns := Nat.le_mul_of_pos_right rows (Nat.zero_lt_of_lt hcolumn)
  have hcolumns : columns ≤ rows * columns := Nat.le_mul_of_pos_left columns (Nat.zero_lt_of_lt hrow)
  have hrowNumber : m.number (row + 1) = .ok (row + 1) := number_of_le (by omega)
  have hcolumnNumber : m.number (column + 1) = .ok (column + 1) := number_of_le (by omega)
  have hstart : m.number (column * rows) = .ok (column * rows) := number_of_le (by omega)
  have hplace : m.number (column * rows + row) = .ok (column * rows + row) := number_of_le (by omega)
  simp only [elementAt, hrowNumber, hcolumnNumber, hstart, hplace, bind, Except.bind, Element.at]

/-- A loop whose every pass puts something behind what there is. -/
theorem foldlM_eq_append_flatMap {ε α β : Type} {pass : Array β → α → Except ε (Array β)} {added : α → List β}
    {items : List α} (h : ∀ a ∈ items, ∀ found, pass found a = .ok (found ++ (added a).toArray)) (found : Array β) :
    items.foldlM pass found = .ok (found ++ (items.flatMap added).toArray) := by
  induction items generalizing found with
  | nil => simp [pure, Except.pure]
  | cons a rest ih =>
    obtain ⟨ha, hrest⟩ := List.forall_mem_cons.mp h
    simp only [List.foldlM_cons, ha, bind, Except.bind, ih hrest, List.flatMap_cons, Array.append_assoc,
      List.append_toArray]

/-- Where the number of cells fits into a word and the cells into memory, a machine makes the list of them: no number on
the way is too large. -/
theorem elements_of_le (h : rows * columns ≤ m.largestNumber)
    (hmemory : rows * columns * m.cellBytes ≤ m.largestAllocation) :
    m.elements rows columns = .ok (GeometrySource.elements rows columns).toArray := by
  have hpass : ∀ column ∈ List.range columns, ∀ row ∈ List.range rows, ∀ found : Array Element,
      (do let e ← m.elementAt rows row column; .ok (found.push e) : Except Overflow (Array Element)) =
        .ok (found ++ [Element.at rows row column].toArray) := by
    intro column hcolumn row hrow found
    simp only [elementAt_of_le h (List.mem_range.mp hrow) (List.mem_range.mp hcolumn), bind, Except.bind,
      Array.push_eq_append]
  have hloops := foldlM_eq_append_flatMap
    (fun column hcolumn found => foldlM_eq_append_flatMap (hpass column hcolumn) found) #[]
  simp only [← List.map_eq_flatMap, Array.empty_append] at hloops
  simp only [elements, number_of_le h, reserve_of_le hmemory, bind, Except.bind] at hloops ⊢
  exact hloops

/-- Where the cells do not fit into memory, no list is begun. -/
theorem elements_of_lt (h : rows * columns ≤ m.largestNumber)
    (hmemory : m.largestAllocation < rows * columns * m.cellBytes) : m.elements rows columns = .error .memory := by
  simp only [elements, number_of_le h, reserve_of_lt hmemory, bind, Except.bind]

end Machine

/-- The cells of a matrix are listed column by column, on every machine that can count them in a word:
1. If the memory for the cells is more than may be asked for at once, there is no list.
2. Otherwise the list is made, since no number on the way to a cell is too large, and there are as many cells in it as the
   product of rows and columns.
3. The cell at a place then has this place as its index, and its row and its column are the remainder and the quotient of
   the place by the number of rows.
4. Every pair of a row and a column of the matrix is listed once, and no other pair is listed. -/
theorem column_by_column (m : Machine) {rows columns : Nat} (h : rows * columns ≤ m.largestNumber) :
    (m.largestAllocation < rows * columns * m.cellBytes → m.elements rows columns = .error .memory) ∧
      (rows * columns * m.cellBytes ≤ m.largestAllocation →
        ∃ made, m.elements rows columns = .ok made ∧ made.size = rows * columns ∧
          (∀ k < rows * columns, ∃ e, made[k]? = some e ∧ e.index = k ∧ e.row = k % rows ∧ e.column = k / rows) ∧
          ∀ row column, (made.toList.map Element.cell).count (row, column) =
            if row < rows ∧ column < columns then 1 else 0) := by
  refine ⟨Machine.elements_of_lt h, fun hmemory => ⟨_, Machine.elements_of_le h hmemory, ?_, fun k hk => ?_, ?_⟩⟩
  · rw [List.size_toArray, length_elements]
  · rw [List.getElem?_toArray]
    exact ⟨_, getElem?_elements hk, index_at_place rows k, rfl, rfl⟩
  · exact count_cell rows columns

/-- Two rows and three columns, and one column that is too long, with words of sixty-four bits. -/
theorem column_by_column_six :
    2 * 3 ≤ Machine.sixtyFour.largestNumber ∧
      (∃ made, Machine.sixtyFour.elements 2 3 = .ok made ∧ made.size = 6 ∧
        (∃ e, made[5]? = some e ∧ e.index = 5 ∧ e.row = 1 ∧ e.column = 2) ∧
        (made.toList.map Element.cell).count (1, 2) = 1 ∧ (made.toList.map Element.cell).count (2, 1) = 0) ∧
      Nat.pow 2 60 * 1 ≤ Machine.sixtyFour.largestNumber ∧
        Machine.sixtyFour.elements (Nat.pow 2 60) 1 = .error .memory := by
  have hsmall : 2 * 3 ≤ Machine.sixtyFour.largestNumber := by decide
  have hlarge : Nat.pow 2 60 * 1 ≤ Machine.sixtyFour.largestNumber := by decide
  obtain ⟨made, hmade, hsize, hplace, hcount⟩ := (column_by_column .sixtyFour hsmall).2 (by decide)
  exact ⟨hsmall, ⟨made, hmade, hsize, hplace 5 (by decide), hcount 1 2, hcount 2 1⟩, hlarge,
    (column_by_column .sixtyFour hlarge).1 (by decide)⟩

/-- A word of sixty-four bits can count the cells of a column of this length, but no list of them is made. -/
theorem no_elements_beyond_memory :
    ¬∀ rows columns, rows * columns ≤ Machine.sixtyFour.largestNumber →
      ∃ made, Machine.sixtyFour.elements rows columns = .ok made ∧ made.size = rows * columns := by
  intro hall
  obtain ⟨made, hmade, -⟩ := hall (Nat.pow 2 60) 1 (by decide)
  rw [Machine.elements_of_lt (by decide) (by decide)] at hmade
  cases hmade

end GeometrySource
