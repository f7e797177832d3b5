/-!
# Matrix elements

The cells of a matrix, listed column by column, with the member name of each. A machine makes the list cell by cell, after
it has reserved the memory for all of them, and gives up where a number or the memory goes beyond its limits.
-/

namespace GeometrySource

/-- A cell of a matrix. -/
structure Element where
  name : String
  /-- The row, counted from zero. -/
  row : Nat
  /-- The column, counted from zero. -/
  column : Nat
  /-- The place in the list, counted from zero. -/
  index : Nat
  deriving DecidableEq, Repr

/-- The cell of a matrix with `rows` rows at a row and a column. Its name counts both from one. -/
def Element.at (rows row column : Nat) : Element :=
  ⟨"M" ++ (row + 1).repr ++ (column + 1).repr, row, column, column * rows + row⟩

/-- The cells of a matrix, the columns one after another. -/
def elements (rows columns : Nat) : List Element :=
  (List.range columns).flatMap fun column => (List.range rows).map fun row => Element.at rows row column

/-- Why a machine does not make a list of cells. -/
inductive Overflow
  /-- A number is larger than a word can hold. -/
  | number
  /-- The cells need more memory than may be asked for at once. -/
  | memory
  deriving DecidableEq, Repr

/-- A machine, by the number of bytes in one of its words. -/
structure Machine where
  wordBytes : Nat
  deriving DecidableEq, Repr

namespace Machine

/-- The machine with words of sixty-four bits. -/
def sixtyFour : Machine := ⟨8⟩

/-- The largest number that a word can hold. -/
def largestNumber (m : Machine) : Nat :=
  Nat.pow 2 (8 * m.wordBytes) - 1

/-- The largest number of bytes that may be asked for at once. Distances in memory are signed, so this is about half of
what a word can count. -/
def largestAllocation (m : Machine) : Nat :=
  Nat.pow 2 (8 * m.wordBytes - 1) - 1

/-- The number of bytes of a cell: three words for the place, the length and the capacity of its name, and one word each
for its row, its column and its index. -/
def cellBytes (m : Machine) : Nat :=
  6 * m.wordBytes

/-- A number, if a word can hold it. -/
def number (m : Machine) (n : Nat) : Except Overflow Nat :=
  if n ≤ m.largestNumber then .ok n else .error .number

/-- Memory for a number of cells, with no cell in it yet, if so much may be asked for. -/
def reserve (m : Machine) (cells : Nat) : Except Overflow (Array Element) :=
  if cells * m.cellBytes ≤ m.largestAllocation then .ok #[] else .error .memory

/-- The cell of a matrix at a row and a column, by the arithmetic of the machine. -/
def elementAt (m : Machine) (rows row column : Nat) : Except Overflow Element := do
  let rowNumber ← m.number (row + 1)
  let columnNumber ← m.number (column + 1)
  let start ← m.number (column * rows)
  let index ← m.number (start + row)
  .ok ⟨"M" ++ rowNumber.repr ++ columnNumber.repr, row, column, index⟩

/-- The cells of a matrix, each put behind those before it. -/
def elements (m : Machine) (rows columns : Nat) : Except Overflow (Array Element) := do
  let cells ← m.number (rows * columns)
  let reserved ← m.reserve cells
  (List.range columns).foldlM (fun found column =>
    (List.range rows).foldlM (fun found row => do
      let e ← m.elementAt rows row column
      .ok (found.push e)) found) reserved

end Machine

end GeometrySource
