/-!
# Names up to letter case

Names of shapes and number types are looked up without regard to the case of the letters `A` to `Z`. Other letters keep
their case, and nothing is trimmed.
-/

namespace GeometrySource.Text

/-- The characters of a text with `A` to `Z` in lower case. -/
def asciiFold (text : String) : List Char :=
  text.toList.map Char.toLower

/-- Equality up to the case of the letters `A` to `Z`. -/
def equalsIgnoringCase (a b : String) : Bool :=
  asciiFold a == asciiFold b

end GeometrySource.Text
