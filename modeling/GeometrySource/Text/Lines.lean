/-!
# Lines

How many lines a text has, and what it ends in.
-/

namespace GeometrySource.Text

/-- The number of lines of a text: every line feed ends one, and what follows the last line feed is one more unless it is
empty. -/
def lineCount (text : String) : Nat :=
  let characters := text.toList
  let ended := characters.count '\n'
  match characters.getLast? with
  | none => ended
  | some c => if c = '\n' then ended else ended + 1

/-- Whether a text ends in the characters of `ending`. -/
def endsIn (text ending : String) : Bool :=
  ending.toList.isSuffixOf text.toList

end GeometrySource.Text
