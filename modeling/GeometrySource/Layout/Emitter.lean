import GeometrySource.Text.Lines

/-!
# Emitters

An emitter collects text line by line under a stack of indentation tokens. Indentation is put down once for each line, in
front of its first character, so that a line can be assembled from several writes and an empty line stays empty.
-/

namespace GeometrySource

/-- Text under construction. -/
structure Emitter where
  /-- What has been written so far. -/
  text : String := ""
  /-- The indentation tokens, innermost first. -/
  indents : List String := []
  /-- Whether no character of the current line has been written yet. -/
  atLineStart : Bool := true
  deriving DecidableEq, Repr

namespace Emitter

/-- The number of indentation tokens. -/
def depth (e : Emitter) : Nat :=
  e.indents.length

/-- What stands in front of a line: the indentation tokens, outermost first. -/
def margin (e : Emitter) : String :=
  String.join e.indents.reverse

/-- Ends the current line. -/
def endLine (e : Emitter) : Emitter :=
  { e with text := e.text.push '\n', atLineStart := true }

/-- Writes one character. A line feed ends the line; any other character has the margin put in front of it if it is the
first of its line. -/
def put (e : Emitter) (c : Char) : Emitter :=
  if c = '\n' then
    e.endLine
  else if e.atLineStart then
    { e with text := (e.text ++ e.margin).push c, atLineStart := false }
  else
    { e with text := e.text.push c }

/-- Writes a text, which may hold line feeds. -/
def write (e : Emitter) (text : String) : Emitter :=
  text.toList.foldl put e

/-- Writes a text and ends the line. -/
def writeLine (e : Emitter) (text : String) : Emitter :=
  (e.write text).endLine

/-- Adds an indentation token for the lines that begin from now on. -/
def push (e : Emitter) (token : String) : Emitter :=
  { e with indents := token :: e.indents }

/-- Removes the innermost indentation token, if there is one. -/
def pop (e : Emitter) : Emitter :=
  { e with indents := e.indents.tail }

/-- Leaves a blank line, unless nothing has been written or a block has just been opened. -/
def separate (e : Emitter) : Emitter :=
  if e.text = "" ∨ Text.endsIn e.text "\x7b\n" then e else e.writeLine ""

/-! ### Laws of writing -/

/-- Writing nothing changes nothing. -/
@[simp]
theorem write_empty (e : Emitter) : e.write "" = e := rfl

/-- Two writes are one write of both texts. -/
theorem write_append (e : Emitter) (a b : String) : e.write (a ++ b) = (e.write a).write b := by
  simp [write]

/-- Writing a line feed ends the line. -/
@[simp]
theorem write_lineFeed (e : Emitter) : e.write "\n" = e.endLine := rfl

end Emitter

end GeometrySource
