import GeometrySource.Layout.Emitter

/-!
# Scripts

A script is a list of steps for an emitter. Everything that is generated is a script, so that its effect on any emitter
is one fold over its steps.
-/

namespace GeometrySource

/-- One thing for an emitter to do. -/
inductive Step
  /-- Write a text. -/
  | write (text : String)
  /-- Write a text and end the line. -/
  | line (text : String)
  /-- Add an indentation token. -/
  | push (token : String)
  /-- Remove the innermost indentation token. -/
  | pop
  /-- Leave a blank line unless a block has just been opened. -/
  | separate
  deriving DecidableEq, Repr

/-- Steps in the order in which they are taken. -/
abbrev Script := List Step

namespace Emitter

/-- Takes one step. -/
def perform (e : Emitter) : Step → Emitter
  | .write text => e.write text
  | .line text => e.writeLine text
  | .push token => e.push token
  | .pop => e.pop
  | .separate => e.separate

/-- Takes the steps of a script. -/
def run (e : Emitter) (script : Script) : Emitter :=
  script.foldl perform e

/-- A script without steps changes nothing. -/
@[simp]
theorem run_nil (e : Emitter) : e.run [] = e := rfl

/-- The first step of a script is taken first. -/
@[simp]
theorem run_cons (e : Emitter) (step : Step) (script : Script) : e.run (step :: script) = (e.perform step).run script :=
  rfl

/-- Scripts one after another run one after another. -/
@[simp]
theorem run_append (e : Emitter) (first second : Script) : e.run (first ++ second) = (e.run first).run second :=
  List.foldl_append

end Emitter

namespace Script

/-- The token of one level of indentation. -/
def tab : String := "\t"

/-- One level of indentation more. -/
def indent : Script :=
  [.push tab]

/-- One level of indentation less. -/
def dedent : Script :=
  [.pop]

/-- A line if there is a text for one. -/
def lineOf? : Option String → Script
  | some text => [.line text]
  | none => []

/-- A line of texts each. -/
def lines (texts : List String) : Script :=
  texts.map .line

/-- Adds an indentation token between two lines, each of which may be left out. -/
def indentWith (before : Option String) (token : String) (after : Option String) : Script :=
  lineOf? before ++ .push token :: lineOf? after

/-- Removes an indentation token between two lines, each of which may be left out. -/
def dedentWith (before after : Option String) : Script :=
  lineOf? before ++ .pop :: lineOf? after

/-- The opening brace of a block, on a line of its own. -/
def openBlock : Script :=
  indentWith (some "\x7b") tab none

/-- The closing brace of a block, on a line of its own. -/
def closeBlock : Script :=
  dedentWith none (some "\x7d")

/-- A block between braces, one level further in. -/
def block (inner : Script) : Script :=
  openBlock ++ inner ++ closeBlock

/-- A block of statements, a line each. -/
def body (statements : List String) : Script :=
  block (lines statements)

/-- The head of a named region, after a blank line. -/
def openRegion (name : String) : Script :=
  [.separate, .line ("#region " ++ name)]

/-- The end of a region. -/
def closeRegion : Script :=
  [.line "#endregion"]

/-- A named region. -/
def region (name : String) (inner : Script) : Script :=
  openRegion name ++ inner ++ closeRegion

end Script

end GeometrySource
