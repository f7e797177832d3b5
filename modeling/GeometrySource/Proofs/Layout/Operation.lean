import GeometrySource.Proofs.Layout.Draft

/-!
# The layout law

The calls that a user of an emitter can make, each with its script, and what each does to a draft. Whatever calls are
made, and in whatever order, the text is the typeset draft.
-/

namespace GeometrySource

/-- A call on an emitter. -/
inductive Operation
  /-- Write a text, in one piece or formatted. -/
  | write (text : String)
  /-- Write one character. -/
  | writeChar (c : Char)
  /-- Write a text and end the line. -/
  | writeLine (text : String)
  /-- Add the default token. -/
  | indent
  /-- Remove the innermost token; without a token nothing happens. -/
  | dedent
  /-- Write a line, add a token, write a line. -/
  | indentWith (before : Option String) (token : String) (after : Option String)
  /-- Write a line, remove the innermost token, write a line. -/
  | dedentWith (before after : Option String)
  /-- Open a block between braces. -/
  | openBlock
  /-- Close a block between braces. -/
  | closeBlock
  deriving DecidableEq, Repr

namespace Operation

/-- The steps that an emitter takes for a call. -/
def script : Operation → Script
  | write text => [.write text]
  | writeChar c => [.write (String.singleton c)]
  | writeLine text => [.line text]
  | indent => Script.indent
  | dedent => Script.dedent
  | indentWith before token after => Script.indentWith before token after
  | dedentWith before after => Script.dedentWith before after
  | openBlock => Script.openBlock
  | closeBlock => Script.closeBlock

end Operation

namespace Draft

/-- Writes a line, if there is a text for one. -/
def writeLine? (d : Draft) : Option String → Draft
  | some text => d.write (text ++ "\n")
  | none => d

/-- What a call does to a draft. -/
def take (d : Draft) : Operation → Draft
  | .write text => d.write text
  | .writeChar c => d.write (String.singleton c)
  | .writeLine text => d.write (text ++ "\n")
  | .indent => d.push "\t"
  | .dedent => d.pop
  | .indentWith before token after => ((d.writeLine? before).push token).writeLine? after
  | .dedentWith before after => (d.writeLine? before).pop.writeLine? after
  | .openBlock => (d.write "\x7b\n").push "\t"
  | .closeBlock => d.pop.write "\x7d\n"

/-- A line that may be left out. -/
theorem run_lineOf? (d : Draft) (text : Option String) : d.run (Script.lineOf? text) = d.writeLine? text := by
  cases text <;> rfl

/-- The steps of a call do to a draft what the call does. -/
theorem run_script (d : Draft) (operation : Operation) : d.run operation.script = d.take operation := by
  cases operation with
  | indentWith before token after =>
    simp only [Operation.script, Script.indentWith, run_append, run_cons, run_lineOf?, take, perform]
  | dedentWith before after =>
    simp only [Operation.script, Script.dedentWith, run_append, run_cons, run_lineOf?, take, perform]
  | _ => rfl

/-- The steps of calls one after another. -/
theorem run_flatMap_script (d : Draft) (operations : List Operation) :
    d.run (operations.flatMap Operation.script) = operations.foldl take d := by
  induction operations generalizing d with
  | nil => rfl
  | cons operation rest ih => rw [List.flatMap_cons, run_append, run_script, ih, List.foldl_cons]

end Draft

namespace Emitter

/-- The layout law. Whatever calls are made on a fresh emitter, its text is what was written, cut into lines, with the
tokens that were on the stack at a line's first character in front of each line that is not empty. -/
theorem text_run_operations (operations : List Operation) :
    (({} : Emitter).run (operations.flatMap Operation.script)).text =
      Ink.typeset (operations.foldl Draft.take {}).ink := by
  have h := (@follows_run {} Text.ended_empty rfl (operations.flatMap Operation.script)).text
  rw [String.empty_append] at h
  rw [h, ← Draft.run_flatMap_script]
  rfl

/-- Tokens that are added inside a line count from the next line on. -/
example :
    Ink.typeset ([Operation.indent, .write "a", .indentWith none "--" none, .writeLine "b", .writeLine "", .write "c",
      .dedent, .dedent, .dedent, .writeLine "d", .writeLine "e"].foldl Draft.take {}).ink = "\tab\n\n\t--cd\ne\n" := by
  decide

end Emitter

end GeometrySource
