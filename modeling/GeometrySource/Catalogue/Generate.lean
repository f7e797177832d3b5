import GeometrySource.Catalogue.Basic
import GeometrySource.Log

/-!
# Generation

The text of one declaration, or of all that a catalogue plans. Generation leaves log records behind: one when it begins to
write, one when it has succeeded, and one more for a whole batch.
-/

namespace GeometrySource

/-- A generated file. -/
structure Source where
  spec : Spec
  /-- The name of the declared type. -/
  typeName : String
  text : String
  deriving DecidableEq, Repr

namespace Source

/-- The number of bytes of the text. -/
def bytes (s : Source) : Nat :=
  s.text.utf8ByteSize

/-- The number of lines of the text. -/
def lines (s : Source) : Nat :=
  Text.lineCount s.text

end Source

/-- What a request led to, and the records that it left behind. -/
structure Outcome (α : Type) where
  result : Except Error α
  log : List LogRecord

/-- The files of a whole plan, and the records that generating them left behind. -/
structure Batch where
  sources : List Source
  log : List LogRecord

/-- Writes a whole file around what a template declares. If the template refuses, the file stays open. -/
def fileEmission (t : Template) (ctx : Context) : Emission Unit := do
  .write (Declaration.openFile ctx)
  t.emission ctx
  .write Declaration.closeFile

namespace Catalogue

/-- The template and the context for a spec. A missing template is noticed before anything that is wrong with the spec. -/
def prepare (c : Catalogue) (spec : Spec) : Except Error (Template × Context) :=
  match c.template? spec.shape with
  | none => .error (.missingTemplate spec.shape)
  | some t => do
    c.validate spec
    let ctx ← Context.ofSpec c.config spec
    .ok (t, ctx)

/-- The record of a beginning. -/
def startRecord (spec : Spec) : LogRecord :=
  ⟨.trace, "generating " ++ spec.display⟩

/-- The record of a success. -/
def doneRecord (s : Source) : LogRecord :=
  ⟨.debug, "generated " ++ s.typeName ++ " for " ++ s.spec.display ++ " (" ++ s.bytes.repr ++ " bytes)"⟩

/-- Generates the file for a spec on a fresh emitter. -/
def generateLogged (c : Catalogue) (spec : Spec) : Outcome Source :=
  match c.prepare spec with
  | .error error => ⟨.error error, []⟩
  | .ok (t, ctx) =>
    match (fileEmission t ctx).run {} with
    | (.error error, _) => ⟨.error error, [startRecord spec]⟩
    | (.ok (), e) =>
      let source := ⟨spec, ctx.name, e.text⟩
      ⟨.ok source, [startRecord spec, doneRecord source]⟩

/-- The file for a spec. -/
def generate (c : Catalogue) (spec : Spec) : Except Error Source :=
  (c.generateLogged spec).result

/-- The record of a batch. -/
def batchRecord (sources : List Source) : LogRecord :=
  ⟨.info, "generated " ++ sources.length.repr ++ " shape declarations"⟩

/-- The outcome of every planned spec, in the plan's order. -/
def planOutcomes (c : Catalogue) : List (Outcome Source) :=
  c.plan.map c.generateLogged

/-- Generates the file of every planned spec, in the plan's order. The first refusal ends the batch. The records are in
listing order. -/
def generateAll (c : Catalogue) : Except Error Batch :=
  (c.planOutcomes.mapM Outcome.result).map fun sources =>
    ⟨sources, LogRecord.listed (c.planOutcomes.flatMap Outcome.log ++ [batchRecord sources])⟩

end Catalogue

end GeometrySource
