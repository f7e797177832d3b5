import GeometrySource.Proofs.Catalogue.Batch
import GeometrySource.Proofs.Layout.Growth

/-!
# Refusals leave no trace

In any context and on any emitter, also inside a line and under tokens of its own, a template either refuses, and then leaves
the emitter as it was, or writes a whole declaration behind what was there. Only the templates of shapes with a size refuse,
and only dimensions that have none.

Nothing about an emission alone rules out a refusal behind a first line, which would leave half a declaration behind. It is
ruled out template by template: each of them comes to a look-up and then a single script (`Template.emission_eq`).
-/

namespace GeometrySource.Template

open Declaration Script Text

variable {t : Template} {ctx : Context}

/-- Every declaration is a struct and its static class. -/
theorem exists_outline {declaration : Script} (h : t.script ctx = .ok declaration) :
    ∃ description members functions, declaration = outline ctx description members functions := by
  cases t with
  | circle | sphere | line | plane | polygon | ray =>
    cases h
    exact ⟨_, _, _, rfl⟩
  | ellipse | rectangle =>
    obtain ⟨axes, -, rfl⟩ := exists_of_map_eq_ok h
    exact ⟨_, _, _, rfl⟩

/-- The last line of a declaration is the closing brace of the static class. -/
theorem outline_eq_concat_line (description : String) (members functions : Script) :
    outline ctx description members functions =
      openStruct ctx description ++ members ++ closeStruct ++ openCompanion ctx ++ functions ++ [.pop] ++
        [.line "\x7d"] := by
  rw [outline, List.append_assoc _ [Step.pop]]
  rfl

/-- A template refuses an emitter exactly if it has no script for the context. -/
theorem emit_fst_eq_error_iff {e : Emitter} {error : Error} :
    (t.emit ctx e).1 = .error error ↔ t.script ctx = .error error := by
  cases hscript : t.script ctx with
  | ok declaration => simp [emit_of_ok hscript]
  | error other => simp [emit_of_error hscript]

/-- A template that succeeds on an emitter has run its script there. -/
theorem exists_script_of_emit {e : Emitter} (h : (t.emit ctx e).1 = .ok ()) :
    ∃ declaration, t.script ctx = .ok declaration ∧ (t.emit ctx e).2 = e.run declaration := by
  cases hscript : t.script ctx with
  | ok declaration => exact ⟨declaration, rfl, congrArg Prod.snd (emit_of_ok hscript e)⟩
  | error error =>
    rw [emit_of_error hscript] at h
    cases h

/-- Up to a refusal a template has looked something up and written nothing. -/
theorem emit_snd_of_error {e : Emitter} {error : Error} (h : (t.emit ctx e).1 = .error error) :
    (t.emit ctx e).2 = e :=
  congrArg Prod.snd (emit_of_error (emit_fst_eq_error_iff.mp h) e)

/-- A refusal leaves no trace. For every template, in every context and on every emitter:
1. It refuses exactly if it is the template of the ellipse or the rectangle and the dimension is neither two nor three, and
   then names this dimension.
2. When it refuses, the emitter is as it was.
3. When it succeeds, the text begins with what was there, more has been written, and the emitter is at the start of a
   line. -/
theorem refusal_without_trace (t : Template) (ctx : Context) (e : Emitter) :
    (∀ error, (t.emit ctx e).1 = .error error ↔
        (t = .ellipse ∨ t = .rectangle) ∧ (ctx.dimension ≠ 2 ∧ ctx.dimension ≠ 3) ∧
          error = .unsupportedDimension .sizeAxes ctx.dimension) ∧
      (∀ error, (t.emit ctx e).1 = .error error → (t.emit ctx e).2 = e) ∧
      ((t.emit ctx e).1 = .ok () →
        (StartsWith e.text (t.emit ctx e).2.text ∧ e.text ≠ (t.emit ctx e).2.text) ∧
          (t.emit ctx e).2.atLineStart = true) := by
  refine ⟨fun error => ?_, fun error h => emit_snd_of_error h, fun h => ?_⟩
  · rw [emit_fst_eq_error_iff, script_eq_error_iff]
  · obtain ⟨declaration, hscript, hrun⟩ := exists_script_of_emit h
    obtain ⟨description, members, functions, rfl⟩ := exists_outline hscript
    rw [hrun]
    refine ⟨⟨e.startsWith_run _, ?_⟩, ?_⟩
    · rw [outline_eq_concat_line]
      exact e.text_ne_run_concat_line _ _
    · rw [outline_eq_concat_line]
      exact e.atLineStart_run_concat_line _ _

/-- The template of the rectangle refuses a context of a line inside a line of text and under a token with a line feed; the
template of the plane takes the same context on the same emitter. -/
theorem refusal_without_trace_line :
    let ctx : Context := ⟨⟨.line, .int, some 1⟩, 1, .int, ⟨"Shapes", [.int, .long], [.double], "Writer", "Reader"⟩⟩
    let e : Emitter := ⟨"a", [">\n", "\t"], false⟩
    (Template.rectangle.emit ctx e).1 = .error (.unsupportedDimension .sizeAxes 1) ∧
      (Template.rectangle.emit ctx e).2 = e ∧
      (Template.plane.emit ctx e).1 = .ok () ∧
      (StartsWith "a" (Template.plane.emit ctx e).2.text ∧ "a" ≠ (Template.plane.emit ctx e).2.text) ∧
      (Template.plane.emit ctx e).2.atLineStart = true := by
  intro ctx e
  obtain ⟨hrefuses, hkeeps, -⟩ := refusal_without_trace .rectangle ctx e
  obtain ⟨-, -, hgrows⟩ := refusal_without_trace .plane ctx e
  have hrefused : (Template.rectangle.emit ctx e).1 = .error (.unsupportedDimension .sizeAxes 1) :=
    (hrefuses _).mpr ⟨Or.inr rfl, by decide, rfl⟩
  exact ⟨hrefused, hkeeps _ hrefused, rfl, hgrows rfl⟩

end GeometrySource.Template
