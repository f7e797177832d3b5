import GeometrySource.Catalogue.Generate
import GeometrySource.Proofs.Layout.Wording
import GeometrySource.Proofs.Template.Nesting

/-!
# What generation gives

A generated file was made by the template of the shape in the context of the spec. Its text is a header, the declaration
one tab further in, and a closing brace.
-/

namespace GeometrySource

/-- The script of a whole file, around the script of its declaration. -/
def fileScript (ctx : Context) (declaration : Script) : Script :=
  Declaration.openFile ctx ++ declaration ++ Declaration.closeFile

/-- If the template makes a declaration, the emission of a file takes the steps of the whole file. -/
theorem fileEmission_of_ok {t : Template} {ctx : Context} {declaration : Script} (h : t.script ctx = .ok declaration) :
    fileEmission t ctx = Emission.write (fileScript ctx declaration) := by
  rw [fileEmission, Template.emission_eq, h, Emission.lookUp_ok_bind, Emission.write_bind_write, Emission.write_bind_write,
    fileScript, List.append_assoc]

/-- If the template refuses, the emission of a file ends behind its opening. -/
theorem fileEmission_of_error {t : Template} {ctx : Context} {error : Error} (h : t.script ctx = .error error) :
    fileEmission t ctx = ⟨Declaration.openFile ctx, .error error⟩ := by
  rw [fileEmission, Template.emission_eq, h, Emission.lookUp_error_bind, Emission.lookUp_error_bind,
    Emission.write_bind_lookUp_error]

end GeometrySource

namespace GeometrySource.Catalogue

open Script

/-- A spec that is not refused has a number type that the configuration lists for its shape. -/
theorem mem_typesFor_of_validate {c : Catalogue} {spec : Spec} (h : c.validate spec = .ok ()) :
    spec.numeric ∈ c.config.typesFor spec.shape := by
  by_contra hn
  rw [validate, if_neg hn] at h
  cases h

/-- A full catalogue has the given configuration and the template made for each shape. -/
theorem full_eq_ok {config : Config} {c : Catalogue} (h : full config = .ok c) :
    c.config = config ∧ ∀ s, c.template? s = some s.template := by
  obtain ⟨empty, hempty, rfl⟩ := Template.exists_of_map_eq_ok h
  refine ⟨?_, fun s => by cases s <;> rfl⟩
  unfold Catalogue.empty at hempty
  split at hempty
  · cases hempty
    rfl
  · cases hempty

/-- A valid configuration has a catalogue without templates. -/
theorem empty_of_valid {config : Config} (h : config.validate = .ok ()) : empty config = .ok ⟨config, fun _ => none, h⟩ := by
  unfold empty
  split
  · rfl
  · rename_i error herror
    rw [h] at herror
    cases herror

/-- A valid configuration has a catalogue with all templates. -/
theorem full_of_valid {config : Config} (h : config.validate = .ok ()) :
    full config = .ok (registerAll ⟨config, fun _ => none, h⟩) := by
  rw [full, empty_of_valid h, Except.map]

theorem exists_full {config : Config} (h : config.validate = .ok ()) : ∃ c, full config = .ok c :=
  ⟨_, full_of_valid h⟩

/-- The template that is used is that of the shape, and the context is that of the spec. -/
theorem prepare_eq_ok {c : Catalogue} {spec : Spec} {t : Template} {ctx : Context}
    (h : c.prepare spec = .ok (t, ctx)) :
    c.template? spec.shape = some t ∧ c.validate spec = .ok () ∧ Context.ofSpec c.config spec = .ok ctx := by
  unfold prepare at h
  cases ht : c.template? spec.shape with
  | none => simp [ht] at h
  | some made =>
    cases hv : c.validate spec with
    | error error => simp [ht, hv, bind, Except.bind] at h
    | ok _ =>
      cases hctx : Context.ofSpec c.config spec with
      | error error => simp [ht, hv, hctx, bind, Except.bind] at h
      | ok found =>
        simp only [ht, hv, hctx, bind, Except.bind, Except.ok.injEq, Prod.mk.injEq] at h
        exact ⟨congrArg some h.1, rfl, congrArg Except.ok h.2⟩

/-- A context has the dimension, the shape and the number type of its spec. -/
theorem of_ofSpec_eq_ok {config : Config} {spec : Spec} {ctx : Context} (h : Context.ofSpec config spec = .ok ctx) :
    spec.resolve = .ok ctx.dimension ∧ ctx.shape = spec.shape ∧ ctx.numeric = spec.numeric := by
  obtain ⟨d, hd, rfl⟩ := Template.exists_of_map_eq_ok h
  exact ⟨hd, rfl, rfl⟩

/-- The file for a spec, by the script of its declaration. -/
def sourceFor (spec : Spec) (ctx : Context) (declaration : Script) : Source :=
  ⟨spec, ctx.name, (({} : Emitter).run (fileScript ctx declaration)).text⟩

/-- A request that is not refused before anything is written leads to the file if the template makes a declaration, and to
the refusal of the template otherwise. -/
theorem generateLogged_of_prepare {c : Catalogue} {spec : Spec} {t : Template} {ctx : Context}
    (h : c.prepare spec = .ok (t, ctx)) :
    c.generateLogged spec =
      match t.script ctx with
      | .error error => ⟨.error error, [startRecord spec]⟩
      | .ok declaration =>
        ⟨.ok (sourceFor spec ctx declaration), [startRecord spec, doneRecord (sourceFor spec ctx declaration)]⟩ := by
  unfold generateLogged
  rw [h]
  cases hscript : t.script ctx with
  | error error => simp only [fileEmission_of_error hscript, Emission.run]
  | ok declaration => simp only [fileEmission_of_ok hscript, Emission.run_write, sourceFor]

/-- A request that is refused before anything is written leaves no record. -/
theorem generateLogged_of_refused {c : Catalogue} {spec : Spec} {error : Error} (h : c.prepare spec = .error error) :
    c.generateLogged spec = ⟨.error error, []⟩ := by
  unfold generateLogged
  rw [h]

/-- A file is the declaration that the template makes in the context, if both are found. -/
theorem generate_eq (c : Catalogue) (spec : Spec) :
    c.generate spec = (c.prepare spec).bind fun found => (found.1.script found.2).map (sourceFor spec found.2) := by
  rw [generate]
  cases hprepare : c.prepare spec with
  | error e => rw [generateLogged_of_refused hprepare, Except.bind]
  | ok found =>
    rw [generateLogged_of_prepare hprepare, Except.bind]
    cases found.1.script found.2 <;> rfl

/-- A file is what a template has declared in a context that was prepared for the spec. -/
theorem exists_prepare_of_generate {c : Catalogue} {spec : Spec} {source : Source} (h : c.generate spec = .ok source) :
    ∃ t ctx declaration, c.prepare spec = .ok (t, ctx) ∧ t.script ctx = .ok declaration ∧
      source = sourceFor spec ctx declaration := by
  rw [generate_eq] at h
  cases hprepare : c.prepare spec with
  | error error => simp [hprepare, Except.bind] at h
  | ok pair =>
    rw [hprepare] at h
    obtain ⟨declaration, hscript, hsource⟩ := Template.exists_of_map_eq_ok h
    exact ⟨pair.1, pair.2, declaration, rfl, hscript, hsource.symm⟩

/-- A file comes from the template of its shape and the context of its spec, whose number type the configuration
lists. -/
theorem generate_eq_ok {c : Catalogue} {spec : Spec} {source : Source} (h : c.generate spec = .ok source) :
    ∃ t ctx declaration, c.template? spec.shape = some t ∧ spec.numeric ∈ c.config.typesFor spec.shape ∧
      Context.ofSpec c.config spec = .ok ctx ∧ t.script ctx = .ok declaration ∧
      source = sourceFor spec ctx declaration := by
  obtain ⟨t, ctx, declaration, hprepare, hscript, hsource⟩ := exists_prepare_of_generate h
  obtain ⟨ht, hv, hctx⟩ := prepare_eq_ok hprepare
  exact ⟨t, ctx, declaration, ht, mem_typesFor_of_validate hv, hctx, hscript, hsource⟩

/-- The lines in front of a declaration. -/
def headerLines (ctx : Context) : List String :=
  ["using System;", "using System.Diagnostics.Contracts;", "using System.Globalization;",
    "using System.Runtime.InteropServices;", "", "namespace " ++ ctx.namespaceName, "\x7b"]

/-- A file is its header lines and a block around the declaration. -/
theorem fileScript_eq (ctx : Context) (declaration : Script) :
    fileScript ctx declaration = lines (headerLines ctx).dropLast ++ block declaration := rfl

/-- A file around a nested declaration is nested. -/
theorem nested_fileScript (ctx : Context) {declaration : Script} (h : declaration.Nested) :
    (fileScript ctx declaration).Nested := by
  rw [fileScript_eq, nested_append (nested_lines _)]
  exact nested_block h

/-- The wording of a file is its header lines, the wording of the declaration and a closing brace. -/
theorem wording_fileScript (ctx : Context) (declaration : Script) :
    (fileScript ctx declaration).wording true = headerLines ctx ++ (declaration.wording true ++ ["\x7d"]) := by
  rw [fileScript, wording_append, wording_append, List.append_assoc]
  rfl

/-- The opening of a file is its header and a tab. -/
theorem openFile_eq (ctx : Context) : Declaration.openFile ctx = lines (headerLines ctx) ++ [.push tab] := rfl

/-- The opening of a file writes the header and leaves a tab. -/
theorem run_openFile (ctx : Context) :
    ({} : Emitter).run (Declaration.openFile ctx) = { text := Text.unlines (headerLines ctx), indents := [tab] } := by
  rw [openFile_eq, Emitter.run_append, Emitter.run_fresh (nested_lines _), sheet, rows_lines, List.map_map]
  simp [Function.comp_def, Emitter.perform, Emitter.push]

/-- Behind the opening of a file `separate` leaves nothing. -/
theorem opened_openFile (ctx : Context) : (({} : Emitter).run (Declaration.openFile ctx)).opened = true := by
  have hends : Text.endsIn (Text.unlines (headerLines ctx)) "\x7b\n" = true := by
    rw [Text.endsIn_iff]
    exact ⟨Text.unlines (headerLines ctx).dropLast, by simp [headerLines, String.append_assoc]⟩
  rw [run_openFile, Emitter.opened]
  simp [hends]

/-- The end of a file is a closing brace without a tab. -/
theorem text_run_closeFile {e : Emitter} (hended : Text.Ended e.text) (hline : e.atLineStart = true)
    (hindents : e.indents = [tab]) : (e.run Declaration.closeFile).text = e.text ++ "\x7d\n" := by
  have hmargin : e.pop.margin = "" := by simp [Emitter.margin, Emitter.pop, hindents]
  have hbrace := Emitter.text_writeLine (e := e.pop) hended hline "\x7d"
  rw [hmargin, Text.indented_without_margin, String.append_assoc] at hbrace
  exact hbrace

/-- The text of a file is the header, the declaration one tab further in, and a closing brace. -/
theorem text_sourceFor (spec : Spec) (ctx : Context) {declaration : Script} (h : declaration.Nested) :
    (sourceFor spec ctx declaration).text =
      Text.unlines (headerLines ctx) ++ Text.indented tab (({} : Emitter).run declaration).text ++ "\x7d\n" := by
  have hopened := opened_openFile ctx
  rw [sourceFor, fileScript, Emitter.run_append, Emitter.run_append, Emitter.run_fresh h]
  rw [run_openFile] at hopened ⊢
  generalize hopening : ({ text := Text.unlines (headerLines ctx), indents := [tab] } : Emitter) = opening at hopened ⊢
  have hended : Text.Ended opening.text := hopening ▸ Text.ended_unlines _
  have hline : opening.atLineStart = true := hopening ▸ rfl
  have hmargin : opening.margin = tab := hopening ▸ rfl
  have htext := Emitter.text_run_sheet h hended hline
  rw [hopened, hmargin] at htext
  have hwhole : Text.Ended (opening.run declaration).text := by
    rw [htext]
    exact hended.append ((Text.ended_unlines _).indented tab)
  rw [text_run_closeFile hwhole (Emitter.atLineStart_run h.tabular hline)
    ((Emitter.indents_run_nested h opening).trans (hopening ▸ rfl)), htext, ← hopening]

end GeometrySource.Catalogue
