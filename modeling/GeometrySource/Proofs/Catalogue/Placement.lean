import GeometrySource.Proofs.Catalogue.Generate

/-!
# Declarations in another place

What a script or a template writes does not depend on where it stands: further in, the same text has a margin. A
generated file is a special case, a declaration one tab further in.
-/

namespace GeometrySource

/-- A template gives the same result in states that are alike, and what it writes is the same but for the margin. -/
theorem Template.relocated_emit {first second : Emitter} (h : Emitter.Alike first second) (t : Template)
    (ctx : Context) :
    (t.emit ctx first).1 = (t.emit ctx second).1 ∧
      Emitter.Relocated first (t.emit ctx first).2 second (t.emit ctx second).2 := by
  have hnested := t.nested_steps ctx
  exact ⟨rfl, Emitter.relocated_run h hnested.popsOwn hnested.pushesSingleLines⟩

/-- A generated file is the header, what its template writes on a fresh emitter, one tab further in, and a brace. -/
theorem Catalogue.text_generate {c : Catalogue} {spec : Spec} {source : Source} (h : c.generate spec = .ok source) :
    ∃ t ctx, c.template? spec.shape = some t ∧ Context.ofSpec c.config spec = .ok ctx ∧
      source.text = Text.unlines (headerLines ctx) ++ Text.indented "\t" (t.emit ctx {}).2.text ++ "\x7d\n" := by
  obtain ⟨t, ctx, declaration, ht, -, hctx, hs, rfl⟩ := generate_eq_ok h
  refine ⟨t, ctx, ht, hctx, ?_⟩
  rw [text_sourceFor spec ctx (Template.nested_script hs), Template.emit_of_ok hs]
  rfl

/-- The relocation law. From two states that are alike, every script that removes only its own tokens and adds none with
a line feed appends the same text, with the margin of the second state in front of every line that is not empty, and
leaves the same tokens of its own; so does every template, with the same result; and a generated file is the header, the
text of its template on a fresh emitter with a tab in front of every line that is not empty, and a closing brace. -/
theorem relocation :
    (∀ first second : Emitter, Emitter.Alike first second →
      (∀ script : Script, script.PopsOwn → script.PushesSingleLines →
        Emitter.Relocated first (first.run script) second (second.run script)) ∧
      ∀ (t : Template) (ctx : Context), (t.emit ctx first).1 = (t.emit ctx second).1 ∧
        Emitter.Relocated first (t.emit ctx first).2 second (t.emit ctx second).2) ∧
    ∀ (c : Catalogue) (spec : Spec) (source : Source), c.generate spec = .ok source →
      ∃ t ctx, c.template? spec.shape = some t ∧ Context.ofSpec c.config spec = .ok ctx ∧
        source.text =
          Text.unlines (Catalogue.headerLines ctx) ++ Text.indented "\t" (t.emit ctx {}).2.text ++ "\x7d\n" := by
  refine ⟨?_, fun c spec source h => Catalogue.text_generate h⟩
  intro first second h
  exact ⟨fun script hpops hpushes => Emitter.relocated_run h hpops hpushes, Template.relocated_emit h⟩

/-- A fresh emitter and one under two tokens are alike. -/
theorem Emitter.alike_pushed : Alike {} (({} : Emitter).run [.push "\t", .push "> "]) :=
  ⟨⟨[], rfl⟩, ⟨_, rfl⟩, rfl, rfl, rfl, rfl⟩

/-- The law at a script that ends inside a line and keeps a token, at a template outside of its own shape, and at a
planned file. -/
theorem relocation_pushed :
    (let second := ({} : Emitter).run [.push "\t", .push "> "]
      let script : Script := [.separate, .line "\x7b", .push "--", .separate, .write "a\n\nb", .push "-", .pop]
      let ctx : Context := ⟨⟨.line, .int, some 3⟩, 3, .int, ⟨"Shapes", [.int, .long], [.double], "Writer", "Reader"⟩⟩
      Emitter.Relocated {} (({} : Emitter).run script) second (second.run script) ∧
        Emitter.Relocated {} (Template.rectangle.emit ctx {}).2 second (Template.rectangle.emit ctx second).2) ∧
    ∃ source t ctx, Catalogue.standard.generate ⟨.line, .int, some 3⟩ = .ok source ∧
      Catalogue.standard.template? .line = some t ∧
      source.text =
        Text.unlines (Catalogue.headerLines ctx) ++ Text.indented "\t" (t.emit ctx {}).2.text ++ "\x7d\n" := by
  obtain ⟨hscripts, htemplates⟩ := relocation.1 _ _ Emitter.alike_pushed
  refine ⟨⟨hscripts _ (by decide) ?_, (htemplates _ _).2⟩, ?_⟩
  · simp [Script.PushesSingleLines, Text.SingleLine]
  · obtain ⟨t, ctx, ht, -, htext⟩ := relocation.2 Catalogue.standard ⟨.line, .int, some 3⟩ _ rfl
    exact ⟨_, t, ctx, rfl, ht, htext⟩

end GeometrySource
