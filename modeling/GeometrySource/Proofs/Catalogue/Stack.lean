import GeometrySource.Proofs.Catalogue.Generate

/-!
# The discipline of the stack

A template gives back the stack that it was given, and meanwhile never reaches below it. So while a file is generated, from
an empty stack, no token is removed that is not there, and none is left at the end. This holds in every context, on every
emitter, and whether the template makes a declaration or refuses.
-/

namespace GeometrySource

namespace Script

variable {before after : Script}

/-- A script that removes only its own tokens does so up to each of its steps. -/
theorem PopsOwn.of_append (h : (before ++ after).PopsOwn) : before.PopsOwn := by
  rw [PopsOwn, ownDepth?_append] at h
  exact Option.isSome_of_isSome_bind h

/-- Where a script that removes only its own tokens removes one, it has one. -/
theorem PopsOwn.exists_ownDepth?_of_pop (h : (before ++ .pop :: after).PopsOwn) :
    ∃ depth, before.ownDepth? 0 = some (depth + 1) := by
  rw [PopsOwn, ownDepth?_append] at h
  obtain ⟨depth, hdepth⟩ := Option.isSome_iff_exists.mp (Option.isSome_of_isSome_bind h)
  rw [hdepth, Option.bind_some] at h
  cases depth with
  | zero => simp [ownDepth?] at h
  | succ depth => exact ⟨depth, hdepth⟩

end Script

namespace Emitter

/-- A script that counts its own tokens leaves as many above those that were there. -/
theorem exists_own_of_ownDepth? {script : Script} {depth : Nat} (h : script.ownDepth? 0 = some depth) (e : Emitter) :
    ∃ own, own.length = depth ∧ (e.run script).indents = own ++ e.indents :=
  indents_run (show script.ownDepth? ([] : List String).length = some depth from h) (List.nil_append e.indents).symm

/-- Under a script that removes only its own tokens, those that were there stay at the bottom. -/
theorem suffix_indents_run {script : Script} (h : script.PopsOwn) (e : Emitter) : e.indents <:+ (e.run script).indents := by
  obtain ⟨depth, hdepth⟩ := Option.isSome_iff_exists.mp h
  obtain ⟨own, -, hindents⟩ := exists_own_of_ownDepth? hdepth e
  rw [hindents]
  exact List.suffix_append own e.indents

/-- Where a script that removes only its own tokens removes one, the stack is not empty. -/
theorem indents_ne_nil_of_pop {before after : Script} (h : (before ++ .pop :: after).PopsOwn) (e : Emitter) :
    (e.run before).indents ≠ [] := by
  obtain ⟨depth, hdepth⟩ := h.exists_ownDepth?_of_pop
  obtain ⟨own, hlength, hindents⟩ := exists_own_of_ownDepth? hdepth e
  rw [hindents]
  exact List.append_ne_nil_of_left_ne_nil (List.ne_nil_of_length_eq_add_one hlength) _

end Emitter

/-! ## The steps that are taken -/

namespace Catalogue

/-- The steps that a fresh emitter takes for a spec, up to the end or to a refusal: none if it is refused before a template
is used. -/
def steps (c : Catalogue) (spec : Spec) : Script :=
  match c.prepare spec with
  | .error _ => []
  | .ok (t, ctx) => (fileEmission t ctx).steps

/-- What is opened is the start of a whole file. -/
theorem popsOwn_openFile (ctx : Context) : (Declaration.openFile ctx).PopsOwn :=
  Script.PopsOwn.of_append (nested_fileScript ctx Script.nested_nil).popsOwn

/-- No step of a file removes a token that is not there, also if the template refuses and the file stays open. -/
theorem popsOwn_fileEmission (t : Template) (ctx : Context) : (fileEmission t ctx).steps.PopsOwn := by
  cases hscript : t.script ctx with
  | error error =>
    rw [fileEmission_of_error hscript]
    exact popsOwn_openFile ctx
  | ok declaration =>
    rw [fileEmission_of_ok hscript]
    exact (nested_fileScript ctx (Template.nested_script hscript)).popsOwn

/-- No step for a spec removes a token that is not there. -/
theorem popsOwn_steps (c : Catalogue) (spec : Spec) : (c.steps spec).PopsOwn := by
  unfold steps
  split
  · exact Script.nested_nil.popsOwn
  · exact popsOwn_fileEmission _ _

/-- The steps of a generated file are nested, and its text is what they write. -/
theorem steps_of_generate_eq_ok {c : Catalogue} {spec : Spec} {source : Source} (h : c.generate spec = .ok source) :
    (c.steps spec).Nested ∧ source.text = (({} : Emitter).run (c.steps spec)).text := by
  obtain ⟨t, ctx, declaration, hprepare, hscript, rfl⟩ := exists_prepare_of_generate h
  have hsteps : c.steps spec = fileScript ctx declaration := by
    rw [steps, hprepare]
    exact congrArg Emission.steps (fileEmission_of_ok hscript)
  rw [hsteps]
  exact ⟨nested_fileScript ctx (Template.nested_script hscript), rfl⟩

/-- The discipline of the stack:
1. While a template writes on an emitter, in any state and any context, the tokens that were there stay at the bottom of
   the stack, and at the end they are the whole stack, whether the template succeeds or refuses.
2. While a spec is generated, or until it is refused, no token is removed from an empty stack.
3. A generated file is what these steps write, and the stack is empty when its text is taken. -/
theorem stack_discipline :
    (∀ (t : Template) (ctx : Context) (e : Emitter),
      (t.emit ctx e).2 = e.run (t.steps ctx) ∧ (t.emit ctx e).2.indents = e.indents ∧
        ∀ before after, t.steps ctx = before ++ after → e.indents <:+ (e.run before).indents) ∧
      ∀ (c : Catalogue) (spec : Spec),
        (∀ before after, c.steps spec = before ++ .pop :: after → (({} : Emitter).run before).indents ≠ []) ∧
          ∀ source, c.generate spec = .ok source →
            source.text = (({} : Emitter).run (c.steps spec)).text ∧
              (({} : Emitter).run (c.steps spec)).depth = 0 := by
  refine ⟨fun t ctx e => ⟨rfl, Emitter.indents_run_nested (t.nested_steps ctx) e, fun before after h => ?_⟩,
    fun c spec => ⟨fun before after h => ?_, fun source h => ?_⟩⟩
  · have hpops := (t.nested_steps ctx).popsOwn
    rw [h] at hpops
    exact Emitter.suffix_indents_run hpops.of_append e
  · have hpops := c.popsOwn_steps spec
    rw [h] at hpops
    exact Emitter.indents_ne_nil_of_pop hpops {}
  · obtain ⟨hnested, htext⟩ := steps_of_generate_eq_ok h
    exact ⟨htext, by rw [Emitter.depth, Emitter.indents_run_nested hnested]; rfl⟩

/-- The template of polygons in the context of a line, on an emitter inside a line and under a token; the ellipse, which
refuses that context; and the file of a ray, up to the closing of its namespace. -/
theorem stack_discipline_polygon :
    let ctx : Context := ⟨⟨.line, .int, some 1⟩, 1, .int, ⟨"Shapes", [.int, .long], [.double], "Writer", "Reader"⟩⟩
    let e := ({} : Emitter).run [.push "> ", .write "a"]
    ((Template.polygon.steps ctx).take 20 ++ (Template.polygon.steps ctx).drop 20 = Template.polygon.steps ctx ∧
        ["> "] <:+ (e.run ((Template.polygon.steps ctx).take 20)).indents ∧
        (Template.polygon.emit ctx e).2.indents = ["> "]) ∧
      (Template.ellipse.emit ctx e = (.error (.unsupportedDimension .sizeAxes 1), e) ∧
        (Template.ellipse.emit ctx e).2.indents = ["> "]) ∧
      ∃ before source, standard.steps ⟨.ray, .float, none⟩ = before ++ [.pop, .line "\x7d"] ∧
        (({} : Emitter).run before).indents ≠ [] ∧ standard.generate ⟨.ray, .float, none⟩ = .ok source ∧
        (({} : Emitter).run (standard.steps ⟨.ray, .float, none⟩)).depth = 0 := by
  intro ctx e
  let ray : Context := ⟨⟨.ray, .float, none⟩, 3, .float, {}⟩
  obtain ⟨htemplates, hspecs⟩ := stack_discipline
  obtain ⟨-, hpolygon, hbottom⟩ := htemplates .polygon ctx e
  obtain ⟨hpops, hfile⟩ := hspecs standard ⟨.ray, .float, none⟩
  have hcut := List.take_append_drop 20 (Template.polygon.steps ctx)
  refine ⟨⟨hcut, hbottom _ _ hcut.symm, hpolygon⟩, ⟨rfl, (htemplates .ellipse ctx e).2.1⟩, ?_⟩
  have hsteps : standard.steps ⟨.ray, .float, none⟩ =
      Declaration.openFile ray ++ Template.Ray.script ray ++ Declaration.closeFile :=
    congrArg Emission.steps (fileEmission_of_ok rfl)
  exact ⟨_, _, hsteps, hpops _ [.line "\x7d"] hsteps, rfl, (hfile _ rfl).2⟩

end Catalogue

end GeometrySource
