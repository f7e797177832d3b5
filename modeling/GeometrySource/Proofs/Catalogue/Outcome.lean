import GeometrySource.Proofs.Catalogue.Batch

/-!
# Outcomes

What a request for one declaration leads to. Four things can be wrong with it, and the first of them counts: the shape has
no template, the number type is not listed for the shape, the shape does not have the dimension, or the template needs a
size and the dimension has none. The last is noticed only after the record of the beginning. Otherwise the file is made.
-/

namespace GeometrySource

/-! ## Dimensions -/

namespace Spec

/-- Whether a spec asks for a dimension: it is the shape's implicit one and none is written, or it is written and is the
implicit one or a listed one. -/
inductive AsksFor (spec : Spec) : Nat → Prop
  | implicit {d : Nat} (hnone : spec.dimension = none) (himplicit : spec.shape.implicitDimension = some d) :
      AsksFor spec d
  | written {d : UInt32} (hwritten : spec.dimension = some d)
      (hshape : spec.shape.implicitDimension = some d.toNat ∨ d.toNat ∈ spec.shape.dimensions) : AsksFor spec d.toNat

variable {spec : Spec} {d : Nat}

theorem dimensionFor?_eq_some_iff :
    spec.shape.dimensionFor? spec.givenDimension = some d ↔ spec.AsksFor d := by
  unfold givenDimension
  cases hdimension : spec.dimension with
  | none =>
    refine ⟨fun h => .implicit hdimension h, ?_⟩
    rintro (⟨-, himplicit⟩ | ⟨hwritten, -⟩)
    · exact himplicit
    · rw [hdimension] at hwritten
      cases hwritten
  | some written =>
    simp only [Option.map_some, Shape.dimensionFor?, Option.ite_none_right_eq_some, Option.some.injEq]
    constructor
    · rintro ⟨hshape, rfl⟩
      exact .written hdimension hshape
    · rintro (⟨hnone, -⟩ | ⟨hwritten, hshape⟩)
      · rw [hdimension] at hnone
        cases hnone
      · rw [hdimension] at hwritten
        cases hwritten
        exact ⟨hshape, rfl⟩

/-- The dimension of a spec is the one that it asks for. -/
theorem resolve_eq_ok_iff : spec.resolve = .ok d ↔ spec.AsksFor d := by
  rw [← dimensionFor?_eq_some_iff, resolve]
  cases spec.shape.dimensionFor? spec.givenDimension <;> simp

/-- A spec that asks for no dimension of its shape is refused with the written dimension, or with zero. -/
theorem resolve_eq_error (h : ∀ d, ¬spec.AsksFor d) :
    spec.resolve = .error (.unsupportedDimension (.shape spec.shape) (spec.givenDimension.getD 0)) := by
  have hnone : spec.shape.dimensionFor? spec.givenDimension = none := by
    rw [Option.eq_none_iff_forall_not_mem]
    exact fun d hd => h d (dimensionFor?_eq_some_iff.mp hd)
  rw [resolve, hnone]

/-- Dimension one is the only one of any shape without a size. -/
theorem AsksFor.sizeless_iff (h : spec.AsksFor d) : d ≠ 2 ∧ d ≠ 3 ↔ d = 1 := by
  constructor
  · rintro ⟨htwo, hthree⟩
    exact (Catalogue.line_of_mem_plannedDimensions (mem_plannedDimensions (resolve_eq_ok_iff.mpr h)) htwo hthree).2
  · rintro rfl
    decide

end Spec

namespace Catalogue

variable {c : Catalogue} {spec : Spec} {t : Template} {d : Nat}

/-! ## Before anything is written -/

theorem generateLogged_of_no_template (h : c.template? spec.shape = none) :
    c.generateLogged spec = ⟨.error (.missingTemplate spec.shape), []⟩ :=
  generateLogged_of_refused (by simp only [prepare, h])

theorem generateLogged_of_not_listed (ht : c.template? spec.shape = some t)
    (hn : spec.numeric ∉ c.config.typesFor spec.shape) :
    c.generateLogged spec = ⟨.error (.notApplicable spec.shape spec.numeric), []⟩ :=
  generateLogged_of_refused (by simp only [prepare, ht, validate, if_neg hn, bind, Except.bind])

theorem generateLogged_of_no_dimension (ht : c.template? spec.shape = some t)
    (hn : spec.numeric ∈ c.config.typesFor spec.shape) (hd : ∀ d, ¬spec.AsksFor d) :
    c.generateLogged spec =
      ⟨.error (.unsupportedDimension (.shape spec.shape) (spec.givenDimension.getD 0)), []⟩ := by
  refine generateLogged_of_refused ?_
  simp only [prepare, ht, validate, if_pos hn, Spec.resolve_eq_error hd, Except.map, bind, Except.bind]

/-! ## The template at work -/

/-- With a template, a listed number type and a dimension the template is asked for its script. -/
theorem prepare_of_asksFor (ht : c.template? spec.shape = some t) (hn : spec.numeric ∈ c.config.typesFor spec.shape)
    (hd : spec.AsksFor d) :
    ∃ ctx, c.prepare spec = .ok (t, ctx) ∧ ctx.dimension = d ∧
      ctx.name = typeName (.shape spec.shape) spec.numeric d := by
  have hresolve := Spec.resolve_eq_ok_iff.mpr hd
  refine ⟨⟨spec, d, spec.numeric, c.config⟩, ?_, rfl, rfl⟩
  simp only [prepare, ht, validate, if_pos hn, Context.ofSpec, hresolve, Except.map, bind, Except.bind]

theorem generateLogged_of_size_refused (ht : c.template? spec.shape = some t)
    (hn : spec.numeric ∈ c.config.typesFor spec.shape) (hd : spec.AsksFor 1) (hsized : t = .ellipse ∨ t = .rectangle) :
    c.generateLogged spec = ⟨.error (.unsupportedDimension .sizeAxes 1), [startRecord spec]⟩ := by
  obtain ⟨ctx, hprepare, hdimension, -⟩ := prepare_of_asksFor ht hn hd
  have hscript : t.script ctx = .error (.unsupportedDimension .sizeAxes 1) := by
    rw [Template.script_eq_error_iff, hdimension]
    exact ⟨hsized, by decide, rfl⟩
  rw [generateLogged_of_prepare hprepare, hscript]

theorem generateLogged_of_not_refused (ht : c.template? spec.shape = some t)
    (hn : spec.numeric ∈ c.config.typesFor spec.shape) (hd : spec.AsksFor d)
    (hsize : ¬((t = .ellipse ∨ t = .rectangle) ∧ d = 1)) :
    ∃ source, c.generateLogged spec = ⟨.ok source, [startRecord spec, doneRecord source]⟩ ∧ source.spec = spec ∧
      source.typeName = typeName (.shape spec.shape) spec.numeric d := by
  obtain ⟨ctx, hprepare, hdimension, hname⟩ := prepare_of_asksFor ht hn hd
  cases hscript : t.script ctx with
  | error e =>
    obtain ⟨hsized, hsizeless, -⟩ := Template.script_eq_error_iff.mp hscript
    rw [hdimension, hd.sizeless_iff] at hsizeless
    exact absurd ⟨hsized, hsizeless⟩ hsize
  | ok declaration =>
    refine ⟨sourceFor spec ctx declaration, ?_, rfl, hname⟩
    rw [generateLogged_of_prepare hprepare, hscript]

/-- What a request leads to and which records it leaves, after any registrations; the first of these cases that applies:
1. A shape without a template is refused, without a record.
2. A number type that is not listed for the shape is refused, without a record.
3. A dimension that the shape does not have is refused, as written or as zero, without a record.
4. For dimension one the templates of the ellipse and the rectangle refuse to give a size, after the record of the
   beginning.
5. Otherwise there is a file, for the spec as it was given and under the name of its type, and the record of its success
   counts the bytes of its text. -/
theorem generate_outcome (c : Catalogue) (registrations : List (Shape × Template)) (spec : Spec) :
    let made := c.registerEach registrations
    let last := (lastFor? registrations spec.shape).or (c.template? spec.shape)
    let listed := c.config.typesFor spec.shape
    let start : LogRecord := ⟨.trace, "generating " ++ spec.display⟩
    (last = none → made.generateLogged spec = ⟨.error (.missingTemplate spec.shape), []⟩) ∧
      (∀ t, last = some t → spec.numeric ∉ listed →
        made.generateLogged spec = ⟨.error (.notApplicable spec.shape spec.numeric), []⟩) ∧
      (∀ t, last = some t → spec.numeric ∈ listed → (∀ d, ¬spec.AsksFor d) →
        ∃ owner : DimensionOwner, owner.name = spec.shape.name ∧
          made.generateLogged spec = ⟨.error (.unsupportedDimension owner (spec.givenDimension.getD 0)), []⟩) ∧
      (∀ t, last = some t → spec.numeric ∈ listed → spec.AsksFor 1 → t = .ellipse ∨ t = .rectangle →
        ∃ owner : DimensionOwner, owner.name = "size components" ∧
          made.generateLogged spec = ⟨.error (.unsupportedDimension owner 1), [start]⟩) ∧
      ∀ t d, last = some t → spec.numeric ∈ listed → spec.AsksFor d → ¬((t = .ellipse ∨ t = .rectangle) ∧ d = 1) →
        ∃ source, source.spec = spec ∧ source.typeName = typeName (.shape spec.shape) spec.numeric d ∧
          made.generateLogged spec =
            ⟨.ok source, [start, ⟨.debug, "generated " ++ source.typeName ++ " for " ++ spec.display ++ " (" ++
              source.text.utf8ByteSize.repr ++ " bytes)"⟩]⟩ := by
  intro made last listed start
  have hlast : made.template? spec.shape = last := template?_registerEach c registrations spec.shape
  have hlisted : made.config.typesFor spec.shape = listed := by rw [config_registerEach]
  refine ⟨fun h => ?_, fun t h hn => ?_, fun t h hn hd => ?_, fun t h hn hd hsized => ?_, fun t d h hn hd hsize => ?_⟩
  · exact generateLogged_of_no_template (hlast.trans h)
  · exact generateLogged_of_not_listed (hlast.trans h) (hlisted ▸ hn)
  · exact ⟨.shape spec.shape, rfl, generateLogged_of_no_dimension (hlast.trans h) (hlisted ▸ hn) hd⟩
  · exact ⟨.sizeAxes, rfl, generateLogged_of_size_refused (hlast.trans h) (hlisted ▸ hn) hd hsized⟩
  · obtain ⟨source, houtcome, hspec, hname⟩ := generateLogged_of_not_refused (hlast.trans h) (hlisted ▸ hn) hd hsize
    refine ⟨source, hspec, hname, ?_⟩
    rw [houtcome, doneRecord, hspec]
    rfl

/-- One request for each outcome, where lines have the template of the ellipse: a ray without a template, a circle of a
number type that is not listed, a circle of dimension three, a line of dimension one, and a line of dimension two. -/
theorem generate_outcome_line :
    let config : Config := { generalTypes := [.int], realTypes := [.double] }
    let registrations := [(Shape.circle, Template.circle), (.line, .line), (.line, .ellipse)]
    ∃ bare, empty config = .ok bare ∧
      let made := bare.registerEach registrations
      made.generateLogged ⟨.ray, .int, some 7⟩ = ⟨.error (.missingTemplate .ray), []⟩ ∧
        made.generateLogged ⟨.circle, .double, some 3⟩ = ⟨.error (.notApplicable .circle .double), []⟩ ∧
        (∃ owner : DimensionOwner, owner.name = "Circle" ∧
          made.generateLogged ⟨.circle, .int, some 3⟩ = ⟨.error (.unsupportedDimension owner 3), []⟩) ∧
        (∃ owner : DimensionOwner, owner.name = "size components" ∧
          made.generateLogged ⟨.line, .int, some 1⟩ =
            ⟨.error (.unsupportedDimension owner 1), [⟨.trace, "generating Line<int, 1>"⟩]⟩) ∧
        ∃ source, source.spec = ⟨.line, .int, some 2⟩ ∧ source.typeName = "Line2I" ∧
          made.generateLogged ⟨.line, .int, some 2⟩ =
            ⟨.ok source, [⟨.trace, "generating Line<int, 2>"⟩, ⟨.debug, "generated " ++ source.typeName ++ " for " ++
              "Line<int, 2>" ++ " (" ++ source.text.utf8ByteSize.repr ++ " bytes)"⟩]⟩ := by
  have hnone : ∀ d, ¬(⟨.circle, .int, some 3⟩ : Spec).AsksFor d := by
    intro d hd
    cases Spec.resolve_eq_ok_iff.mpr hd
  have hone : (⟨.line, .int, some 1⟩ : Spec).AsksFor 1 := Spec.resolve_eq_ok_iff.mp rfl
  have htwo : (⟨.line, .int, some 2⟩ : Spec).AsksFor 2 := Spec.resolve_eq_ok_iff.mp rfl
  refine ⟨_, rfl, ?_, ?_, ?_, ?_, ?_⟩
  · exact (generate_outcome _ _ ⟨.ray, .int, some 7⟩).1 rfl
  · exact (generate_outcome _ _ ⟨.circle, .double, some 3⟩).2.1 .circle rfl (by decide)
  · exact (generate_outcome _ _ ⟨.circle, .int, some 3⟩).2.2.1 .circle rfl (by decide) hnone
  · exact (generate_outcome _ _ ⟨.line, .int, some 1⟩).2.2.2.1 .ellipse rfl (by decide) hone (.inl rfl)
  · have hname : typeName (.shape .line) .int 2 = "Line2I" := by decide
    rw [← hname]
    exact (generate_outcome _ _ ⟨.line, .int, some 2⟩).2.2.2.2 .ellipse 2 rfl (by decide) htwo (by decide)

end Catalogue

end GeometrySource
