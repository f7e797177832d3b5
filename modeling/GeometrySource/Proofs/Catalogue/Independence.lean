import GeometrySource.Proofs.Catalogue.Batch
import GeometrySource.Proofs.Template.Footprint

/-!
# What a file depends on

A file depends on the template that was registered last for its shape, on the number types that its shape is generated
for, on the names that the configuration supplies, and on the shape, the number type and the dimension that are asked for.
Everything else about a catalogue and a spec may change, and the file or the refusal stays: the templates of other shapes,
the order of registrations, the number types of other shapes, and whether an implicit dimension is written out.

A template is given the spec as it was written and the whole configuration, so the contexts of two such requests need not be
equal. That no template can tell them apart is what `Template.script_congr` says.
-/

namespace GeometrySource

/-- Two configurations from which a shape takes the same: its number types and the names. -/
structure Config.AgreeOn (first second : Config) (s : Shape) : Prop where
  types : first.typesFor s = second.typesFor s
  namespaceName : first.namespaceName = second.namespaceName
  binaryWriter : first.binaryWriter = second.binaryWriter
  binaryReader : first.binaryReader = second.binaryReader

/-- Two specs that ask for the same, even if only one of them writes its dimension out. -/
structure Spec.Alike (first second : Spec) : Prop where
  shape : first.shape = second.shape
  numeric : first.numeric = second.numeric
  resolve : first.resolve = second.resolve

variable {a b : Spec}

/-- Under configurations that agree, specs that ask for the same have contexts that a file cannot tell apart, or one
refusal. The contexts themselves may differ: they hold the specs as they were written and the whole configurations. -/
theorem Context.ofSpec_agree {first second : Config} (hconfig : first.AgreeOn second a.shape) (h : a.Alike b) :
    (∃ x y, Context.ofSpec first a = .ok x ∧ Context.ofSpec second b = .ok y ∧ x.Agree y ∧
        x.namespaceName = y.namespaceName) ∨
      ∃ e, Context.ofSpec first a = .error e ∧ Context.ofSpec second b = .error e := by
  have hresolve := h.resolve
  cases hdimension : a.resolve with
  | error e =>
    rw [hdimension] at hresolve
    exact Or.inr ⟨e, by rw [ofSpec, hdimension, Except.map], by rw [ofSpec, ← hresolve, Except.map]⟩
  | ok dimension =>
    rw [hdimension] at hresolve
    have htypes : first.typesFor a.shape = second.typesFor b.shape := h.shape ▸ hconfig.types
    refine Or.inl ⟨⟨a, dimension, a.numeric, first⟩, ⟨b, dimension, b.numeric, second⟩, ?_, ?_, ?_, hconfig.namespaceName⟩
    · rw [ofSpec, hdimension, Except.map]
    · rw [ofSpec, ← hresolve, Except.map]
    · exact ⟨⟨h.shape, h.numeric, rfl⟩, htypes, hconfig.binaryWriter, hconfig.binaryReader⟩

namespace Catalogue

variable {first second : Catalogue}

/-- Under configurations that agree, specs that ask for the same are accepted alike. -/
theorem validate_congr (hconfig : first.config.AgreeOn second.config a.shape) (h : a.Alike b) :
    first.validate a = second.validate b := by
  unfold validate
  rw [← h.resolve, ← h.shape, ← h.numeric, hconfig.types]

/-- With one template for the shape, and under configurations that agree, that template is given contexts that agree, or
both requests are refused alike. -/
theorem prepare_agree (htemplate : first.template? a.shape = second.template? a.shape)
    (hconfig : first.config.AgreeOn second.config a.shape) (h : a.Alike b) :
    (∃ t x y, first.prepare a = .ok (t, x) ∧ second.prepare b = .ok (t, y) ∧ x.Agree y ∧
        x.namespaceName = y.namespaceName) ∨
      ∃ e, first.prepare a = .error e ∧ second.prepare b = .error e := by
  have hvalidate := validate_congr hconfig h
  rw [prepare, prepare, ← h.shape, ← htemplate, ← hvalidate]
  cases first.template? a.shape with
  | none => exact Or.inr ⟨.missingTemplate a.shape, rfl, rfl⟩
  | some t =>
    cases first.validate a with
    | error e => exact Or.inr ⟨e, rfl, rfl⟩
    | ok =>
      rcases Context.ofSpec_agree hconfig h with ⟨x, y, hx, hy, hagree, hname⟩ | ⟨e, hx, hy⟩
      · rw [hx, hy]
        exact Or.inl ⟨t, x, y, rfl, rfl, hagree, hname⟩
      · rw [hx, hy]
        exact Or.inr ⟨e, rfl, rfl⟩

/-- A file around a declaration reads the namespace and nothing else. -/
theorem fileScript_congr {x y : Context} (h : x.namespaceName = y.namespaceName) (declaration : Script) :
    fileScript x declaration = fileScript y declaration := by
  rw [fileScript, fileScript, Declaration.openFile_congr h]

/-- The template after registrations is one and the same if the last ones for the shape are. -/
theorem template?_registerEach_congr {history other : List (Shape × Template)} {s : Shape}
    (h : (lastFor? history s).or (first.template? s) = (lastFor? other s).or (second.template? s)) :
    (first.registerEach history).template? s = (second.registerEach other).template? s := by
  rw [template?_registerEach, template?_registerEach, h]

/-- Non-interference. Two catalogues, each after any registrations of its own, give files of the same text and type name,
or refuse with the same error, if the template registered last for the shape is the same in both, the configurations agree
on the number types of the shape and on the names, and the two specs ask for the same shape, number type and dimension. -/
theorem noninterference (first second : Catalogue) (history other : List (Shape × Template)) {a b : Spec}
    (htemplate : (lastFor? history a.shape).or (first.template? a.shape) =
      (lastFor? other a.shape).or (second.template? a.shape))
    (hconfig : first.config.AgreeOn second.config a.shape) (h : a.Alike b) :
    (∃ one two, (first.registerEach history).generate a = .ok one ∧ (second.registerEach other).generate b = .ok two ∧
        one.text = two.text ∧ one.typeName = two.typeName) ∨
      ∃ e, (first.registerEach history).generate a = .error e ∧ (second.registerEach other).generate b = .error e := by
  have hconfig' : (first.registerEach history).config.AgreeOn (second.registerEach other).config a.shape := by
    rwa [config_registerEach, config_registerEach]
  rw [generate_eq, generate_eq]
  rcases prepare_agree (template?_registerEach_congr htemplate) hconfig' h with
    ⟨t, x, y, hx, hy, hagree, hnamespace⟩ | ⟨e, hx, hy⟩
  · -- The contexts agree, so what is made of them does not depend on which of the two the template is given.
    have hscript := t.script_congr hagree
    rw [hx, hy, Except.bind, Except.bind, ← hscript]
    cases t.script x with
    | error e => exact Or.inr ⟨e, rfl, rfl⟩
    | ok declaration =>
      have htext : (sourceFor a x declaration).text = (sourceFor b y declaration).text := by
        rw [sourceFor, sourceFor, fileScript_congr hnamespace]
      exact Or.inl ⟨sourceFor a x declaration, sourceFor b y declaration, rfl, rfl, htext, hagree.toSameType.name⟩
  · rw [hx, hy]
    exact Or.inr ⟨e, rfl, rfl⟩

/-- A ray from a catalogue with all templates, and the same ray with its dimension written out from a catalogue that has
other number types for other shapes, an ellipse for lines, and a template for rays that replaces another one. -/
theorem noninterference_ray :
    let narrow : Config := { generalTypes := [.int], realTypes := [.float, .double] }
    let wide : Config := { generalTypes := [.byte, .ulong, .double], realTypes := [.float, .double] }
    let history := [(Shape.ray, Template.circle), (.line, .ellipse), (.ray, .ray), (.plane, .polygon)]
    ∃ made bare one two, full narrow = .ok made ∧ empty wide = .ok bare ∧
      lastFor? history .ray = made.template? .ray ∧ made.config.AgreeOn bare.config .ray ∧
      Spec.Alike ⟨.ray, .float, none⟩ ⟨.ray, .float, some 3⟩ ∧
      made.generate ⟨.ray, .float, none⟩ = .ok one ∧
      (bare.registerEach history).generate ⟨.ray, .float, some 3⟩ = .ok two ∧
      one.text = two.text ∧ one.typeName = two.typeName := by
  intro narrow wide history
  have hnarrow : narrow.validate = .ok () := by decide
  have hwide : wide.validate = .ok () := by decide
  have hconfig : (registerAll ⟨narrow, fun _ => none, hnarrow⟩).config.AgreeOn wide .ray := ⟨rfl, rfl, rfl, rfl⟩
  have hspecs : Spec.Alike ⟨.ray, .float, none⟩ ⟨.ray, .float, some 3⟩ := ⟨rfl, rfl, rfl⟩
  have hlaw := noninterference (registerAll ⟨narrow, fun _ => none, hnarrow⟩) ⟨wide, fun _ => none, hwide⟩ [] history
    rfl hconfig hspecs
  rcases hlaw with ⟨one, two, hone, htwo, htext, hname⟩ | ⟨e, he, -⟩
  · exact ⟨_, _, one, two, full_of_valid hnarrow, empty_of_valid hwide, rfl, hconfig, hspecs, hone, htwo, htext, hname⟩
  · cases he

end Catalogue

end GeometrySource
