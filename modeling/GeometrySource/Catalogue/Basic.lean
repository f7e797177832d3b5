import GeometrySource.Template.Basic

/-!
# Catalogues

A catalogue has a valid configuration and, for some of the shapes, the template that declares them. The template that was
registered last for a shape counts.
-/

namespace GeometrySource

/-- A valid configuration with the templates of the shapes. -/
structure Catalogue where
  config : Config
  /-- The template of a shape, if one is registered. -/
  template? : Shape → Option Template
  valid : config.validate = .ok ()

namespace Catalogue

/-- A catalogue without templates. -/
def empty (config : Config) : Except Error Catalogue :=
  match valid : config.validate with
  | .ok () => .ok ⟨config, fun _ => none, valid⟩
  | .error error => .error error

/-- Registers a template for a shape, in place of an earlier one. -/
def register (c : Catalogue) (s : Shape) (t : Template) : Catalogue :=
  { c with template? := fun other => if other = s then some t else c.template? other }

/-- The template registered last for a shape is its template. -/
@[simp]
theorem template?_register_self (c : Catalogue) (s : Shape) (t : Template) : (c.register s t).template? s = some t :=
  if_pos rfl

/-- Registering for one shape leaves the others alone. -/
theorem template?_register_of_ne (c : Catalogue) {s other : Shape} (t : Template) (h : other ≠ s) :
    (c.register s t).template? other = c.template? other :=
  if_neg h

/-- Registering keeps the configuration. -/
@[simp]
theorem config_register (c : Catalogue) (s : Shape) (t : Template) : (c.register s t).config = c.config := rfl

/-- Registers for every shape the template made for it. -/
def registerAll (c : Catalogue) : Catalogue :=
  Shape.all.foldl (fun c s => c.register s s.template) c

/-- A catalogue with all templates. -/
def full (config : Config) : Except Error Catalogue :=
  (empty config).map registerAll

/-- The catalogue of the default configuration with all templates. -/
def standard : Catalogue :=
  registerAll ⟨{}, fun _ => none, rfl⟩

/-- Whether a template is registered for a shape. -/
def hasTemplate (c : Catalogue) (s : Shape) : Bool :=
  (c.template? s).isSome

/-- Refuses a spec whose number type the configuration does not list for the shape, and then one whose dimension the shape
does not have. -/
def validate (c : Catalogue) (spec : Spec) : Except Error Unit :=
  if spec.numeric ∈ c.config.typesFor spec.shape then
    spec.resolve.map fun _ => ()
  else
    .error (.notApplicable spec.shape spec.numeric)

/-- The specs of a shape for a number type: one for each of its dimensions, or one without. -/
def specsOf (s : Shape) (n : Numeric) : List Spec :=
  if s.isDimensioned then
    s.dimensions.map fun d => ⟨s, n, some (UInt32.ofNat d)⟩
  else
    [⟨s, n, none⟩]

/-- Every spec that the configuration and the templates call for: by shape, then by number type in the configuration's
order, then by dimension. -/
def plan (c : Catalogue) : List Spec :=
  (Shape.all.filter c.hasTemplate).flatMap fun s => (c.config.typesFor s).flatMap (specsOf s)

end Catalogue

end GeometrySource
