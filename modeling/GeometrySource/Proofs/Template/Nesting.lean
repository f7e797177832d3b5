import GeometrySource.Proofs.Declaration.Nesting
import GeometrySource.Template.Basic

/-!
# Templates are nested

The script of every template is nested, in any context that the template does not refuse. So are the steps that are taken
for it, also up to a refusal.
-/

namespace GeometrySource.Template

open Declaration Script

variable (ctx : Context)

/-- The constructors of a shape with a size. -/
@[simp]
theorem nested_box_constructors (axes : List Component) (list : List Field) (shape anchor anchorDoc : String) :
    (Box.constructors ctx axes list shape anchor anchorDoc).Nested :=
  nested_region _ (by simp)

@[simp]
theorem nested_box_operations (shape anchor : String) : (Box.operations ctx shape anchor).Nested :=
  nested_region _ (by simp)

/-- An ellipse is nested, on any axes. -/
theorem nested_ellipse (axes : List Component) : (Ellipse.scriptOn ctx axes).Nested := by
  have hcircles : (Ellipse.circleConversions ctx axes).Nested := nested_flatMap fun _ _ => nested_conversion ctx _ _ _
  have hproperties : (Ellipse.properties ctx axes).Nested := nested_region _ (by simp [Box.sizeProperty])
  refine nested_outline ctx _ ?_ ?_
  · simp [Ellipse.constants, hproperties, hcircles]
  · simp [Ellipse.contains]

theorem nested_line : (Line.script ctx).Nested := by
  have hproperties : (Line.properties ctx).Nested := nested_region _ (by simp)
  have hconstructors : (Line.constructors ctx).Nested := nested_region _ (by simp)
  have hfunctions : (Line.functions ctx).Nested := nested_region _ (by simp)
  refine nested_outline ctx _ ?_ ?_
  · simp [Line.operations, hproperties, hconstructors]
  · simp [hfunctions]

theorem nested_plane : (Plane.script ctx).Nested := by
  have hconstants : (Plane.constants ctx).Nested :=
    nested_region _ (nested_flatMap fun _ _ => nested_constant ctx _ _ _)
  have hproperties : (Plane.properties ctx).Nested :=
    nested_region _ (nested_flatMap fun _ _ => nested_property _ _ _ _)
  have hconstructors : (Plane.constructors ctx).Nested :=
    nested_region _ (by simp [Plane.coefficientConstructor, Plane.pointConstructor])
  have hfunctions : (Plane.functions ctx).Nested := nested_region _ (by simp)
  refine nested_outline ctx _ ?_ ?_
  · simp [Plane.operations, hconstants, hproperties, hconstructors]
  · simp [hfunctions]

theorem nested_polygon : (Polygon.script ctx).Nested := by
  have hfields : (Polygon.storedFields ctx).Nested := nested_region _ (by simp)
  have hproperties : (Polygon.properties ctx).Nested := nested_region _ (by simp)
  have hconstructors : (Polygon.constructors ctx).Nested := nested_region _ (by simp [constructorSummary])
  have hfunctions : (Polygon.functions ctx).Nested := by
    refine nested_region _ ?_
    by_cases h : ctx.dimension = 2 <;> simp [h, Polygon.perimeter, Polygon.contains]
  refine nested_outline ctx _ ?_ ?_
  · simp [hfields, hproperties, hconstructors, Polygon.operations, Polygon.conversions, Polygon.equality,
      Polygon.formatting]
  · simp [hfunctions, Polygon.binary]

theorem nested_ray : (Ray.script ctx).Nested := by
  have hconstructors : (Ray.constructors ctx).Nested := nested_region _ (by simp)
  have hfunctions : (Ray.functions ctx).Nested :=
    nested_region _ (by simp [Ray.pointAt, Ray.meetPlane, Ray.meetSphere])
  refine nested_outline ctx _ ?_ ?_
  · simp [Ray.operations, hconstructors]
  · simp [hfunctions]

/-- A rectangle is nested, on any axes. -/
theorem nested_rectangle (axes : List Component) : (Rectangle.scriptOn ctx axes).Nested := by
  have hproperties : (Rectangle.properties ctx axes).Nested := nested_region _ (by simp [Box.sizeProperty])
  refine nested_outline ctx _ ?_ ?_
  · simp [Rectangle.constants, hproperties]
  · simp [Rectangle.contains, Rectangle.intersects]

/-- A circle or a sphere is nested. -/
theorem nested_round (figure : Round.Figure) : (Round.script figure ctx).Nested := by
  have hmeasures : Nested (figure.measures.flatMap fun m =>
      property ctx.real.keyword m.name m.doc (Declaration.cast ctx.real.keyword ("(" ++ m.formula ++ ")"))) :=
    nested_flatMap fun _ _ => nested_property _ _ _ _
  have hproperties : (Round.properties ctx figure.measures).Nested := nested_region _ (by simp [hmeasures])
  have hconstructors : (Round.constructors ctx).Nested := nested_region _ (by simp)
  refine nested_outline ctx _ ?_ ?_
  · simp [Round.constants, Round.operations, hproperties, hconstructors]
  · simp [Round.contains, Round.intersects]

/-- What a function made of a result has come from a result. -/
theorem exists_of_map_eq_ok {α β : Type} {f : α → β} {result : Except Error α} {b : β} (h : result.map f = .ok b) :
    ∃ a, result = .ok a ∧ f a = b := by
  cases result with
  | error error => cases h
  | ok a => exact ⟨a, rfl, Except.ok.inj h⟩

/-- Every template is nested. -/
theorem nested_script {t : Template} {ctx : Context} {declaration : Script} (h : t.script ctx = .ok declaration) :
    declaration.Nested := by
  cases t with
  | circle => cases h; exact nested_round ctx _
  | sphere => cases h; exact nested_round ctx _
  | line => cases h; exact nested_line ctx
  | plane => cases h; exact nested_plane ctx
  | polygon => cases h; exact nested_polygon ctx
  | ray => cases h; exact nested_ray ctx
  | ellipse =>
    obtain ⟨axes, -, rfl⟩ := exists_of_map_eq_ok h
    exact nested_ellipse ctx axes
  | rectangle =>
    obtain ⟨axes, -, rfl⟩ := exists_of_map_eq_ok h
    exact nested_rectangle ctx axes

/-- The steps that an emitter takes for a template in a context, up to the end or to a refusal. -/
def steps (t : Template) (ctx : Context) : Script :=
  (t.emission ctx).steps

theorem steps_of_ok {t : Template} {ctx : Context} {declaration : Script} (h : t.script ctx = .ok declaration) :
    t.steps ctx = declaration := by
  rw [steps, emission_eq, h, Emission.lookUp_ok_bind, Emission.write]

/-- No step comes in front of a refusal. -/
theorem steps_of_error {t : Template} {ctx : Context} {error : Error} (h : t.script ctx = .error error) :
    t.steps ctx = [] := by
  rw [steps, emission_eq, h, Emission.lookUp_error_bind, Emission.lookUp]

/-- The steps of a template are nested, also if it refuses. -/
theorem nested_steps (t : Template) (ctx : Context) : (t.steps ctx).Nested := by
  cases hscript : t.script ctx with
  | ok declaration => exact steps_of_ok hscript ▸ nested_script hscript
  | error error => exact steps_of_error hscript ▸ nested_nil

end GeometrySource.Template
