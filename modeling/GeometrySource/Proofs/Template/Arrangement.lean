import GeometrySource.Proofs.Declaration.Conversion
import GeometrySource.Proofs.Template.Nesting
import GeometrySource.Proofs.Template.Ordinary

/-!
# Arrangements

An arrangement is a declaration with its conversions singled out: everything else in it has ordinary lines. Every
template makes an arrangement, and that of the ellipse alone has conversions from circles.
-/

namespace GeometrySource

open Declaration Script Text

/-- A declaration in parts: what stands in front of the conversions and behind them, the arguments that the conversions
construct the value from, those from circles if there are any, and the functions of the static class. -/
structure Arrangement (ctx : Context) where
  description : String
  before : Script
  args : List String
  circleArgs? : Option (List String)
  after : Script
  functions : Script
  singleLine_description : SingleLine description
  ordinary_before : EachLine Ordinary before
  singleLine_args : ∀ arg ∈ args, SingleLine arg
  singleLine_circleArgs : ∀ list ∈ circleArgs?, ∀ arg ∈ list, SingleLine arg
  ordinary_after : EachLine Ordinary after
  ordinary_functions : EachLine Ordinary functions

namespace Arrangement

variable {ctx : Context}

/-- The conversions from the circles of all number types, if there are any. -/
def circleConversionsBy (ctx : Context) : Option (List String) → Script
  | some args => ctx.types.flatMap fun source => conversion ctx source (ctx.shapeName .circle source) args
  | none => []

/-- The members of the struct. -/
def members (a : Arrangement ctx) : Script :=
  a.before ++ region "Conversions" (conversionsBy ctx a.args ++ circleConversionsBy ctx a.circleArgs?) ++ a.after

/-- The declaration that is arranged. -/
def script (a : Arrangement ctx) : Script :=
  outline ctx a.description a.members a.functions

/-- The circles that are converted from, by number type and name. -/
def circleSources (a : Arrangement ctx) : List (Numeric × String) :=
  if a.circleArgs?.isSome then ctx.types.map fun source => (source, ctx.shapeName .circle source) else []

/-- The types that are converted from, by number type and name. -/
def sources (a : Arrangement ctx) : List (Numeric × String) :=
  (ctx.others.map fun source => (source, ctx.nameFor source)) ++ a.circleSources

/-- The remark on a conversion. -/
def remark (ctx : Context) (source : Numeric × String) : Remark :=
  ⟨ctx.needsClsMarker source.1, operatorLine ctx source.1 source.2⟩

/-- The conversions from circles call for a remark each. -/
theorem shows_circleConversions (a : Arrangement ctx) :
    Shows ctx.name (circleConversionsBy ctx a.circleArgs?) (a.circleSources.map (remark ctx)) := by
  have hargs := a.singleLine_circleArgs
  unfold circleSources
  cases hcircle : a.circleArgs? with
  | none => exact shows_of_ordinary eachLine_nil
  | some args =>
    rw [Option.isSome_some, if_pos rfl, List.map_map]
    exact shows_flatMap fun source _ =>
      shows_conversion (ctx.singleLine_shapeName .circle source) (hargs args (by rw [hcircle]; rfl))

/-- The members call for a remark on every conversion. -/
theorem shows_members (a : Arrangement ctx) : Shows ctx.name a.members (a.sources.map (remark ctx)) := by
  have hown : Shows ctx.name (conversionsBy ctx a.args)
      ((ctx.others.map fun source => (source, ctx.nameFor source)).map (remark ctx)) := by
    rw [List.map_map]
    exact shows_flatMap fun source _ => shows_conversion (ctx.singleLine_nameFor source) a.singleLine_args
  have hname : SingleLine "Conversions" := by decide
  have hregion := Shows.region hname (hown.append a.shows_circleConversions)
  have hwhole := ((shows_of_ordinary a.ordinary_before).append hregion).append (shows_of_ordinary a.ordinary_after)
  rwa [List.nil_append, List.append_nil, ← List.map_append] at hwhole

/-- A declaration calls for a remark on its struct, if that is marked, and on every conversion. -/
theorem shows_script (a : Arrangement ctx) :
    Shows ctx.name a.script
      ((if ctx.numeric.clsCompliant then [] else [⟨true, structLine ctx.name⟩]) ++ a.sources.map (remark ctx)) := by
  have hhead : Shows ctx.name (structHead ctx a.description) _ := shows_structHead a.singleLine_description
  have hclass : Shows ctx.name (companionHead ctx ++ block a.functions) [] :=
    shows_of_ordinary (eachLine_append.mpr ⟨ordinary_companionHead, ordinary_block.mpr a.ordinary_functions⟩)
  have hwhole := (hhead.append a.shows_members.block).append hclass
  rw [List.append_nil] at hwhole
  rw [script, outline_eq]
  exact hwhole

/-- The members have single lines only. -/
theorem singleLine_members (a : Arrangement ctx) : EachLine SingleLine a.members := by
  have hregion : ∀ inner : Script, EachLine SingleLine inner → EachLine SingleLine (region "Conversions" inner) := by
    intro inner hinner
    rw [region, eachLine_append, eachLine_append]
    exact ⟨⟨singleLine_of_ordinary (ordinary_openRegion.mpr (by decide)), hinner⟩,
      singleLine_of_ordinary ordinary_closeRegion⟩
  rw [members, eachLine_append, eachLine_append]
  refine ⟨⟨singleLine_of_ordinary a.ordinary_before, hregion _ (eachLine_append.mpr ⟨?_, ?_⟩)⟩,
    singleLine_of_ordinary a.ordinary_after⟩
  · rw [conversionsBy, eachLine_flatMap]
    exact fun source _ => singleLine_conversion (ctx.singleLine_nameFor source) a.singleLine_args
  · have hargs := a.singleLine_circleArgs
    cases hcircle : a.circleArgs? with
    | none => exact eachLine_nil
    | some args =>
      rw [circleConversionsBy, eachLine_flatMap]
      exact fun source _ =>
        singleLine_conversion (ctx.singleLine_shapeName .circle source) (hargs args (by rw [hcircle]; rfl))

/-- A declaration has single lines only. -/
theorem singleLine_script (a : Arrangement ctx) : EachLine SingleLine a.script := by
  rw [script, outline_eq]
  simp only [eachLine_append, eachLine_block]
  exact ⟨⟨singleLine_structHead a.singleLine_description, by decide, a.singleLine_members, by decide⟩,
    singleLine_of_ordinary ordinary_companionHead, by decide, singleLine_of_ordinary a.ordinary_functions,
    by decide⟩

/-- A declaration over plain fields has an arrangement whose conversions cast every field. -/
theorem exists_of_fields (description : String) (list : List Field) (circleArgs? : Option (List String))
    {before rest : Script} (hwriter : SingleLine ctx.binaryWriter) (hreader : SingleLine ctx.binaryReader)
    (hdescription : SingleLine description) (hlist : ∀ f ∈ list, f.Plain) (hbefore : EachLine Ordinary before)
    (hcircles : ∀ args ∈ circleArgs?, ∀ arg ∈ args, SingleLine arg) (hrest : EachLine Ordinary rest) :
    ∃ a : Arrangement ctx,
      a.script = outline ctx description (before ++ derivedMembers ctx list (circleConversionsBy ctx circleArgs?))
        (derivedFunctions ctx list ++ rest) ∧
      a.circleArgs? = circleArgs? := by
  let casts := list.map fun f => Declaration.cast (f.type ctx) ("value." ++ f.name)
  have hcasts : ∀ arg ∈ casts, SingleLine arg := by
    intro arg harg
    obtain ⟨f, hf, rfl⟩ := List.mem_map.mp harg
    simp [(f.isWord_type ctx).singleLine, (hlist f hf).name.singleLine, show SingleLine "value." by decide]
  refine ⟨⟨description, before, casts, circleArgs?, equality ctx list ++ toStringRegion ctx list,
    derivedFunctions ctx list ++ rest, hdescription, hbefore, hcasts, hcircles,
    eachLine_append.mpr ⟨ordinary_equality hlist, ordinary_toStringRegion hlist⟩,
    eachLine_append.mpr ⟨ordinary_derivedFunctions hwriter hreader hlist, hrest⟩⟩, ?_, rfl⟩
  simp only [script, members, derivedMembers, conversions, List.append_assoc, casts]

end Arrangement

namespace Template

open Arrangement

variable {ctx : Context} (hwriter : SingleLine ctx.binaryWriter) (hreader : SingleLine ctx.binaryReader)

include hwriter hreader

/-- The arrangement of a circle or a sphere. -/
theorem exists_arrangement_round {figure : Round.Figure} (hdescription : SingleLine figure.description)
    (hmeasures : ∀ m ∈ figure.measures, m.Plain) :
    ∃ a : Arrangement ctx, a.script = Round.script figure ctx ∧ a.circleArgs? = none := by
  have hplain : ∀ f ∈ Round.storedFields ctx, f.Plain := Round.plain_storedFields
  have hbefore : EachLine Ordinary (Round.constants ctx ++ fields ctx (Round.storedFields ctx) ++
      Round.properties ctx figure.measures ++ Round.constructors ctx ++ Round.operations ctx) := by
    simp only [eachLine_append]
    exact ⟨⟨⟨⟨Round.ordinary_constants, ordinary_fields hplain⟩, Round.ordinary_properties hmeasures⟩,
      Round.ordinary_constructors⟩, Round.ordinary_operations⟩
  have hrest : EachLine Ordinary (Round.contains ctx ++ Round.intersects ctx) :=
    eachLine_append.mpr ⟨Round.ordinary_contains, Round.ordinary_intersects⟩
  obtain ⟨a, hscript, hcircle⟩ := exists_of_fields figure.description (Round.storedFields ctx) none hwriter hreader
    hdescription hplain hbefore (by simp) hrest
  refine ⟨a, hscript.trans ?_, hcircle⟩
  simp only [Round.script, circleConversionsBy, List.append_assoc]

/-- The arrangement of a line segment. -/
theorem exists_arrangement_line : ∃ a : Arrangement ctx, a.script = Line.script ctx ∧ a.circleArgs? = none := by
  have hbefore : EachLine Ordinary (fields ctx Line.storedFields ++ Line.properties ctx ++ Line.constructors ctx ++
      Line.operations ctx) := by
    simp only [eachLine_append]
    exact ⟨⟨⟨ordinary_fields Line.plain_storedFields, Line.ordinary_properties⟩, Line.ordinary_constructors⟩,
      Line.ordinary_operations⟩
  obtain ⟨a, hscript, hcircle⟩ := exists_of_fields "a line segment" Line.storedFields none hwriter hreader (by decide)
    Line.plain_storedFields hbefore (by simp) Line.ordinary_functions
  exact ⟨a, hscript, hcircle⟩

/-- The arrangement of a plane. -/
theorem exists_arrangement_plane : ∃ a : Arrangement ctx, a.script = Plane.script ctx ∧ a.circleArgs? = none := by
  have hbefore : EachLine Ordinary (Plane.constants ctx ++ fields ctx Plane.storedFields ++ Plane.properties ctx ++
      Plane.constructors ctx ++ Plane.operations ctx) := by
    simp only [eachLine_append]
    exact ⟨⟨⟨⟨Plane.ordinary_constants, ordinary_fields Plane.plain_storedFields⟩, Plane.ordinary_properties⟩,
      Plane.ordinary_constructors⟩, Plane.ordinary_operations⟩
  obtain ⟨a, hscript, hcircle⟩ := exists_of_fields "a plane" Plane.storedFields none hwriter hreader (by decide)
    Plane.plain_storedFields hbefore (by simp) Plane.ordinary_functions
  exact ⟨a, hscript, hcircle⟩

/-- The arrangement of a ray. -/
theorem exists_arrangement_ray : ∃ a : Arrangement ctx, a.script = Ray.script ctx ∧ a.circleArgs? = none := by
  have hbefore : EachLine Ordinary (fields ctx Ray.storedFields ++ Ray.constructors ctx ++ Ray.operations ctx) := by
    simp only [eachLine_append]
    exact ⟨⟨ordinary_fields Ray.plain_storedFields, Ray.ordinary_constructors⟩, Ray.ordinary_operations⟩
  obtain ⟨a, hscript, hcircle⟩ := exists_of_fields "a ray" Ray.storedFields none hwriter hreader (by decide)
    Ray.plain_storedFields hbefore (by simp) Ray.ordinary_functions
  exact ⟨a, hscript, hcircle⟩

/-- The arrangement of a rectangle, on the axes of its dimension. -/
theorem exists_arrangement_rectangle {axes : List Component} (haxes : sizeAxes ctx.dimension = .ok axes) :
    ∃ a : Arrangement ctx, a.script = Rectangle.scriptOn ctx axes ∧ a.circleArgs? = none := by
  have hplain : ∀ f ∈ Rectangle.storedFields ctx axes, f.Plain :=
    Box.plain_storedFields haxes (by decide) (by decide)
  have hbefore : EachLine Ordinary (Rectangle.constants ctx axes ++ fields ctx (Rectangle.storedFields ctx axes) ++
      Rectangle.properties ctx axes ++
      Box.constructors ctx axes (Rectangle.storedFields ctx axes) "rectangle" "location"
        "The location of the rectangle's bottom left corner." ++
      Box.operations ctx "rectangle" "Location") := by
    simp only [eachLine_append]
    exact ⟨⟨⟨⟨Rectangle.ordinary_constants, ordinary_fields hplain⟩, Rectangle.ordinary_properties haxes⟩,
      Box.ordinary_constructors haxes (by decide) (by decide) (by decide) (singleLine_of_written (.intro (by decide)))⟩,
      Box.ordinary_operations (by decide) (by decide)⟩
  have hrest : EachLine Ordinary (Rectangle.contains ctx ++ Rectangle.intersects ctx) :=
    eachLine_append.mpr ⟨Rectangle.ordinary_contains, Rectangle.ordinary_intersects⟩
  obtain ⟨a, hscript, hcircle⟩ := exists_of_fields "a rectangle" (Rectangle.storedFields ctx axes) none hwriter hreader
    (by decide) hplain hbefore (by simp) hrest
  refine ⟨a, hscript.trans ?_, hcircle⟩
  simp only [Rectangle.scriptOn, circleConversionsBy, List.append_assoc]

/-- The arrangement of an ellipse, on the axes of its dimension. It alone has conversions from circles. -/
theorem exists_arrangement_ellipse {axes : List Component} (haxes : sizeAxes ctx.dimension = .ok axes) :
    ∃ a : Arrangement ctx, a.script = Ellipse.scriptOn ctx axes ∧ a.circleArgs?.isSome := by
  have hplain : ∀ f ∈ Ellipse.storedFields ctx axes, f.Plain := Box.plain_storedFields haxes (by decide) (by decide)
  have hbefore : EachLine Ordinary (Ellipse.constants ctx axes ++ fields ctx (Ellipse.storedFields ctx axes) ++
      Ellipse.properties ctx axes ++
      Box.constructors ctx axes (Ellipse.storedFields ctx axes) "ellipse" "center" "The center of the ellipse." ++
      Box.operations ctx "ellipse" "Center") := by
    simp only [eachLine_append]
    exact ⟨⟨⟨⟨Ellipse.ordinary_constants, ordinary_fields hplain⟩, Ellipse.ordinary_properties haxes⟩,
      Box.ordinary_constructors haxes (by decide) (by decide) (by decide) (singleLine_of_written (.intro (by decide)))⟩,
      Box.ordinary_operations (by decide) (by decide)⟩
  let circleArgs := ((Box.coordinates ctx).map fun c => Declaration.cast ctx.scalar ("value." ++ c)) ++
    axes.map fun _ => Declaration.cast ctx.scalar "(value.Radius * 2)"
  have hcircles : ∀ args ∈ some circleArgs, ∀ arg ∈ args, SingleLine arg := by
    intro args hargs arg harg
    cases hargs
    rcases List.mem_append.mp harg with hcoordinate | hradius
    · obtain ⟨name, hname, rfl⟩ := List.mem_map.mp hcoordinate
      simp [(isWord_coordinate hname).1.singleLine, show SingleLine "value." by decide]
    · refine singleLine_of_mem_const ?_ hradius
      rw [singleLine_cast]
      exact ⟨ctx.singleLine_scalar, singleLine_of_written (.intro (by decide))⟩
  obtain ⟨a, hscript, hcircle⟩ := exists_of_fields "an ellipse" (Ellipse.storedFields ctx axes) (some circleArgs) hwriter
    hreader (by decide) hplain hbefore hcircles (Ellipse.ordinary_contains haxes)
  refine ⟨a, hscript.trans ?_, by rw [hcircle]; rfl⟩
  simp only [Ellipse.scriptOn, Ellipse.circleConversions, circleConversionsBy, List.append_assoc, circleArgs]

/-- The arrangement of a polygon, whose conversions cast every vertex. -/
theorem exists_arrangement_polygon : ∃ a : Arrangement ctx, a.script = Polygon.script ctx ∧ a.circleArgs? = none := by
  have hbefore : EachLine Ordinary (Polygon.storedFields ctx ++ Polygon.properties ctx ++ Polygon.constructors ctx ++
      Polygon.operations ctx) := by
    simp only [eachLine_append]
    exact ⟨⟨⟨Polygon.ordinary_storedFields, Polygon.ordinary_properties⟩, Polygon.ordinary_constructors⟩,
      Polygon.ordinary_operations⟩
  have hfunctions : EachLine Ordinary (Polygon.binary ctx ++ equalsFunction ctx ++ Polygon.functions ctx) := by
    simp only [eachLine_append]
    exact ⟨⟨Polygon.ordinary_binary hwriter hreader, ordinary_equalsFunction⟩, Polygon.ordinary_functions⟩
  have hargs : ∀ arg ∈ ["Array.ConvertAll(value.Points, point => " ++ Declaration.cast ctx.point "point" ++ ")"],
      SingleLine arg := by
    simp (disch := (with_reducible apply Written.intro; decide)) [singleLine_of_written]
  have hafter : EachLine Ordinary (Polygon.equality ctx ++ Polygon.formatting ctx) :=
    eachLine_append.mpr ⟨Polygon.ordinary_equality, Polygon.ordinary_formatting⟩
  refine ⟨⟨"a polygon", _, _, none, _, _, by decide, hbefore, hargs, by simp, hafter, hfunctions⟩, ?_, rfl⟩
  simp only [Arrangement.script, members, circleConversionsBy, Polygon.script, Polygon.conversions, List.append_assoc,
    List.append_nil]

/-- Every template makes an arrangement, and that of the ellipse alone has conversions from circles. -/
theorem exists_arrangement {t : Template} {declaration : Script} (h : t.script ctx = .ok declaration) :
    ∃ a : Arrangement ctx, a.script = declaration ∧ (a.circleArgs?.isSome ↔ t = .ellipse) := by
  have hnone : ∀ {script : Script}, (∃ a : Arrangement ctx, a.script = script ∧ a.circleArgs? = none) → t ≠ .ellipse →
      ∃ a : Arrangement ctx, a.script = script ∧ (a.circleArgs?.isSome ↔ t = .ellipse) := by
    rintro script ⟨a, hscript, hcircle⟩ ht
    exact ⟨a, hscript, by simp [hcircle, ht]⟩
  cases t with
  | circle =>
    cases h
    exact hnone (exists_arrangement_round hwriter hreader (by decide) Round.plain_circle) (by decide)
  | sphere =>
    cases h
    exact hnone (exists_arrangement_round hwriter hreader (by decide) Round.plain_sphere) (by decide)
  | line => cases h; exact hnone (exists_arrangement_line hwriter hreader) (by decide)
  | plane => cases h; exact hnone (exists_arrangement_plane hwriter hreader) (by decide)
  | polygon => cases h; exact hnone (exists_arrangement_polygon hwriter hreader) (by decide)
  | ray => cases h; exact hnone (exists_arrangement_ray hwriter hreader) (by decide)
  | rectangle =>
    obtain ⟨axes, haxes, rfl⟩ := exists_of_map_eq_ok h
    exact hnone (exists_arrangement_rectangle hwriter hreader haxes) (by decide)
  | ellipse =>
    obtain ⟨axes, haxes, rfl⟩ := exists_of_map_eq_ok h
    obtain ⟨a, hscript, hcircle⟩ := exists_arrangement_ellipse hwriter hreader haxes
    exact ⟨a, hscript, by simp [hcircle]⟩

end Template

end GeometrySource
