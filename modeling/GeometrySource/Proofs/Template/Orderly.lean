import GeometrySource.Proofs.Declaration.Frame
import GeometrySource.Proofs.Template.Nesting
import GeometrySource.Proofs.Template.Ordinary

/-!
# Templates are orderly

The script of every template is orderly, in any context that the template does not refuse, and its landmarks are the four
of a declaration.
-/

namespace GeometrySource.Template

open Declaration Script Text

variable (ctx : Context)

@[simp]
theorem isType_scalar : IsType ctx.scalar := isType_keyword _

@[simp]
theorem isType_shapeName (shape : Shape) (n : Numeric) : IsType (ctx.shapeName shape n) := isType_typeName _ _ _

/-- A line may begin with the name of a component. -/
theorem calm_of_mem_componentNames {name : String} (h : name ∈ componentNames) : Calm name := by
  have hall : ∀ name ∈ componentNames, Calm name := by decide
  exact hall name h

/-! ## Circles, spheres, ellipses and rectangles -/

theorem described_round : ∀ f ∈ Round.storedFields ctx, f.Described := by
  intro f hf
  rcases List.mem_append.mp hf with hcoordinate | hradius
  · obtain ⟨name, hname, rfl⟩ := List.mem_map.mp hcoordinate
    obtain ⟨c, hc, rfl⟩ := List.mem_map.mp hname
    exact ⟨calm_of_mem_componentNames (name_mem_of_mem_components hc), by simp +decide [String.append_assoc]⟩
  · have hdoc : IsDescription (Round.radiusDoc ctx) := by
      unfold Round.radiusDoc
      simp +decide [String.append_assoc]
    rw [List.mem_singleton.mp hradius]
    exact ⟨show Calm "Radius" by decide, hdoc⟩

/-- A measure that has a description. -/
structure Round.Measure.Described (m : Round.Measure) : Prop where
  name : Ends isPlainEnd m.name
  doc : IsDescription m.doc

theorem described_circle : ∀ m ∈ Round.circle.measures, m.Described := by
  simp only [Round.circle, List.forall_mem_cons]
  exact ⟨⟨by decide, isDescription_ofList (by decide)⟩,
    ⟨by decide, isDescription_ofList (by decide)⟩, by simp⟩

theorem described_sphere : ∀ m ∈ Round.sphere.measures, m.Described := by
  simp only [Round.sphere, List.forall_mem_cons]
  exact ⟨⟨by decide, isDescription_ofList (by decide)⟩,
    ⟨by decide, isDescription_ofList (by decide)⟩, by simp⟩

/-- A circle or a sphere is orderly. -/
theorem orderly_round {figure : Round.Figure} (hfigure : ∀ m ∈ figure.measures, m.Described) :
    Orderly ctx.name (landmarks ctx) (Round.script figure ctx) := by
  have hconstants : Orderly ctx.name [] (Round.constants ctx) :=
    orderly_region (by decide) (orderly_constant ctx (by decide) (by simp +decide [String.append_assoc])
      (by simp +decide [or_imp, forall_and]))
  have hcenter : Orderly ctx.name [] (property ctx.point "Center" ("Gets the center of the " ++ ctx.parameter ++ ".")
      (construct ctx.point (Round.coordinates ctx))) :=
    orderly_property (calm_typeName _ _ _) (by decide) (by simp +decide [String.append_assoc]) _
  have hmeasures : Orderly ctx.name [] (figure.measures.flatMap fun m =>
      property ctx.real.keyword m.name m.doc (Declaration.cast ctx.real.keyword ("(" ++ m.formula ++ ")"))) :=
    orderly_flatMap fun m hm =>
      orderly_property (calm_keyword _) (hfigure m hm).name (hfigure m hm).doc _
  have hproperties : Orderly ctx.name [] (Round.properties ctx figure.measures) :=
    orderly_region (by decide) ((orderly_append hcenter).mpr hmeasures)
  have hconstructors : Orderly ctx.name [] (Round.constructors ctx) :=
    orderly_region (by decide) ((orderly_append (orderly_fieldConstructor ctx (described_round ctx))).mpr
      (orderly_chainedConstructor ctx _ _))
  have hoperations : Orderly ctx.name [] (Round.operations ctx) :=
    orderly_region (by decide) (orderly_displacements ctx _ _)
  have hcontains : Orderly ctx.name [] (Round.contains ctx) :=
    orderly_region (by decide) (orderly_function (by simp +decide [String.append_assoc]) isType_bool
      (by decide) (by simp) (by simp))
  have hintersects : Orderly ctx.name [] (Round.intersects ctx) :=
    orderly_region (by decide) (orderly_function (by simp +decide [String.append_assoc]) isType_bool
      (by decide) (by simp) (by simp +decide))
  refine orderly_outline ctx ?_ ?_
  · simp [hconstants, orderly_fields ctx (described_round ctx), hproperties, hconstructors, hoperations,
      orderly_derivedMembers]
  · exact ((orderly_derivedFunctions ctx _ _).append_bare hcontains).append_bare hintersects

variable {axes : List Component} (haxes : sizeAxes ctx.dimension = .ok axes)

include haxes

/-- The fields of a shape with a size are described. -/
theorem described_box {shape anchor : String} : ∀ f ∈ Box.storedFields ctx axes shape anchor, f.Described := by
  intro f hf
  rcases List.mem_append.mp hf with hcoordinate | hextent
  · obtain ⟨name, hname, rfl⟩ := List.mem_map.mp hcoordinate
    obtain ⟨c, hc, rfl⟩ := List.mem_map.mp hname
    exact ⟨calm_of_mem_componentNames (name_mem_of_mem_components hc), by simp +decide [String.append_assoc]⟩
  · obtain ⟨axis, haxis, rfl⟩ := List.mem_map.mp hextent
    exact ⟨calm_of_mem_componentNames (name_mem_of_mem_sizeAxes haxes haxis), by simp +decide [String.append_assoc]⟩

/-- The constructors of a shape with a size are orderly. -/
theorem orderly_box_constructors (shape anchor anchorDoc : String) :
    Orderly ctx.name []
      (Box.constructors ctx axes (Box.storedFields ctx axes shape anchor) shape anchor anchorDoc) :=
  orderly_region (by decide) ((orderly_append (orderly_fieldConstructor ctx (described_box ctx haxes))).mpr
    (orderly_chainedConstructor ctx _ _))

omit haxes

@[simp]
theorem orderly_box_operations (type shape anchor : String) : Orderly type [] (Box.operations ctx shape anchor) :=
  orderly_region (by decide) (orderly_displacements ctx _ _)

/-- The point of a shape with a size and its size are orderly as properties. -/
theorem orderly_box_properties (type : String) {name doc shape : String} (hname : Ends isPlainEnd name)
    (hdoc : IsDescription doc) :
    Orderly type []
      (property ctx.point name doc (construct ctx.point (Box.coordinates ctx)) ++ Box.sizeProperty ctx axes shape) := by
  have hsize : Orderly type [] (Box.sizeProperty ctx axes shape) :=
    orderly_property (calm_typeName _ _ _) (by decide) (by simp +decide [String.append_assoc]) _
  exact (orderly_append (orderly_property (calm_typeName _ _ _) hname hdoc _)).mpr hsize

include haxes

/-- An ellipse is orderly. -/
theorem orderly_ellipse : Orderly ctx.name (landmarks ctx) (Ellipse.scriptOn ctx axes) := by
  have hconstants : Orderly ctx.name [] (Ellipse.constants ctx axes) :=
    orderly_region (by decide) (orderly_constant ctx (by decide) (by simp +decide [String.append_assoc])
      (by simp +decide [or_imp, forall_and]))
  have hproperties : Orderly ctx.name [] (Ellipse.properties ctx axes) :=
    orderly_region (by decide) (orderly_box_properties ctx _ (by decide) (isDescription_ofList (by decide)))
  have hconstructors : Orderly ctx.name [] (Box.constructors ctx axes (Ellipse.storedFields ctx axes) "ellipse" "center"
      "The center of the ellipse.") := orderly_box_constructors ctx haxes _ _ _
  have hfields : Orderly ctx.name [] (fields ctx (Ellipse.storedFields ctx axes)) :=
    orderly_fields ctx (described_box ctx haxes)
  have hcircles : Orderly ctx.name [] (Ellipse.circleConversions ctx axes) :=
    orderly_flatMap fun _ _ => orderly_conversion ctx (isType_typeName _ _ _) _ _
  have hoffset : ∀ c axis, Neat (Ellipse.offsetStatement ctx c axis) := by
    intro c axis
    unfold Ellipse.offsetStatement
    simp +decide [String.append_assoc]
  have hcontains : Orderly ctx.name [] (Ellipse.contains ctx axes) := by
    refine orderly_region (by decide) (orderly_function (isDescription_ofList (by decide)) isType_bool (by decide) (by simp)
      fun statement hmem => ?_)
    simp only [List.mem_append, List.mem_singleton, List.mem_map] at hmem
    rcases hmem with (rfl | ⟨pair, -, rfl⟩) | rfl
    · exact neat_of_calm (by decide) (by decide)
    · exact hoffset pair.1 pair.2
    · exact neat_returning _
  refine orderly_outline ctx ?_ ?_
  · simp [hconstants, hfields, hproperties, hconstructors, orderly_derivedMembers, hcircles]
  · exact (orderly_derivedFunctions ctx _ _).append_bare hcontains

/-- A rectangle is orderly. -/
theorem orderly_rectangle : Orderly ctx.name (landmarks ctx) (Rectangle.scriptOn ctx axes) := by
  have hconstants : Orderly ctx.name [] (Rectangle.constants ctx axes) :=
    orderly_region (by decide) (orderly_constant ctx (by decide) (by simp +decide [String.append_assoc]) (by simp +decide))
  have hlocation : Orderly ctx.name []
      (property ctx.point "Location" "Gets the location of the rectangle's bottom left corner."
        (construct ctx.point (Box.coordinates ctx)) ++ Box.sizeProperty ctx axes "rectangle") :=
    orderly_box_properties ctx _ (by decide) (isDescription_ofList (by decide))
  have hproperties : Orderly ctx.name [] (Rectangle.properties ctx axes) := by
    refine orderly_region (by decide) ?_
    rw [List.append_assoc, List.append_assoc, List.append_assoc, orderly_append hlocation]
    refine (orderly_append ?_).mpr ((orderly_append ?_).mpr ((orderly_append ?_).mpr ?_))
    all_goals exact orderly_property (calm_keyword _) (by decide) (isDescription_ofList (by decide)) _
  have hconstructors : Orderly ctx.name [] (Box.constructors ctx axes (Rectangle.storedFields ctx axes) "rectangle"
      "location" "The location of the rectangle's bottom left corner.") := orderly_box_constructors ctx haxes _ _ _
  have hfields : Orderly ctx.name [] (fields ctx (Rectangle.storedFields ctx axes)) :=
    orderly_fields ctx (described_box ctx haxes)
  have hcontains : Orderly ctx.name [] (Rectangle.contains ctx) :=
    orderly_region (by decide)
      (orderly_function (isDescription_ofList (by decide)) isType_bool (by decide) (by simp) (by simp))
  have hintersects : Orderly ctx.name [] (Rectangle.intersects ctx) :=
    orderly_region (by decide)
      (orderly_function (isDescription_ofList (by decide)) isType_bool (by decide) (by simp) (by simp))
  refine orderly_outline ctx ?_ ?_
  · simp [hconstants, hfields, hproperties, hconstructors, orderly_derivedMembers]
  · exact ((orderly_derivedFunctions ctx _ _).append_bare hcontains).append_bare hintersects

omit haxes

/-! ## Line segments, planes and rays -/

theorem described_line : ∀ f ∈ Line.storedFields, f.Described := by
  simp only [Line.storedFields, List.forall_mem_cons]
  exact ⟨⟨by decide, isDescription_ofList (by decide)⟩,
    ⟨by decide, isDescription_ofList (by decide)⟩, by simp⟩

theorem orderly_line : Orderly ctx.name (landmarks ctx) (Line.script ctx) := by
  have hfields : Orderly ctx.name [] (fields ctx Line.storedFields) := orderly_fields ctx described_line
  have hvector : Orderly ctx.name [] (property ctx.vector "Vector"
      "Gets the vector from the start point to the end point." "End - Start") :=
    orderly_property (calm_typeName _ _ _) (by decide) (isDescription_ofList (by decide)) _
  have hlength : Orderly ctx.name [] (property ctx.real.keyword "Length" "Gets the length of the line."
      (Declaration.cast ctx.real.keyword "Point.Distance(Start, End)")) :=
    orderly_property (calm_keyword _) (by decide) (isDescription_ofList (by decide)) _
  have hproperties : Orderly ctx.name [] (Line.properties ctx) :=
    orderly_region (by decide) ((orderly_append hvector).mpr hlength)
  have hconstructors : Orderly ctx.name [] (Line.constructors ctx) :=
    orderly_region (by decide) ((orderly_append (orderly_fieldConstructor ctx described_line)).mpr
      (orderly_chainedConstructor ctx _ _))
  have hoperations : Orderly ctx.name [] (Line.operations ctx) :=
    orderly_region (by decide) (orderly_displacements ctx _ _)
  have hfunctions : Orderly ctx.name [] (Line.functions ctx) := by
    refine orderly_region (by decide) ((orderly_append ((orderly_append ?_).mpr ?_)).mpr ?_)
    · exact orderly_function (isDescription_ofList (by decide)) (isType_name ctx) (by decide) (by simp) (by simp)
    · exact orderly_function (isDescription_ofList (by decide)) (isType_keyword _) (by decide) (by simp) (by simp +decide)
    · exact orderly_function (isDescription_ofList (by decide)) (isType_vector ctx) (by decide) (by simp) (by simp +decide)
  refine orderly_outline ctx ?_ ?_
  · simp [hfields, hproperties, hconstructors, hoperations, orderly_derivedMembers]
  · exact (orderly_derivedFunctions ctx _ _).append_bare hfunctions

theorem described_plane : ∀ f ∈ Plane.storedFields, f.Described := by
  simp only [Plane.storedFields, List.forall_mem_cons]
  exact ⟨⟨by decide, isDescription_ofList (by decide)⟩,
    ⟨by decide, isDescription_ofList (by decide)⟩, by simp⟩

theorem orderly_plane : Orderly ctx.name (landmarks ctx) (Plane.script ctx) := by
  have hfields : Orderly ctx.name [] (fields ctx Plane.storedFields) := orderly_fields ctx described_plane
  have hconstants : Orderly ctx.name [] (Plane.constants ctx) := by
    have hnamed : ∀ named ∈ Plane.namedPlanes, '(' ∉ named.1.toList := by decide
    refine orderly_region (by decide) (orderly_flatMap fun named hmem => ?_)
    refine orderly_constant ctx (hnamed named hmem) (by simp +decide [String.append_assoc]) ?_
    simp +decide [construct, String.append_assoc]
  have hproperties : Orderly ctx.name [] (Plane.properties ctx) := by
    have hcoefficients : ∀ entry ∈ Plane.coefficients ctx, Ends isPlainEnd entry.1 := by
      intro entry hmem
      have hall : ∀ name ∈ Plane.coefficientNames, Ends isPlainEnd name := by decide
      exact hall entry.1 (List.of_mem_zip hmem).1
    refine orderly_region (by decide) (orderly_flatMap fun entry hmem => ?_)
    exact orderly_property (calm_keyword _) (hcoefficients entry hmem) (by simp +decide [String.append_assoc]) _
  have hconstructors : Orderly ctx.name [] (Plane.constructors ctx) :=
    orderly_region (by decide)
      (by simp [orderly_fieldConstructor ctx described_plane, Plane.coefficientConstructor, Plane.pointConstructor])
  have hoperations : Orderly ctx.name [] (Plane.operations ctx) :=
    orderly_region (by decide)
      (orderly_operator (isDescription_ofList (by decide)) (isType_name ctx) (by decide) (by simp) _)
  have hfunctions : Orderly ctx.name [] (Plane.functions ctx) := by
    refine orderly_region (by decide) ?_
    refine (orderly_append ((orderly_append ((orderly_append ?_).mpr ?_)).mpr ?_)).mpr ?_
    · exact orderly_function (isDescription_ofList (by decide)) (isType_name ctx) (by decide) (by simp) (by simp +decide)
    · exact orderly_function (isDescription_of_begins (begins_append.mpr (.inl (by decide)))
        (ends_append.mpr (.inl (by decide)))) (isType_scalar ctx) (by decide) (by simp) (by simp)
    · exact orderly_function (isDescription_ofList (by decide)) (isType_scalar ctx) (by decide) (by simp) (by simp)
    · exact orderly_function (isDescription_ofList (by decide)) (isType_keyword _) (by decide) (by simp) (by simp)
  refine orderly_outline ctx ?_ ?_
  · simp [hfields, hconstants, hproperties, hconstructors, hoperations, orderly_derivedMembers]
  · exact (orderly_derivedFunctions ctx _ _).append_bare hfunctions

theorem described_ray : ∀ f ∈ Ray.storedFields, f.Described := by
  simp only [Ray.storedFields, List.forall_mem_cons]
  exact ⟨⟨by decide, isDescription_ofList (by decide)⟩,
    ⟨by decide, isDescription_ofList (by decide)⟩, by simp⟩

/-- A ray is orderly. Its searches for points of intersection return a number or null. -/
theorem orderly_ray : Orderly ctx.name (landmarks ctx) (Ray.script ctx) := by
  have hfields : Orderly ctx.name [] (fields ctx Ray.storedFields) := orderly_fields ctx described_ray
  have hconstructors : Orderly ctx.name [] (Ray.constructors ctx) :=
    orderly_region (by decide) ((orderly_append (orderly_fieldConstructor ctx described_ray)).mpr
      (orderly_chainedConstructor ctx _ _))
  have hoperations : Orderly ctx.name [] (Ray.operations ctx) :=
    orderly_region (by decide) (orderly_displacements ctx _ _)
  have hresult : IsType (Ray.distanceOrNull ctx) :=
    ⟨by simp [Ray.distanceOrNull, (isType_scalar ctx).bare], diverge_append (isType_scalar ctx).noClass _,
      diverge_append (isType_scalar ctx).noThis _⟩
  have hpoint : Orderly ctx.name [] (Ray.pointAt ctx) :=
    orderly_function (isDescription_ofList (by decide)) (isType_point ctx) (by decide) (by simp)
      (by simp (disch := (with_reducible apply Written.intro; decide)) [neat_of_written])
  have hplane : Orderly ctx.name [] (Ray.meetPlane ctx) :=
    orderly_function (isDescription_ofList (by decide)) hresult (by decide) (by simp)
      (by simp (disch := (with_reducible apply Written.intro; decide)) [neat_of_written, or_imp, forall_and])
  have hdistance : Neat ("var distance = -b - " ++ Declaration.cast ctx.scalar "Math.Sqrt(discriminant);") := by
    simp +decide [Declaration.cast]
  have hsphere : Orderly ctx.name [] (Ray.meetSphere ctx) :=
    orderly_function (isDescription_ofList (by decide)) hresult (by decide) (by simp)
      (by simp (disch := (with_reducible apply Written.intro; decide)) [neat_of_written, or_imp, forall_and, hdistance])
  have hfunctions : Orderly ctx.name [] (Ray.functions ctx) :=
    orderly_region (by decide) (by simp [hpoint, hplane, hsphere])
  refine orderly_outline ctx ?_ ?_
  · simp [hfields, hconstructors, hoperations, orderly_derivedMembers]
  · exact (orderly_derivedFunctions ctx _ _).append_bare hfunctions

/-! ## Polygons -/

/-- The statements of a polygon are neat, those in its loops and tests included. -/
theorem neat_hashStatements : ∀ statement ∈ Polygon.hashStatements, Neat statement := by
  simp (disch := (with_reducible apply Written.intro; decide)) [neat_of_written, Polygon.hashStatements,
    or_imp, forall_and]

theorem neat_equalStatements : ∀ statement ∈ Polygon.equalStatements, Neat statement := by
  simp (disch := (with_reducible apply Written.intro; decide)) [neat_of_written, Polygon.equalStatements,
    or_imp, forall_and]

/-- The functions that write and read the vertices are the binary landmarks. -/
theorem orderly_polygon_binary (type : String) : Orderly type [writeHead ctx, readHead ctx] (Polygon.binary ctx) := by
  refine (orderly_binaryMembers ctx type ?_ ?_).region (by decide)
  · simp +decide [or_imp, forall_and]
  · simp +decide [or_imp, forall_and, String.append_assoc]

/-- The functions of a polygon are orderly, the test for a point being one in the plane only. -/
theorem orderly_polygon_functions (type : String) : Orderly type [] (Polygon.functions ctx) := by
  have hkeyword : Calm ctx.real.keyword := by
    have hall : ∀ n ∈ Numeric.all, Calm n.keyword := by decide
    exact hall _ (Numeric.mem_all _)
  have hperimeter : Orderly type [] (Polygon.perimeter ctx) :=
    orderly_function (isDescription_ofList (by decide)) (isType_keyword _) (by decide) (by simp)
      (by simp +decide [or_imp, forall_and, Declaration.cast, hkeyword])
  have htest : Neat ("if ((a.Y > point.Y) != (b.Y > point.Y) && point.X < " ++
      Declaration.cast ctx.real.keyword "(b.X - a.X) * (point.Y - a.Y) / (b.Y - a.Y) + a.X)") := by
    simp +decide [Declaration.cast]
  have hcontains : Orderly type [] (Polygon.contains ctx) :=
    orderly_function (isDescription_ofList (by decide)) isType_bool (by decide) (by simp)
      (by simp (disch := (with_reducible apply Written.intro; decide)) [neat_of_written, or_imp, forall_and, htest])
  refine orderly_region (by decide) ((orderly_append hperimeter).mpr ?_)
  by_cases h : ctx.dimension = 2 <;> simp [h, hcontains]

theorem orderly_polygon : Orderly ctx.name (landmarks ctx) (Polygon.script ctx) := by
  have hfields : Orderly ctx.name [] (Polygon.storedFields ctx) :=
    orderly_region (by decide) (by simp +decide [String.append_assoc])
  have hcount : Orderly ctx.name [] (property "int" "Count" "Gets the number of vertices in the polygon."
      "Points.Length") := orderly_property (by decide) (by decide) (isDescription_ofList (by decide)) _
  have hvertex : Orderly ctx.name [] (property ctx.point "this[int index]" "Gets the vertex at the given index."
      "Points[index]") := orderly_property (calm_typeName _ _ _) (by decide) (isDescription_ofList (by decide)) _
  have hproperties : Orderly ctx.name [] (Polygon.properties ctx) :=
    orderly_region (by decide) ((orderly_append hcount).mpr hvertex)
  have hconstructors : Orderly ctx.name [] (Polygon.constructors ctx) := by
    -- The parameter list takes any number of points, so it is none that `parameterList` makes.
    let head := "public " ++ ctx.name ++ "(params " ++ ctx.point ++ "[] points)"
    have hhead : head = constructorOpening ctx.name ++ ("params " ++ (ctx.point ++ "[] points)")) := by
      simp [head, constructorOpening, ← String.toList_inj]
    have hstart : StartsWith (constructorOpening ctx.name) head := hhead ▸ startsWith_append _ _
    have hstatements : ∀ statement ∈ ["Contract.Requires(points != null);",
        "Points = " ++ Declaration.cast (ctx.point ++ "[]") "points.Clone();"], Neat statement := by
      simp +decide [Declaration.cast]
    refine orderly_region (by decide) ?_
    rw [List.append_assoc]
    exact orderly_constructor ctx (isComment_param _ _) (orderly_param _ _ _) hstart (by simp +decide)
      (orderly_body hstatements)
  have hconversions : Orderly ctx.name [] (Polygon.conversions ctx) :=
    orderly_region (by decide) (orderly_conversionsBy ctx _ _)
  have hoperations : Orderly ctx.name [] (Polygon.operations ctx) :=
    orderly_region (by decide) (orderly_displacements ctx _ _)
  have hequality : Orderly ctx.name [] (Polygon.equality ctx) :=
    orderly_region (by decide)
      (orderly_equalityMembers ctx neat_hashStatements neat_equalStatements (by simp +decide))
  have hformatting : Orderly ctx.name [] (Polygon.formatting ctx) :=
    orderly_region (by decide) (orderly_toStringMembers ctx _ _)
  refine orderly_outline ctx ?_ ?_
  · simp [hfields, hproperties, hconstructors, hoperations, hconversions, hequality, hformatting]
  · exact ((orderly_polygon_binary ctx _).append_bare (orderly_equalsFunction ctx _)).append_bare
      (orderly_polygon_functions ctx _)

/-! ## All templates -/

/-- Every template is orderly. -/
theorem orderly_script {t : Template} {ctx : Context} {declaration : Script} (h : t.script ctx = .ok declaration) :
    Orderly ctx.name (landmarks ctx) declaration := by
  cases t with
  | circle => cases h; exact orderly_round ctx described_circle
  | sphere => cases h; exact orderly_round ctx described_sphere
  | line => cases h; exact orderly_line ctx
  | plane => cases h; exact orderly_plane ctx
  | polygon => cases h; exact orderly_polygon ctx
  | ray => cases h; exact orderly_ray ctx
  | ellipse =>
    obtain ⟨axes, haxes, rfl⟩ := exists_of_map_eq_ok h
    exact orderly_ellipse ctx haxes
  | rectangle =>
    obtain ⟨axes, haxes, rfl⟩ := exists_of_map_eq_ok h
    exact orderly_rectangle ctx haxes

end GeometrySource.Template
