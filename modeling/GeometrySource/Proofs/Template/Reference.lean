import GeometrySource.Proofs.Declaration.Reference
import GeometrySource.Proofs.Template.Arrangement

/-!
# What templates refer to

In its parameter lists every template refers to the declared type and to the types of the same shape that are converted
to it. Ellipses refer to circles as well, and rays to planes and spheres. The only other names are those of the writer and
the reader that the configuration supplies.
-/

namespace GeometrySource.Template

open Declaration Script Text

/-- The shape types that a template refers to. -/
def references (t : Template) (ctx : Context) : List String :=
  ctx.name :: ctx.others.map ctx.nameFor ++
    match t with
    | ellipse => ctx.types.map (ctx.shapeName .circle)
    | ray => [ctx.shapeName .plane ctx.numeric, ctx.shapeName .sphere ctx.numeric]
    | _ => []

variable {ctx : Context} {cited : String → Prop}

/-! ## Lines that lead to a reference -/

section Leads

variable (hname : cited ctx.name) (hothers : ∀ n ∈ ctx.others, cited (ctx.nameFor n))
  (hwriter : Names cited ctx.binaryWriter) (hreader : Names cited ctx.binaryReader)

include hname hothers hwriter hreader

/-! ### Circles, spheres, ellipses and rectangles -/

/-- A circle or a sphere refers to its own types. -/
theorem leads_round {figure : Round.Figure} (hmeasures : ∀ m ∈ figure.measures, m.Plain) :
    EachLine (Leads cited) (Round.script figure ctx) := by
  have hproperties : EachLine (Leads cited) (Round.properties ctx figure.measures) := by
    rw [Round.properties, leads_region, eachLine_append, eachLine_flatMap]
    exact ⟨leads_property (by decide), fun m hm => leads_property (endsQuiet_of_isWord (hmeasures m hm).name)⟩
  have hconstructors : EachLine (Leads cited) (Round.constructors ctx) := by
    rw [Round.constructors, leads_region, eachLine_append]
    refine ⟨leads_fieldConstructor hname fun f hf => (Round.plain_storedFields f hf).name,
      leads_chainedConstructor hname ?_⟩
    simp (disch := (with_reducible apply Written.intro; decide)) [names_of_written]
  have hcontains : EachLine (Leads cited) (Round.contains ctx) := by
    rw [Round.contains, leads_region]
    refine leads_function (names_of_written (.intro (by decide))) (names_of_written (.intro (by decide))) ?_ (by simp)
    simp (disch := (with_reducible apply Written.intro; decide)) [names_of_written, names_name hname]
  have hintersects : EachLine (Leads cited) (Round.intersects ctx) := by
    rw [Round.intersects, leads_region]
    refine leads_function (names_of_written (.intro (by decide))) (names_of_written (.intro (by decide))) ?_
      (by simp +decide)
    simp (disch := (with_reducible apply Written.intro; decide)) [names_of_written, names_name hname]
  refine leads_outline ?_ ?_
  · simp [Round.constants, Round.operations, hproperties, hconstructors, leads_displacements hname,
      leads_derivedMembers hname hothers]
  · simp [leads_derivedFunctions hname hwriter hreader, hcontains, hintersects]

omit hothers hwriter hreader in
/-- The constructors of a shape with a size. -/
theorem leads_box_constructors {axes : List Component} (haxes : sizeAxes ctx.dimension = .ok axes)
    {shape anchor : String} (hshape : SingleLine shape) (hanchor : IsWord anchor) (hforeign : Names cited anchor)
    (anchorDoc : String) :
    EachLine (Leads cited)
      (Box.constructors ctx axes (Box.storedFields ctx axes shape anchor) shape anchor anchorDoc) := by
  rw [Box.constructors, leads_region, eachLine_append]
  refine ⟨leads_fieldConstructor hname fun f hf => (Box.plain_storedFields haxes hshape hanchor.singleLine f hf).name,
    leads_chainedConstructor hname ?_⟩
  simp (disch := (with_reducible apply Written.intro; decide)) [names_of_written, hforeign]

omit hname hothers hwriter hreader in
/-- The size as a property. -/
theorem leads_sizeProperty (axes : List Component) (shape : String) :
    EachLine (Leads cited) (Box.sizeProperty ctx axes shape) :=
  leads_property (by decide)

/-- An ellipse refers to circles as well. -/
theorem leads_ellipse {axes : List Component} (haxes : sizeAxes ctx.dimension = .ok axes)
    (hcircles : ∀ n ∈ ctx.types, cited (ctx.shapeName .circle n)) :
    EachLine (Leads cited) (Ellipse.scriptOn ctx axes) := by
  have hproperties : EachLine (Leads cited) (Ellipse.properties ctx axes) := by
    rw [Ellipse.properties, leads_region, eachLine_append]
    exact ⟨leads_property (by decide), leads_sizeProperty axes _⟩
  have hconstructors : EachLine (Leads cited) (Box.constructors ctx axes (Ellipse.storedFields ctx axes) "ellipse"
      "center" "The center of the ellipse.") :=
    leads_box_constructors hname haxes (by decide) (by decide) (names_of_written (.intro (by decide))) _
  have hconversions : EachLine (Leads cited) (Ellipse.circleConversions ctx axes) := by
    rw [Ellipse.circleConversions, eachLine_flatMap]
    intro n hn
    exact leads_conversion hname n (names_of_isWord (isWord_typeName _ _ _) fun _ => hcircles n hn)
  have hcontains : EachLine (Leads cited) (Ellipse.contains ctx axes) := by
    have hoffset : ∀ c axis, Leads cited (Ellipse.offsetStatement ctx c axis) := by
      intro c axis
      unfold Ellipse.offsetStatement
      simp +decide
    rw [Ellipse.contains, leads_region]
    refine leads_function (names_of_written (.intro (by decide))) (names_of_written (.intro (by decide))) ?_ ?_
    · simp (disch := (with_reducible apply Written.intro; decide)) [names_of_written, names_name hname]
    · simp only [List.mem_append, List.mem_singleton, List.mem_map]
      rintro statement ((rfl | ⟨pair, -, rfl⟩) | rfl)
      · exact leads_of_endsQuiet (by decide)
      · exact hoffset pair.1 pair.2
      · exact leads_returning _
  refine leads_outline ?_ ?_
  · simp [Ellipse.constants, Box.operations, hproperties, hconstructors, leads_displacements hname,
      leads_derivedMembers hname hothers, hconversions]
  · simp [leads_derivedFunctions hname hwriter hreader, hcontains]

/-- A rectangle refers to its own types. -/
theorem leads_rectangle {axes : List Component} (haxes : sizeAxes ctx.dimension = .ok axes) :
    EachLine (Leads cited) (Rectangle.scriptOn ctx axes) := by
  have hproperties : EachLine (Leads cited) (Rectangle.properties ctx axes) := by
    rw [Rectangle.properties, leads_region]
    simp +decide [leads_property, leads_sizeProperty]
  have hconstructors : EachLine (Leads cited) (Box.constructors ctx axes (Rectangle.storedFields ctx axes) "rectangle"
      "location" "The location of the rectangle's bottom left corner.") :=
    leads_box_constructors hname haxes (by decide) (by decide) (names_of_written (.intro (by decide))) _
  have hcontains : EachLine (Leads cited) (Rectangle.contains ctx) := by
    rw [Rectangle.contains, leads_region]
    refine leads_function (names_of_written (.intro (by decide))) (names_of_written (.intro (by decide))) ?_ (by simp)
    simp (disch := (with_reducible apply Written.intro; decide)) [names_of_written, names_name hname]
  have hintersects : EachLine (Leads cited) (Rectangle.intersects ctx) := by
    rw [Rectangle.intersects, leads_region]
    refine leads_function (names_of_written (.intro (by decide))) (names_of_written (.intro (by decide))) ?_ (by simp)
    simp (disch := (with_reducible apply Written.intro; decide)) [names_of_written, names_name hname]
  refine leads_outline ?_ ?_
  · simp [Rectangle.constants, Box.operations, hproperties, hconstructors, leads_displacements hname,
      leads_derivedMembers hname hothers]
  · simp [leads_derivedFunctions hname hwriter hreader, hcontains, hintersects]

/-! ### Line segments, planes and rays -/

/-- A line segment refers to its own types. -/
theorem leads_line : EachLine (Leads cited) (Line.script ctx) := by
  have hproperties : EachLine (Leads cited) (Line.properties ctx) := by
    rw [Line.properties, leads_region, eachLine_append]
    exact ⟨leads_property (by decide), leads_property (by decide)⟩
  have hconstructors : EachLine (Leads cited) (Line.constructors ctx) := by
    rw [Line.constructors, leads_region, eachLine_append]
    refine ⟨leads_fieldConstructor hname fun f hf => (Line.plain_storedFields f hf).name,
      leads_chainedConstructor hname fun p hp => ?_⟩
    obtain ⟨endName, hend, hmem⟩ := List.mem_flatMap.mp hp
    obtain ⟨c, hc, rfl⟩ := List.mem_map.mp hmem
    have hforeign : ∀ endName ∈ Line.ends, ∀ name ∈ componentNames, beginsLikeShape (endName ++ name) = false := by
      decide
    have hcoordinate := hforeign endName hend c.name (name_mem_of_mem_components hc)
    refine ⟨names_scalar ctx, names_of_isWord (Line.plain_coordinateParameters hend _ hmem).1.name fun hshape => ?_⟩
    exact absurd hshape.beginsLikeShape (by simp [hcoordinate])
  have hfunctions : EachLine (Leads cited) (Line.functions ctx) := by
    have hline : ∀ p ∈ [(⟨ctx.name, "line"⟩ : Parameter)], Names cited p.type ∧ Names cited p.name := by
      simp (disch := (with_reducible apply Written.intro; decide)) [names_of_written, names_name hname]
    rw [Line.functions, leads_region]
    simp only [eachLine_append]
    exact ⟨⟨leads_function (names_name hname) (names_of_written (.intro (by decide))) hline (by simp),
      leads_function (names_keyword _) (names_of_written (.intro (by decide))) hline (by simp +decide)⟩,
      leads_function (names_vector ctx) (names_of_written (.intro (by decide))) hline (by simp +decide)⟩
  refine leads_outline ?_ ?_
  · simp [Line.operations, hproperties, hconstructors, leads_displacements hname, leads_derivedMembers hname hothers]
  · simp [leads_derivedFunctions hname hwriter hreader, hfunctions]

/-- A plane refers to its own types. -/
theorem leads_plane : EachLine (Leads cited) (Plane.script ctx) := by
  have hconstants : EachLine (Leads cited) (Plane.constants ctx) := by
    rw [Plane.constants, leads_region, eachLine_flatMap]
    exact fun _ _ => leads_constant _ _ _
  have hproperties : EachLine (Leads cited) (Plane.properties ctx) := by
    rw [Plane.properties, leads_region, eachLine_flatMap]
    rintro ⟨coefficient, c⟩ hmem
    have hword := (Plane.isWord_coefficient hmem).1
    exact leads_property (endsQuiet_of_isWord hword)
  have hcoefficients : ∀ p ∈ Plane.coefficientParameters ctx, Names cited p.type ∧ Names cited p.name := by
    rintro p hp
    obtain ⟨⟨coefficient, c⟩, hmem, rfl⟩ := List.mem_map.mp hp
    have hword := (Plane.isWord_coefficient hmem).1
    exact ⟨names_scalar ctx, names_parameterName hword⟩
  have hconstructors : EachLine (Leads cited) (Plane.constructors ctx) := by
    rw [Plane.constructors, leads_region]
    simp only [eachLine_append]
    refine ⟨⟨leads_fieldConstructor hname fun f hf => (Plane.plain_storedFields f hf).name,
      leads_chainedConstructor hname ?_⟩, leads_chainedConstructor hname ?_⟩
    · simp (disch := (with_reducible apply Written.intro; decide)) only [List.mem_append, List.mem_singleton, or_imp,
        forall_and, forall_eq, names_scalar, names_of_written, and_true]
      exact ⟨fun p hp => (hcoefficients p hp).1, fun p hp => (hcoefficients p hp).2⟩
    · simp (disch := (with_reducible apply Written.intro; decide)) [names_of_written]
  have hoperations : EachLine (Leads cited) (Plane.operations ctx) := by
    rw [Plane.operations, leads_region]
    refine leads_operator (names_name hname) (names_of_written (.intro (by decide))) ?_
    simp (disch := (with_reducible apply Written.intro; decide)) [names_of_written, names_name hname]
  have hplane : Names cited ctx.name ∧ Names cited "plane" :=
    ⟨names_name hname, names_of_written (.intro (by decide))⟩
  have hpoint : Names cited ctx.point ∧ Names cited "point" :=
    ⟨names_point ctx, names_of_written (.intro (by decide))⟩
  have hvector : Names cited ctx.vector ∧ Names cited "vector" :=
    ⟨names_vector ctx, names_of_written (.intro (by decide))⟩
  have hfunctions : EachLine (Leads cited) (Plane.functions ctx) := by
    rw [Plane.functions, leads_region]
    simp only [eachLine_append]
    refine ⟨⟨⟨leads_function (names_name hname) (names_of_written (.intro (by decide))) (by simp [hplane])
        (by simp +decide),
      leads_function (names_scalar ctx) (names_of_written (.intro (by decide))) (by simp [hplane, hpoint]) (by simp)⟩,
      leads_function (names_scalar ctx) (names_of_written (.intro (by decide))) (by simp [hplane, hvector]) (by simp)⟩,
      leads_function (names_keyword _) (names_of_written (.intro (by decide))) (by simp [hplane, hpoint]) (by simp)⟩
  refine leads_outline ?_ ?_
  · simp [hconstants, hproperties, hconstructors, hoperations, leads_derivedMembers hname hothers]
  · simp [leads_derivedFunctions hname hwriter hreader, hfunctions]

/-- A ray refers to a plane and a sphere as well. -/
theorem leads_ray (hplane : cited (ctx.shapeName .plane ctx.numeric))
    (hsphere : cited (ctx.shapeName .sphere ctx.numeric)) : EachLine (Leads cited) (Ray.script ctx) := by
  have hconstructors : EachLine (Leads cited) (Ray.constructors ctx) := by
    rw [Ray.constructors, leads_region, eachLine_append]
    refine ⟨leads_fieldConstructor hname fun f hf => (Ray.plain_storedFields f hf).name,
      leads_chainedConstructor hname ?_⟩
    simp (disch := (with_reducible apply Written.intro; decide)) [names_of_written]
  have hresult : Names cited (Ray.distanceOrNull ctx) :=
    (names_append_written (.intro (by decide))).mpr (names_scalar ctx)
  have hray : Names cited ctx.name ∧ Names cited "ray" :=
    ⟨names_name hname, names_of_written (.intro (by decide))⟩
  have hdistance : Names cited ctx.scalar ∧ Names cited "distance" :=
    ⟨names_scalar ctx, names_of_written (.intro (by decide))⟩
  have hmeets : ∀ shape, cited (ctx.shapeName shape ctx.numeric) → Names cited (ctx.shapeName shape ctx.numeric) :=
    fun _ h => names_of_isWord (isWord_typeName _ _ _) fun _ => h
  have hpoint : EachLine (Leads cited) (Ray.pointAt ctx) :=
    leads_function (names_point ctx) (names_of_written (.intro (by decide))) (by simp [hray, hdistance])
      (by simp +decide)
  have hplaneFunction : EachLine (Leads cited) (Ray.meetPlane ctx) := by
    refine leads_function hresult (names_of_written (.intro (by decide))) ?_ ?_
    · simp (disch := (with_reducible apply Written.intro; decide)) [names_of_written, hray, hmeets _ hplane]
    · simp +decide [braced, or_imp, forall_and]
  have hsphereFunction : EachLine (Leads cited) (Ray.meetSphere ctx) := by
    refine leads_function hresult (names_of_written (.intro (by decide))) ?_ ?_
    · simp (disch := (with_reducible apply Written.intro; decide)) [names_of_written, hray, hmeets _ hsphere]
    · simp +decide [braced, or_imp, forall_and]
  refine leads_outline ?_ ?_
  · simp [hconstructors, Ray.operations, leads_displacements hname, leads_derivedMembers hname hothers]
  · simp [leads_derivedFunctions hname hwriter hreader, Ray.functions, hpoint, hplaneFunction, hsphereFunction]

/-! ### Polygons -/

omit hname hothers hwriter hreader in
/-- No statement that adds up the hashes of the vertices looks like a head. -/
theorem quiet_hashStatements : ∀ statement ∈ Polygon.hashStatements, StartsQuiet statement := by
  decide

omit hname hothers hwriter hreader in
/-- No statement that compares two polygons looks like a head. -/
theorem quiet_equalStatements : ∀ statement ∈ Polygon.equalStatements, StartsQuiet statement := by
  decide

omit hothers in
/-- The binary functions of a polygon refer to it, to the writer and to the reader. -/
theorem leads_polygon_binary : EachLine (Leads cited) (Polygon.binary ctx) := by
  rw [Polygon.binary, leads_region]
  refine leads_binaryMembers hname hwriter hreader ?_ ?_
  · simp +decide [braced]
  · simp +decide [braced, or_imp, forall_and]

omit hothers hwriter hreader in
/-- The perimeter and the test for a point refer to the polygon. -/
theorem leads_polygon_functions : EachLine (Leads cited) (Polygon.functions ctx) := by
  have hpolygon : Names cited ctx.name ∧ Names cited "polygon" :=
    ⟨names_name hname, names_of_written (.intro (by decide))⟩
  have hpoint : Names cited ctx.point ∧ Names cited "point" :=
    ⟨names_point ctx, names_of_written (.intro (by decide))⟩
  have hperimeter : EachLine (Leads cited) (Polygon.perimeter ctx) := by
    refine leads_function (names_keyword _) (names_of_written (.intro (by decide))) (by simp [hpolygon]) ?_
    simp +decide [braced, Declaration.cast, or_imp, forall_and]
  have hcontains : EachLine (Leads cited) (Polygon.contains ctx) := by
    refine leads_function (names_of_written (.intro (by decide))) (names_of_written (.intro (by decide)))
      (by simp [hpolygon, hpoint]) ?_
    simp +decide [braced, or_imp, forall_and]
  rw [Polygon.functions, leads_region]
  by_cases h : ctx.dimension = 2 <;> simp [h, hperimeter, hcontains]

/-- A polygon refers to its own types. -/
theorem leads_polygon : EachLine (Leads cited) (Polygon.script ctx) := by
  have hfields : EachLine (Leads cited) (Polygon.storedFields ctx) := by
    simp +decide [Polygon.storedFields]
  have hproperties : EachLine (Leads cited) (Polygon.properties ctx) := by
    rw [Polygon.properties, leads_region, eachLine_append]
    exact ⟨leads_property (by decide), leads_property (by decide)⟩
  have hhead : Names cited ("public " ++ ctx.name ++ "(params " ++ ctx.point ++ "[] points)") := by
    simp only [String.append_assoc]
    rw [names_written_append (.intro (by decide)), names_append_written_append (.intro (by decide)),
      names_append_written (.intro (by decide))]
    exact ⟨names_name hname, names_point ctx⟩
  have hconstructors : EachLine (Leads cited) (Polygon.constructors ctx) := by
    simp +decide [Polygon.constructors, hhead]
  have hconversions : EachLine (Leads cited) (Polygon.conversions ctx) := by
    rw [Polygon.conversions, leads_region]
    exact leads_conversionsBy hname hothers _
  have hequality : EachLine (Leads cited) (Polygon.equality ctx) := by
    rw [Polygon.equality, leads_region]
    exact leads_equalityMembers hname (fun statement h => leads_of_startsQuiet (quiet_hashStatements statement h))
      (fun statement h => leads_of_startsQuiet (quiet_equalStatements statement h)) (by simp +decide)
  refine leads_outline ?_ ?_
  · simp [hfields, hproperties, hconstructors, hconversions, hequality, Polygon.operations, Polygon.formatting,
      leads_displacements hname]
  · simp [leads_polygon_binary hname hwriter hreader, leads_equalsFunction hname, leads_polygon_functions hname]

end Leads

/-! ## All templates -/

/-- A template has the same lines without the writer and the reader, except for the heads of the binary functions. -/
theorem streams_script {t : Template} {declaration : Script} (h : t.script ctx = .ok declaration) :
    ∃ bare, t.script ctx.streamless = .ok bare ∧ Streams ctx declaration bare := by
  cases t with
  | circle | sphere =>
    cases h
    exact ⟨_, rfl, Streams.outline (((streams_derivedFunctions _).append (streams_self _)).append (streams_self _))⟩
  | line | plane | ray =>
    cases h
    exact ⟨_, rfl, Streams.outline ((streams_derivedFunctions _).append (streams_self _))⟩
  | polygon =>
    cases h
    exact ⟨_, rfl, Streams.outline (((streams_binaryMembers _ _).region.append (streams_self _)).append (streams_self _))⟩
  | ellipse =>
    obtain ⟨axes, haxes, rfl⟩ := exists_of_map_eq_ok h
    exact ⟨_, congrArg (Except.map _) haxes,
      Streams.outline ((streams_derivedFunctions _).append (streams_self _))⟩
  | rectangle =>
    obtain ⟨axes, haxes, rfl⟩ := exists_of_map_eq_ok h
    exact ⟨_, congrArg (Except.map _) haxes,
      Streams.outline (((streams_derivedFunctions _).append (streams_self _)).append (streams_self _))⟩

/-- Whatever the writer and the reader are called, all other lines of a template are single ones. -/
theorem singleLine_or_head {t : Template} {declaration : Script} (h : t.script ctx = .ok declaration) :
    EachLine (fun text => SingleLine text ∨ text = writeHead ctx ∨ text = readHead ctx) declaration := by
  obtain ⟨bare, hbare, hstreams⟩ := streams_script h
  have hempty : SingleLine "" := by decide
  obtain ⟨a, rfl, -⟩ := @exists_arrangement ctx.streamless hempty hempty _ _ hbare
  exact hstreams.mono fun text hline => hline.imp_left (a.singleLine_script text)

section References

variable {t : Template} {declaration : Script} (hreferences : ∀ w ∈ t.references ctx, cited w)
  (hwriter : Names cited ctx.binaryWriter) (hreader : Names cited ctx.binaryReader)

include hreferences hwriter hreader

/-- Every line of a template leads to a shape type that the template refers to, or to none. -/
theorem leads_script (h : t.script ctx = .ok declaration) : EachLine (Leads cited) declaration := by
  have hname : cited ctx.name := hreferences _ (by simp [references])
  have hothers : ∀ n ∈ ctx.others, cited (ctx.nameFor n) := fun n hn =>
    hreferences _ (by simp [references, List.mem_map_of_mem hn])
  cases t with
  | circle => cases h; exact leads_round hname hothers hwriter hreader Round.plain_circle
  | sphere => cases h; exact leads_round hname hothers hwriter hreader Round.plain_sphere
  | line => cases h; exact leads_line hname hothers hwriter hreader
  | plane => cases h; exact leads_plane hname hothers hwriter hreader
  | polygon => cases h; exact leads_polygon hname hothers hwriter hreader
  | ray =>
    cases h
    exact leads_ray hname hothers hwriter hreader (hreferences _ (by simp [references]))
      (hreferences _ (by simp [references]))
  | ellipse =>
    obtain ⟨axes, haxes, rfl⟩ := exists_of_map_eq_ok h
    exact leads_ellipse hname hothers hwriter hreader haxes fun n hn =>
      hreferences _ (by simp [references, List.mem_map_of_mem hn])
  | rectangle =>
    obtain ⟨axes, haxes, rfl⟩ := exists_of_map_eq_ok h
    exact leads_rectangle hname hothers hwriter hreader haxes

/-- The shape types that the parameter lists of a template mention are those that the template refers to, whatever the
writer and the reader are called. -/
theorem cites_script (h : t.script ctx = .ok declaration) : EachLine (Cites cited) declaration := by
  have hname : cited ctx.name := hreferences _ (by simp [references])
  have hleads := leads_script hreferences hwriter hreader h
  intro text htext
  rcases singleLine_or_head h text htext with hsingle | rfl | rfl
  · exact (hleads text htext).cites hsingle
  · exact (names_writeHead hname hwriter).cites
  · exact (names_readHead hname hreader).cites

end References

/-! ## Rays and spheres -/

namespace Ray

/-- The parameters of the function by which a ray meets a sphere. -/
def sphereParameters (ctx : Context) : List Parameter :=
  [⟨ctx.name, "ray"⟩, ⟨ctx.shapeName .sphere ctx.numeric, "sphere"⟩]

/-- The head of that function. -/
def sphereHead (ctx : Context) : String :=
  "public static " ++ distanceOrNull ctx ++ " " ++ "Intersects" ++ parameterList (sphereParameters ctx)

/-- A ray has that function. -/
theorem sphereHead_mem_functions (ctx : Context) : .line (sphereHead ctx) ∈ functions ctx := by
  have hmeet : .line (sphereHead ctx) ∈ meetSphere ctx :=
    List.mem_append_right _ List.mem_cons_self
  exact List.mem_append_left _ (List.mem_append_right _ (List.mem_append_right _ hmeet))

theorem sphereHead_mem_script (ctx : Context) : .line (sphereHead ctx) ∈ script ctx := by
  have hfunctions : .line (sphereHead ctx) ∈ derivedFunctions ctx storedFields ++ functions ctx :=
    List.mem_append_right _ (sphereHead_mem_functions ctx)
  exact List.mem_append_left _ (List.mem_append_right _ hfunctions)

theorem singleLine_sphereHead (ctx : Context) : SingleLine (sphereHead ctx) :=
  singleLine_of_ordinary ordinary_functions _ (sphereHead_mem_functions ctx)

/-- The head of that function refers to the ray and to the sphere of its number type. -/
theorem parameterTypes_sphereHead (ctx : Context) :
    parameterTypes (sphereHead ctx) = [ctx.name, ctx.shapeName .sphere ctx.numeric] := by
  have hkeyword : '(' ∉ ctx.scalar.toList := fun hmem => absurd (ctx.numeric.isWord_keyword.2 _ hmem) (by decide)
  refine parameterTypes_head ?_ ?_ (by simp [sphereParameters]) ?_
  · simp only [String.append_assoc, String.toList_append]
    exact (List.prefix_append_of_prefix (by decide))
  · simp [distanceOrNull, hkeyword]
  · simp only [sphereParameters, List.forall_mem_cons]
    exact ⟨⟨ctx.isWord_name, by decide⟩, ⟨isWord_typeName _ _ _, by decide⟩, by simp⟩

end Ray

end GeometrySource.Template
